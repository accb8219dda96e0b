import DbFree.SchemaDiff

/- What the comparison of two schemas covers, and the same comparison with its sides and its
direction exchanged. -/
namespace DbFree.Schema

open Pairing RowCompare

/-- The direction that names the same source once the sides are exchanged. -/
def opposite : CompareDirection → CompareDirection
  | .leftToRight => .rightToLeft
  | .rightToLeft => .leftToRight

theorem oneSided_opposite (inLeft : Bool) (direction : CompareDirection) :
    oneSided (!inLeft) (opposite direction) = oneSided inLeft direction := by
  cases inLeft <;> cases direction <;> rfl

/-- An entry with its sides exchanged; a matched column takes its name from the left. -/
def ColumnDiff.mirror (column : ColumnDiff) : ColumnDiff :=
  ⟨column.right.elim column.name (·.name), column.status, column.right, column.left,
    column.changes⟩

def ForeignKeyDiff.mirror (fk : ForeignKeyDiff) : ForeignKeyDiff := ⟨fk.status, fk.right, fk.left⟩

variable (letters : Letters)

/-- No two tables of a schema, and no two columns of a table, have names that fold alike. -/
structure DistinctNames (schema : SchemaSnapshot) : Prop where
  tables : (schema.tables.map fun table => fold letters table.table.name).Nodup
  columns : ∀ table ∈ schema.tables, (table.columns.map fun column => fold letters column.name).Nodup

/-- The key that columns are matched by. -/
def columnKey (column : ColumnInfo) : Text := fold letters column.name

/-- The entry of two matched columns, or of one. -/
def entryOf (direction : CompareDirection) :
    Option ColumnInfo × Option ColumnInfo → ColumnDiff
  | (some left, some right) => matchedColumn letters left right
  | (some left, none) => ⟨left.name, oneSided true direction, some left, none, []⟩
  | (none, some right) => ⟨right.name, oneSided false direction, none, some right, []⟩
  | (none, none) => ⟨[], .identical, none, none, []⟩

section

variable {letters}

theorem byOrdinal_perm (columns : List ColumnInfo) : (byOrdinal columns).Perm columns :=
  List.perm_insertionSort _ columns

variable (letters) in
theorem columnDiffs_perm (left right : List ColumnInfo) (direction : CompareDirection) :
    (columnDiffs letters left right direction).Perm
      ((pairs (columnKey letters) left right).map (entryOf letters direction)) := by
  rw [columnDiffs, pairs, List.map_append, List.map_map, List.map_map]
  apply List.Perm.append
  · refine List.Perm.trans (List.Perm.of_eq (List.map_congr_left ?_)) ((byOrdinal_perm left).map _)
    intro column _
    show _ = entryOf letters direction (column, partner letters right column)
    cases partner letters right column <;> rfl
  · exact (byOrdinal_perm _).map _

theorem columnChanges_comm (left right : ColumnInfo) :
    columnChanges letters left right = columnChanges letters right left := by
  simp only [columnChanges, ne_comm]

theorem entryOf_swap (direction : CompareDirection)
    (pair : Option ColumnInfo × Option ColumnInfo) :
    entryOf letters (opposite direction) pair.swap = (entryOf letters direction pair).mirror := by
  obtain ⟨left, right⟩ := pair
  cases left with
  | none =>
    cases right with
    | none => rfl
    | some right =>
      show ColumnDiff.mk right.name (oneSided true (opposite direction)) (some right) none [] = _
      have status := oneSided_opposite false direction
      rw [Bool.not_false] at status
      rw [status]
      rfl
  | some left =>
    cases right with
    | none =>
      show ColumnDiff.mk left.name (oneSided false (opposite direction)) none (some left) [] = _
      have status := oneSided_opposite true direction
      rw [Bool.not_true] at status
      rw [status]
      rfl
    | some right =>
      show matchedColumn letters right left = (matchedColumn letters left right).mirror
      rw [matchedColumn, matchedColumn, columnChanges_comm right left]
      rfl

theorem columnDiffs_mirror {left right : List ColumnInfo}
    (distinct : (left.map (columnKey letters)).Nodup)
    (distinct' : (right.map (columnKey letters)).Nodup) (direction : CompareDirection) :
    (columnDiffs letters right left (opposite direction)).Perm
      ((columnDiffs letters left right direction).map ColumnDiff.mirror) := by
  have swapped := (pairs_swap distinct distinct').map (entryOf letters (opposite direction))
  rw [List.map_map] at swapped
  have same : entryOf letters (opposite direction) ∘ Prod.swap =
      ColumnDiff.mirror ∘ entryOf letters direction :=
    funext fun pair => entryOf_swap direction pair
  rw [same, ← List.map_map] at swapped
  exact (columnDiffs_perm letters right left _).trans
    (swapped.trans ((columnDiffs_perm letters left right direction).map _).symm)

theorem columnDiffs_left {left right : List ColumnInfo} (direction : CompareDirection) :
    ((columnDiffs letters left right direction).filterMap (·.left)).Perm left := by
  have sides : ∀ pair, (entryOf letters direction pair).left = pair.1 := by
    rintro ⟨_ | _, _ | _⟩ <;> rfl
  have perm := (columnDiffs_perm letters left right direction).filterMap (·.left)
  rw [List.filterMap_map, show (ColumnDiff.left ∘ entryOf letters direction) = Prod.fst from
    funext sides, pairs_left] at perm
  exact perm

theorem columnDiffs_right {left right : List ColumnInfo}
    (distinct : (left.map (columnKey letters)).Nodup)
    (distinct' : (right.map (columnKey letters)).Nodup) (direction : CompareDirection) :
    ((columnDiffs letters left right direction).filterMap (·.right)).Perm right := by
  have sides : ∀ pair, (entryOf letters direction pair).right = pair.2 := by
    rintro ⟨_ | _, _ | _⟩ <;> rfl
  have perm := (columnDiffs_perm letters left right direction).filterMap (·.right)
  rw [List.filterMap_map, show (ColumnDiff.right ∘ entryOf letters direction) = Prod.snd from
    funext sides] at perm
  exact perm.trans (pairs_right distinct distinct')

variable (letters) in
theorem foreignKeyDiffs_mirror (left right : List ForeignKey) (direction : CompareDirection) :
    (foreignKeyDiffs letters right left (opposite direction)).Perm
      ((foreignKeyDiffs letters left right direction).map ForeignKeyDiff.mirror) := by
  have first := oneSided_opposite true direction
  have second := oneSided_opposite false direction
  rw [Bool.not_true] at first
  rw [Bool.not_false] at second
  rw [foreignKeyDiffs, foreignKeyDiffs, List.map_append, List.map_map, List.map_map]
  apply List.Perm.trans List.perm_append_comm
  rw [first, second]
  exact List.Perm.refl _

/-- A table with its sides exchanged. -/
def TableDiff.mirror (table : TableDiff) : TableDiff :=
  ⟨table.name, table.status, table.right, table.left, table.columns.map ColumnDiff.mirror,
    table.foreignKeys.map ForeignKeyDiff.mirror⟩

theorem oneSideTable_mirror (table : TableSnapshot) (inLeft : Bool) (direction : CompareDirection) :
    oneSideTable table (!inLeft) (opposite direction) =
      (oneSideTable table inLeft direction).mirror := by
  have status := oneSided_opposite inLeft direction
  simp only [oneSideTable, TableDiff.mirror, status, List.map_map]
  cases inLeft <;> rfl

/-- Entries of one table, seen from the two sides. -/
structure Mirrored (letters : Letters) (entry entry' : TableDiff) : Prop where
  name : fold letters entry'.name = fold letters entry.name
  status : entry'.status = entry.status
  left : entry'.left = entry.right
  right : entry'.right = entry.left
  columns : entry'.columns.Perm (entry.columns.map ColumnDiff.mirror)
  foreignKeys : entry'.foreignKeys.Perm (entry.foreignKeys.map ForeignKeyDiff.mirror)

theorem mirrored_mirror (table : TableDiff) : Mirrored letters table table.mirror :=
  ⟨rfl, rfl, rfl, rfl, List.Perm.refl _, List.Perm.refl _⟩

theorem any_of_mirror {columns columns' : List ColumnDiff}
    (same : columns'.Perm (columns.map ColumnDiff.mirror)) :
    columns'.any (·.status ≠ .identical) = columns.any (·.status ≠ .identical) := by
  rw [same.any_eq, List.any_map]
  rfl

theorem tableDiff_mirrored {left right : TableSnapshot}
    (distinct : (left.columns.map (columnKey letters)).Nodup)
    (distinct' : (right.columns.map (columnKey letters)).Nodup)
    (names : fold letters left.table.name = fold letters right.table.name)
    (direction : CompareDirection) :
    Mirrored letters (tableDiff letters left right direction)
      (tableDiff letters right left (opposite direction)) := by
  have columns := columnDiffs_mirror distinct distinct' direction
  have keys := foreignKeyDiffs_mirror letters left.foreignKeys right.foreignKeys direction
  refine ⟨names.symm, ?_, rfl, rfl, columns, keys⟩
  have none_listed : (foreignKeyDiffs letters right.foreignKeys left.foreignKeys
      (opposite direction)).isEmpty =
      (foreignKeyDiffs letters left.foreignKeys right.foreignKeys direction).isEmpty := by
    rw [keys.isEmpty_eq, List.isEmpty_map]
  simp only [tableDiff, any_of_mirror columns, none_listed]

theorem filed_some {tables : List TableSnapshot} {name : Text} {table : TableSnapshot}
    (found : filed letters tables name = some table) :
    table ∈ tables ∧ fold letters table.table.name = name := by
  have same := List.find?_some found
  exact ⟨List.mem_reverse.mp (List.mem_of_find?_eq_some found), by simpa using same⟩

theorem filed_iff {tables : List TableSnapshot}
    (distinct : (tables.map fun table => fold letters table.table.name).Nodup) {name : Text}
    {table : TableSnapshot} :
    filed letters tables name = some table ↔
      table ∈ tables ∧ fold letters table.table.name = name := by
  constructor
  · exact filed_some
  · rintro ⟨member, same⟩
    cases found : filed letters tables name with
    | none =>
      have absent := List.find?_eq_none.mp found table (List.mem_reverse.mpr member)
      simp [same] at absent
    | some other =>
      obtain ⟨member', same'⟩ := filed_some found
      rw [eq_of_key distinct member' member (same'.trans same.symm)]

theorem foldedNames_comm (left right : List TableSnapshot) :
    foldedNames letters right left = foldedNames letters left right := by
  rw [foldedNames, foldedNames]
  apply List.Perm.eq_of_pairwise _ (List.pairwise_insertionSort (· ≤ ·) _)
    (List.pairwise_insertionSort (· ≤ ·) _)
  · apply (List.perm_insertionSort _ _).trans
    apply List.Perm.trans _ (List.perm_insertionSort _ _).symm
    apply List.Perm.dedup
    exact List.Perm.map _ List.perm_append_comm
  · intro first second _ _ below above
    exact le_antisymm below above

variable (letters) in
theorem foldedNames_nodup (left right : List TableSnapshot) :
    (foldedNames letters left right).Nodup :=
  (List.perm_insertionSort _ _).nodup_iff.mpr (List.nodup_dedup _)

theorem mem_foldedNames (left right : List TableSnapshot) (name : Text) :
    name ∈ foldedNames letters left right ↔
      ∃ table ∈ left ++ right, fold letters table.table.name = name := by
  rw [foldedNames, (List.perm_insertionSort _ _).mem_iff, List.mem_dedup, List.mem_map]

/-- Each table of a side is filed under one of the names. -/
theorem filed_all {left right tables : List TableSnapshot} (side : tables ⊆ left ++ right)
    (distinct : (tables.map fun table => fold letters table.table.name).Nodup) :
    ((foldedNames letters left right).filterMap (filed letters tables)).Perm tables := by
  have nodup : ((foldedNames letters left right).filterMap (filed letters tables)).Nodup := by
    apply (foldedNames_nodup letters left right).filterMap
    intro name name' table found found'
    rw [← (filed_some found).2, ← (filed_some found').2]
  apply (List.perm_ext_iff_of_nodup nodup (nodup_of_keys distinct)).mpr
  intro table
  rw [List.mem_filterMap]
  constructor
  · rintro ⟨name, _, found⟩
    exact (filed_some found).1
  · intro member
    refine ⟨fold letters table.table.name, ?_, (filed_iff distinct).mpr ⟨member, rfl⟩⟩
    exact (mem_foldedNames left right _).mpr ⟨table, side member, rfl⟩

variable (letters) in
/-- The entry of a folded name. -/
def tableEntry (left right : SchemaSnapshot) (direction : CompareDirection) (name : Text) :
    TableDiff :=
  match filed letters left.tables name, filed letters right.tables name with
  | some l, some r => tableDiff letters l r direction
  | some l, none => oneSideTable l true direction
  | none, some r => oneSideTable r false direction
  | none, none => ⟨[], .identical, none, none, [], []⟩

theorem diff_eq (left right : SchemaSnapshot) (direction : CompareDirection) :
    diff letters left right direction =
      (foldedNames letters left.tables right.tables).map
        (tableEntry letters left right direction) := rfl

variable (letters) in
theorem tableEntry_sides (left right : SchemaSnapshot) (direction : CompareDirection)
    (name : Text) :
    (tableEntry letters left right direction name).left =
        (filed letters left.tables name).map (·.table) ∧
      (tableEntry letters left right direction name).right =
        (filed letters right.tables name).map (·.table) := by
  rw [tableEntry]
  cases filed letters left.tables name <;> cases filed letters right.tables name <;>
    exact ⟨rfl, rfl⟩

variable (letters) in
/-- Every table is in one entry, every column of a matched pair in one entry of it, and every
foreign key of the pair that the other side lacks. -/
structure Covers (left right : SchemaSnapshot) (direction : CompareDirection) : Prop where
  left_tables : ((diff letters left right direction).filterMap (·.left)).Perm
    (left.tables.map (·.table))
  right_tables : ((diff letters left right direction).filterMap (·.right)).Perm
    (right.tables.map (·.table))
  pairs : ∀ entry ∈ diff letters left right direction, ∀ l ∈ left.tables, ∀ r ∈ right.tables,
    entry.left = some l.table → entry.right = some r.table →
      (entry.columns.filterMap (·.left)).Perm l.columns ∧
      (entry.columns.filterMap (·.right)).Perm r.columns ∧
      entry.foreignKeys.filterMap (·.left) = l.foreignKeys.filter (fun fk =>
        fkSignature letters fk ∉ r.foreignKeys.map (fkSignature letters)) ∧
      entry.foreignKeys.filterMap (·.right) = r.foreignKeys.filter (fun fk =>
        fkSignature letters fk ∉ l.foreignKeys.map (fkSignature letters))

variable (letters) in
theorem foreignKeyDiffs_sides (left right : List ForeignKey) (direction : CompareDirection) :
    (foreignKeyDiffs letters left right direction).filterMap (·.left) = left.filter (fun fk =>
        fkSignature letters fk ∉ right.map (fkSignature letters)) ∧
      (foreignKeyDiffs letters left right direction).filterMap (·.right) = right.filter (fun fk =>
        fkSignature letters fk ∉ left.map (fkSignature letters)) := by
  rw [foreignKeyDiffs, List.filterMap_append, List.filterMap_append, List.filterMap_map,
    List.filterMap_map, List.filterMap_map, List.filterMap_map]
  have kept : ∀ keys : List ForeignKey, keys.filterMap (fun fk => some fk) = keys :=
    fun keys => List.filterMap_some
  have dropped : ∀ keys : List ForeignKey, keys.filterMap (fun _ => (none : Option ForeignKey)) = [] :=
    fun keys => by simp
  constructor
  · show List.filterMap (fun fk => some fk) _ ++ List.filterMap (fun _ => none) _ = _
    rw [kept, dropped, List.append_nil]
  · show List.filterMap (fun _ => none) _ ++ List.filterMap (fun fk => some fk) _ = _
    rw [kept, dropped, List.nil_append]

theorem diff_covers {left right : SchemaSnapshot} (distinct : DistinctNames letters left)
    (distinct' : DistinctNames letters right) (direction : CompareDirection) :
    Covers letters left right direction := by
  constructor
  · rw [diff_eq, List.filterMap_map]
    have sides : (TableDiff.left ∘ tableEntry letters left right direction) =
        fun name => (filed letters left.tables name).map (·.table) :=
      funext fun name => (tableEntry_sides letters left right direction name).1
    rw [sides, ← List.map_filterMap]
    exact (filed_all (List.subset_append_left _ _) distinct.tables).map _
  · rw [diff_eq, List.filterMap_map]
    have sides : (TableDiff.right ∘ tableEntry letters left right direction) =
        fun name => (filed letters right.tables name).map (·.table) :=
      funext fun name => (tableEntry_sides letters left right direction name).2
    rw [sides, ← List.map_filterMap]
    exact (filed_all (List.subset_append_right _ _) distinct'.tables).map _
  · intro entry member l l_member r r_member left_eq right_eq
    rw [diff_eq] at member
    obtain ⟨name, _, rfl⟩ := List.mem_map.mp member
    obtain ⟨left_side, right_side⟩ := tableEntry_sides letters left right direction name
    rw [left_side, Option.map_eq_some_iff] at left_eq
    rw [right_side, Option.map_eq_some_iff] at right_eq
    obtain ⟨l', found, l_same⟩ := left_eq
    obtain ⟨r', found', r_same⟩ := right_eq
    have l_eq : l' = l := by
      apply eq_of_key distinct.tables (filed_some found).1 l_member
      rw [l_same]
    have r_eq : r' = r := by
      apply eq_of_key distinct'.tables (filed_some found').1 r_member
      rw [r_same]
    subst l_eq
    subst r_eq
    rw [tableEntry, found, found']
    have keys := foreignKeyDiffs_sides letters l'.foreignKeys r'.foreignKeys direction
    exact ⟨columnDiffs_left direction,
      columnDiffs_right (distinct.columns l' l_member) (distinct'.columns r' r_member) direction,
      keys.1, keys.2⟩

/-- The entries come in the same order, each seen from the other side. -/
theorem diff_mirrored {left right : SchemaSnapshot} (distinct : DistinctNames letters left)
    (distinct' : DistinctNames letters right) (direction : CompareDirection) :
    List.Forall₂ (Mirrored letters) (diff letters left right direction)
      (diff letters right left (opposite direction)) := by
  rw [diff_eq, diff_eq, foldedNames_comm left.tables right.tables, List.forall₂_map_left_iff,
    List.forall₂_map_right_iff, List.forall₂_same]
  intro name _
  rw [tableEntry, tableEntry]
  cases found : filed letters left.tables name with
  | none =>
    cases found' : filed letters right.tables name with
    | none => exact mirrored_mirror ⟨[], .identical, none, none, [], []⟩
    | some r =>
      have same := oneSideTable_mirror r false direction
      rw [Bool.not_false] at same
      simp only [same]
      exact mirrored_mirror _
  | some l =>
    cases found' : filed letters right.tables name with
    | none =>
      have same := oneSideTable_mirror l true direction
      rw [Bool.not_true] at same
      simp only [same]
      exact mirrored_mirror _
    | some r =>
      obtain ⟨member, l_name⟩ := filed_some found
      obtain ⟨member', r_name⟩ := filed_some found'
      exact tableDiff_mirrored (distinct.columns l member) (distinct'.columns r member')
        (l_name.trans r_name.symm) direction

/-- The same change, but for the order in which a key names its columns. -/
inductive Change.Like : Change → Change → Prop
  | same (change : Change) : Like change change
  | primaryKey {source source' target target' : List Text} (sources : source'.Perm source)
      (targets : target'.Perm target) :
      Like (.primaryKey source' target') (.primaryKey source target)

/-- The same changes of one table, in some order. -/
def SameChanges (alter alter' : Text × List Change) : Prop :=
  alter'.1 = alter.1 ∧ ∃ changes, alter'.2.Perm changes ∧ List.Forall₂ Change.Like changes alter.2

structure SameMigration (migration migration' : Migration) : Prop where
  dropKeys : migration'.dropKeys = migration.dropKeys
  creates : migration'.creates = migration.creates
  alters : List.Forall₂ SameChanges migration.alters migration'.alters
  addKeys : migration'.addKeys = migration.addKeys
  drops : migration'.drops = migration.drops

theorem sourceSide_opposite {T : Type} (left right : Option T) (direction : CompareDirection) :
    sourceSide right left (opposite direction) = sourceSide left right direction := by
  cases direction <;> rfl

theorem targetSide_opposite {T : Type} (left right : Option T) (direction : CompareDirection) :
    targetSide right left (opposite direction) = targetSide left right direction := by
  cases direction <;> rfl

/-- Parts of a list with distinct keys have the same keys only when they are the same part. -/
theorem filter_keys_eq_iff {Entry Key : Type} {key : Entry → Key} {entries : List Entry}
    (distinct : (entries.map key).Nodup) (p q : Entry → Bool) :
    (entries.filter p).map key = (entries.filter q).map key ↔ ∀ entry ∈ entries, p entry = q entry := by
  have inside : ∀ p q : Entry → Bool, (entries.filter p).map key = (entries.filter q).map key →
      ∀ entry ∈ entries, p entry = true → q entry = true := by
    intro p q same entry member kept
    have listed : key entry ∈ (entries.filter p).map key :=
      List.mem_map_of_mem (List.mem_filter.mpr ⟨member, kept⟩)
    rw [same] at listed
    obtain ⟨other, other_kept, key_eq⟩ := List.mem_map.mp listed
    have equal := eq_of_key distinct (List.mem_filter.mp other_kept).1 member key_eq
    rw [← equal]
    exact (List.mem_filter.mp other_kept).2
  constructor
  · intro same entry member
    exact Bool.eq_iff_iff.mpr ⟨inside p q same entry member, inside q p same.symm entry member⟩
  · intro agree
    rw [List.filter_congr agree]

/-- The folded name of an entry's columns. -/
def entryKey (letters : Letters) (column : ColumnDiff) : Option Text :=
  pairKey (columnKey letters) (column.left, column.right)

theorem entryKeys_nodup {left right : List ColumnInfo}
    (distinct : (left.map (columnKey letters)).Nodup)
    (distinct' : (right.map (columnKey letters)).Nodup) (direction : CompareDirection) :
    ((columnDiffs letters left right direction).map (entryKey letters)).Nodup := by
  have perm := (columnDiffs_perm letters left right direction).map (entryKey letters)
  rw [List.map_map] at perm
  have keys : entryKey letters ∘ entryOf letters direction = pairKey (columnKey letters) := by
    funext pair
    obtain ⟨_ | _, _ | _⟩ := pair <;> rfl
  rw [keys] at perm
  exact perm.nodup_iff.mpr (pairs_keys_nodup distinct distinct')

/-- Whether the column of a side belongs to the primary key. -/
def inKey (side : Option ColumnInfo → Option ColumnInfo → Option ColumnInfo)
    (column : ColumnDiff) : Bool := (side column.left column.right).any (·.primaryKey)

theorem keyColumns_fold (side : Option ColumnInfo → Option ColumnInfo → Option ColumnInfo)
    (columns : List ColumnDiff) (keyed : ∀ column ∈ columns, ∀ found,
      side column.left column.right = some found →
        entryKey letters column = some (fold letters found.name)) :
    ((keyColumns side columns).map (fold letters)).map some =
      (columns.filter (inKey side)).map (entryKey letters) := by
  induction columns with
  | nil => rfl
  | cons column rest hypothesis =>
    have later := hypothesis fun other member => keyed other (List.mem_cons_of_mem column member)
    simp only [keyColumns] at later ⊢
    rw [List.filterMap_cons]
    cases here : side column.left column.right with
    | none =>
      have out : ¬ inKey side column = true := by
        rw [inKey, here]
        simp
      rw [List.filter_cons_of_neg out]
      exact later
    | some found =>
      have in_iff : inKey side column = found.primaryKey := by rw [inKey, here]; rfl
      have key_eq := keyed column List.mem_cons_self found here
      by_cases primary : found.primaryKey = true
      · simp only [List.filter_cons_of_pos primary, List.map_cons]
        rw [List.filter_cons_of_pos (in_iff.trans primary), List.map_cons, key_eq, later]
      · simp only [List.filter_cons_of_neg primary]
        rw [List.filter_cons_of_neg (by rw [in_iff]; exact primary)]
        exact later

theorem entryKey_sides {left right : List ColumnInfo}
    (distinct : (right.map (columnKey letters)).Nodup) (direction : CompareDirection) :
    ∀ column ∈ columnDiffs letters left right direction, ∀ found,
      column.left = some found ∨ column.right = some found →
        entryKey letters column = some (fold letters found.name) := by
  intro column member found side
  have listed := (columnDiffs_perm letters left right direction).mem_iff.mp member
  obtain ⟨pair, pair_member, rfl⟩ := List.mem_map.mp listed
  have paired := (mem_pairs_iff distinct pair).mp pair_member
  obtain ⟨first, second⟩ := pair
  cases first with
  | none =>
    cases second with
    | none => exact paired.elim
    | some second =>
      rcases side with side | side
      · cases side
      · cases side
        rfl
  | some first =>
    cases second with
    | none =>
      rcases side with side | side
      · cases side
        rfl
      · cases side
    | some second =>
      rcases side with side | side
      · cases side
        rfl
      · cases side
        exact congrArg some paired.2.2

theorem side_of_sourceSide {T : Type} {left right : Option T} {direction : CompareDirection}
    {found : T} (here : sourceSide left right direction = some found) :
    left = some found ∨ right = some found := by
  cases direction
  · exact Or.inl here
  · exact Or.inr here

theorem side_of_targetSide {T : Type} {left right : Option T} {direction : CompareDirection}
    {found : T} (here : targetSide left right direction = some found) :
    left = some found ∨ right = some found := by
  cases direction
  · exact Or.inr here
  · exact Or.inl here

/-- The keys of the two sides differ where a column is in one of them only. -/
theorem keyColumns_eq_iff {left right : List ColumnInfo}
    (distinct : (left.map (columnKey letters)).Nodup)
    (distinct' : (right.map (columnKey letters)).Nodup) (direction sides : CompareDirection) :
    (keyColumns (sourceSide · · sides) (columnDiffs letters left right direction)).map
          (fold letters) =
        (keyColumns (targetSide · · sides) (columnDiffs letters left right direction)).map
          (fold letters) ↔
      ∀ column ∈ columnDiffs letters left right direction,
        inKey (sourceSide · · sides) column = inKey (targetSide · · sides) column := by
  rw [← filter_keys_eq_iff (entryKeys_nodup distinct distinct' direction),
    ← keyColumns_fold (sourceSide · · sides) _ fun column member found here =>
      entryKey_sides distinct' direction column member found (side_of_sourceSide here),
    ← keyColumns_fold (targetSide · · sides) _ fun column member found here =>
      entryKey_sides distinct' direction column member found (side_of_targetSide here)]
  exact (List.map_injective_iff.mpr (Option.some_injective Text)).eq_iff.symm

theorem inKey_mirror (direction : CompareDirection) (column : ColumnDiff) :
    inKey (sourceSide · · (opposite direction)) column.mirror =
        inKey (sourceSide · · direction) column ∧
      inKey (targetSide · · (opposite direction)) column.mirror =
        inKey (targetSide · · direction) column := by
  rw [inKey, inKey, inKey, inKey]
  exact ⟨congrArg (fun side => Option.any (fun c : ColumnInfo => c.primaryKey) side)
      (sourceSide_opposite column.left column.right direction),
    congrArg (fun side => Option.any (fun c : ColumnInfo => c.primaryKey) side)
      (targetSide_opposite column.left column.right direction)⟩

/-- The columns of a side's key do not depend on which side comes first, their order aside. -/
theorem keyColumns_mirror {columns columns' : List ColumnDiff}
    (same : columns'.Perm (columns.map ColumnDiff.mirror))
    {side side' : Option ColumnInfo → Option ColumnInfo → Option ColumnInfo}
    (sides : ∀ left right, side' right left = side left right) :
    (keyColumns side' columns').Perm (keyColumns side columns) := by
  apply List.Perm.map
  apply List.Perm.filter
  have perm := same.filterMap fun column => side' column.left column.right
  rw [List.filterMap_map] at perm
  have same_side : ((fun column : ColumnDiff => side' column.left column.right) ∘
      ColumnDiff.mirror) = fun column => side column.left column.right :=
    funext fun column => sides column.left column.right
  rw [same_side] at perm
  exact perm

variable (letters) in
/-- Columns that are only on the target are named as they are there. -/
theorem mirror_name_of_removed (left right : List ColumnInfo) (direction : CompareDirection) :
    ∀ column ∈ columnDiffs letters left right direction, column.status = .removed →
      column.mirror.name = column.name := by
  intro column member removed
  have listed := (columnDiffs_perm letters left right direction).mem_iff.mp member
  obtain ⟨pair, _, rfl⟩ := List.mem_map.mp listed
  obtain ⟨first, second⟩ := pair
  cases first with
  | none => cases second <;> rfl
  | some first =>
    cases second with
    | none => rfl
    | some second =>
      simp only [entryOf, matchedColumn] at removed
      split_ifs at removed

theorem status_mirror (status : DiffStatus) {columns columns' : List ColumnDiff}
    (same : columns'.Perm (columns.map ColumnDiff.mirror)) :
    (columns'.filter (·.status = status)).Perm
      ((columns.filter (·.status = status)).map ColumnDiff.mirror) := by
  have perm := same.filter fun column => decide (column.status = status)
  rw [List.filter_map] at perm
  exact perm

theorem filterMap_mirror {T : Type} {columns columns' : List ColumnDiff}
    (same : columns'.Perm (columns.map ColumnDiff.mirror)) {f f' : ColumnDiff → Option T}
    (agree : ∀ column ∈ columns, f' column.mirror = f column) :
    (columns'.filterMap f').Perm (columns.filterMap f) := by
  have perm := same.filterMap f'
  rw [List.filterMap_map] at perm
  exact perm.trans (List.Perm.of_eq (List.filterMap_congr agree))

theorem addedColumns_mirror {columns columns' : List ColumnDiff}
    (same : columns'.Perm (columns.map ColumnDiff.mirror)) (direction : CompareDirection) :
    (addedColumns (opposite direction) columns').Perm (addedColumns direction columns) := by
  apply filterMap_mirror (status_mirror .added same)
  intro column _
  show (sourceSide column.right column.left (opposite direction)).map Change.addColumn = _
  rw [sourceSide_opposite]

theorem alteredColumns_mirror {columns columns' : List ColumnDiff}
    (same : columns'.Perm (columns.map ColumnDiff.mirror)) (direction : CompareDirection) :
    (alteredColumns (opposite direction) columns').Perm (alteredColumns direction columns) := by
  apply filterMap_mirror (status_mirror .changed same)
  intro column _
  simp only [ColumnDiff.mirror, sourceSide_opposite, targetSide_opposite]

theorem droppedColumns_mirror {columns columns' : List ColumnDiff}
    (same : columns'.Perm (columns.map ColumnDiff.mirror))
    (names : ∀ column ∈ columns, column.status = .removed → column.mirror.name = column.name) :
    (droppedColumns columns').Perm (droppedColumns columns) := by
  have perm := (status_mirror .removed same).map fun column => Change.dropColumn column.name
  rw [List.map_map] at perm
  refine perm.trans (List.Perm.of_eq (List.map_congr_left ?_))
  intro column member
  obtain ⟨listed, removed⟩ := List.mem_filter.mp member
  exact congrArg Change.dropColumn (names column listed (of_decide_eq_true removed))

theorem changedKey_mirror {left right : List ColumnInfo}
    (distinct : (left.map (columnKey letters)).Nodup)
    (distinct' : (right.map (columnKey letters)).Nodup) (direction : CompareDirection) :
    List.Forall₂ Change.Like
      (changedKey letters (opposite direction)
        (columnDiffs letters right left (opposite direction)))
      (changedKey letters direction (columnDiffs letters left right direction)) := by
  have columns := columnDiffs_mirror distinct distinct' direction
  have key_iff := keyColumns_eq_iff distinct distinct' direction direction
  have key_iff' := keyColumns_eq_iff distinct' distinct (opposite direction) (opposite direction)
  have same_key : (∀ column ∈ columnDiffs letters right left (opposite direction),
        inKey (sourceSide · · (opposite direction)) column =
          inKey (targetSide · · (opposite direction)) column) ↔
      ∀ column ∈ columnDiffs letters left right direction,
        inKey (sourceSide · · direction) column = inKey (targetSide · · direction) column := by
    constructor
    · intro agree column member
      have mirrored := agree column.mirror (columns.mem_iff.mpr (List.mem_map_of_mem member))
      rwa [(inKey_mirror direction column).1, (inKey_mirror direction column).2] at mirrored
    · intro agree column member
      obtain ⟨other, other_member, rfl⟩ := List.mem_map.mp (columns.mem_iff.mp member)
      rw [(inKey_mirror direction other).1, (inKey_mirror direction other).2]
      exact agree other other_member
  rw [← key_iff, ← key_iff'] at same_key
  simp only [changedKey]
  by_cases same : (keyColumns (sourceSide · · direction)
      (columnDiffs letters left right direction)).map (fold letters) =
      (keyColumns (targetSide · · direction)
        (columnDiffs letters left right direction)).map (fold letters)
  · rw [if_neg (not_not_intro same), if_neg (not_not_intro (same_key.mpr same))]
    exact List.Forall₂.nil
  · rw [if_pos same, if_pos (fun same' => same (same_key.mp same'))]
    refine List.Forall₂.cons (Change.Like.primaryKey ?_ ?_) List.Forall₂.nil
    · exact keyColumns_mirror columns fun l r => sourceSide_opposite l r direction
    · exact keyColumns_mirror columns fun l r => targetSide_opposite l r direction

theorem like_refl (changes : List Change) : List.Forall₂ Change.Like changes changes :=
  List.forall₂_same.mpr fun change _ => Change.Like.same change

theorem tableChanges_mirror {left right : TableSnapshot}
    (distinct : (left.columns.map (columnKey letters)).Nodup)
    (distinct' : (right.columns.map (columnKey letters)).Nodup) (direction : CompareDirection) :
    ∃ changes, (tableChanges letters (opposite direction)
        (tableDiff letters right left (opposite direction))).Perm changes ∧
      List.Forall₂ Change.Like changes
        (tableChanges letters direction (tableDiff letters left right direction)) := by
  have columns := columnDiffs_mirror distinct distinct' direction
  have names := mirror_name_of_removed letters left.columns right.columns direction
  refine ⟨addedColumns direction (columnDiffs letters left.columns right.columns direction) ++
      alteredColumns direction (columnDiffs letters left.columns right.columns direction) ++
      changedKey letters (opposite direction)
        (columnDiffs letters right.columns left.columns (opposite direction)) ++
      droppedColumns (columnDiffs letters left.columns right.columns direction), ?_, ?_⟩
  · apply List.Perm.append _ (droppedColumns_mirror columns names)
    apply List.Perm.append _ (List.Perm.refl _)
    exact List.Perm.append (addedColumns_mirror columns direction)
      (alteredColumns_mirror columns direction)
  · apply List.rel_append _ (like_refl _)
    exact List.rel_append (like_refl _) (changedKey_mirror distinct distinct' direction)

theorem tableEntry_one_sided {left right : SchemaSnapshot} {direction : CompareDirection}
    {name : Text} {status : DiffStatus} (one_sided : status = .added ∨ status = .removed)
    (here : (tableEntry letters left right direction name).status = status) :
    tableEntry letters right left (opposite direction) name =
      (tableEntry letters left right direction name).mirror := by
  subst here
  rw [tableEntry] at one_sided ⊢
  rw [tableEntry]
  cases found : filed letters left.tables name with
  | none =>
    cases found' : filed letters right.tables name with
    | none => rfl
    | some r =>
      have same := oneSideTable_mirror r false direction
      rwa [Bool.not_false] at same
  | some l =>
    cases found' : filed letters right.tables name with
    | none =>
      have same := oneSideTable_mirror l true direction
      rwa [Bool.not_true] at same
    | some r =>
      simp only [found, found', tableDiff] at one_sided
      split_ifs at one_sided <;> simp at one_sided

theorem tableEntry_changed {left right : SchemaSnapshot} {direction : CompareDirection}
    {name : Text} (here : (tableEntry letters left right direction name).status = .changed) :
    ∃ l r, filed letters left.tables name = some l ∧ filed letters right.tables name = some r := by
  rw [tableEntry] at here
  cases found : filed letters left.tables name with
  | none =>
    cases found' : filed letters right.tables name with
    | none =>
      rw [found, found'] at here
      cases here
    | some r =>
      simp only [found, found', oneSideTable, oneSided] at here
      split_ifs at here
  | some l =>
    cases found' : filed letters right.tables name with
    | none =>
      simp only [found, found', oneSideTable, oneSided] at here
      split_ifs at here
    | some r => exact ⟨l, r, rfl, rfl⟩

/-- The tables of one side only, from the other side. -/
theorem one_sided_tables {left right : SchemaSnapshot} (distinct : DistinctNames letters left)
    (distinct' : DistinctNames letters right) (direction : CompareDirection) {status : DiffStatus}
    (one_sided : status = .added ∨ status = .removed) :
    (diff letters right left (opposite direction)).filter (·.status = status) =
      ((diff letters left right direction).filter (·.status = status)).map TableDiff.mirror := by
  have mirrored := diff_mirrored distinct distinct' direction
  rw [diff_eq, diff_eq, foldedNames_comm left.tables right.tables] at mirrored ⊢
  rw [List.forall₂_map_left_iff, List.forall₂_map_right_iff, List.forall₂_same] at mirrored
  generalize foldedNames letters left.tables right.tables = names at mirrored ⊢
  induction names with
  | nil => rfl
  | cons name rest hypothesis =>
    have later := hypothesis fun other member => mirrored other (List.mem_cons_of_mem name member)
    have same := (mirrored name List.mem_cons_self).status
    rw [List.map_cons, List.map_cons]
    by_cases here : (tableEntry letters left right direction name).status = status
    · rw [List.filter_cons_of_pos (by rw [same]; simpa using here),
        List.filter_cons_of_pos (by simpa using here), List.map_cons, later,
        tableEntry_one_sided one_sided here]
    · rw [List.filter_cons_of_neg (by rw [same]; simpa using here),
        List.filter_cons_of_neg (by simpa using here), later]

/-- What is read off the changed tables, where both comparisons say the same of each. -/
theorem changed_tables {T : Type} {left right : SchemaSnapshot}
    (distinct : DistinctNames letters left) (distinct' : DistinctNames letters right)
    (direction : CompareDirection) (relation : T → T → Prop) (read read' : TableDiff → List T)
    (agree : ∀ l ∈ left.tables, ∀ r ∈ right.tables, List.Forall₂ relation
      (read (tableDiff letters l r direction))
      (read' (tableDiff letters r l (opposite direction)))) :
    List.Forall₂ relation
      (((diff letters left right direction).filter (·.status = .changed)).flatMap read)
      (((diff letters right left (opposite direction)).filter (·.status = .changed)).flatMap
        read') := by
  have mirrored := diff_mirrored distinct distinct' direction
  rw [diff_eq, diff_eq, foldedNames_comm left.tables right.tables] at mirrored ⊢
  rw [List.forall₂_map_left_iff, List.forall₂_map_right_iff, List.forall₂_same] at mirrored
  generalize foldedNames letters left.tables right.tables = names at mirrored ⊢
  induction names with
  | nil => exact List.Forall₂.nil
  | cons name rest hypothesis =>
    have later := hypothesis fun other member => mirrored other (List.mem_cons_of_mem name member)
    have same := (mirrored name List.mem_cons_self).status
    rw [List.map_cons, List.map_cons]
    by_cases here : (tableEntry letters left right direction name).status = .changed
    · rw [List.filter_cons_of_pos (by simpa using here),
        List.filter_cons_of_pos (by rw [same]; simpa using here), List.flatMap_cons,
        List.flatMap_cons]
      apply List.rel_append _ later
      obtain ⟨l, r, found, found'⟩ := tableEntry_changed here
      rw [tableEntry, tableEntry, found, found']
      exact agree l (filed_some found).1 r (filed_some found').1
    · rw [List.filter_cons_of_neg (by simpa using here),
        List.filter_cons_of_neg (by rw [same]; simpa using here)]
      exact later

theorem createRounds_mirror {depends depends' : TableDiff → List Text}
    (same : ∀ table, depends' table.mirror = depends table) (rounds : Nat) (done : List Text)
    (pending : List TableDiff) :
    createRounds letters depends' rounds done (pending.map TableDiff.mirror) =
      (createRounds letters depends rounds done pending).map TableDiff.mirror := by
  induction rounds generalizing done pending with
  | zero => rfl
  | succ rounds hypothesis =>
    have ready : (pending.map TableDiff.mirror).filter (fun table => (depends' table).all (· ∈ done)) =
        (pending.filter fun table => (depends table).all (· ∈ done)).map TableDiff.mirror := by
      rw [List.filter_map]
      congr 1
      apply List.filter_congr
      intro table _
      rw [Function.comp_apply, same]
    have rest : (pending.map TableDiff.mirror).filter
          (fun table => !(depends' table).all (· ∈ done)) =
        (pending.filter fun table => !(depends table).all (· ∈ done)).map TableDiff.mirror := by
      rw [List.filter_map]
      congr 1
      apply List.filter_congr
      intro table _
      rw [Function.comp_apply, same]
    simp only [createRounds, ready, rest, List.isEmpty_map]
    split_ifs
    · rfl
    · rw [List.map_append, List.map_map, ← hypothesis]
      rfl

theorem creationOrder_mirror (added : List TableDiff) (source : SchemaSnapshot) :
    creationOrder letters (added.map TableDiff.mirror) source =
      (creationOrder letters added source).map TableDiff.mirror := by
  rw [creationOrder, creationOrder, List.length_map]
  apply createRounds_mirror
  intro table
  simp only [dependencies, List.map_map]
  rfl

theorem sourceKeys_mirror (direction : CompareDirection) (table : TableDiff) :
    sourceKeys (opposite direction) table.mirror = sourceKeys direction table := by
  rw [sourceKeys, sourceKeys, TableDiff.mirror, List.filterMap_map]
  apply List.filterMap_congr
  intro fk _
  exact sourceSide_opposite fk.left fk.right direction

/-- The keys that one side lacks, seen from the other side. -/
theorem foreignKeyDiffs_status {T : Type} (left right : List ForeignKey)
    (direction : CompareDirection) (status : DiffStatus) (read : Option ForeignKey →
      Option ForeignKey → Option T) (read' : Option ForeignKey → Option ForeignKey → Option T)
    (same : ∀ l r, read' r l = read l r) :
    ((foreignKeyDiffs letters right left (opposite direction)).filter
        (·.status = status)).filterMap (fun fk => read' fk.left fk.right) =
      ((foreignKeyDiffs letters left right direction).filter
        (·.status = status)).filterMap fun fk => read fk.left fk.right := by
  have first := oneSided_opposite true direction
  have second := oneSided_opposite false direction
  rw [Bool.not_true] at first
  rw [Bool.not_false] at second
  have differ : oneSided true direction ≠ oneSided false direction := by
    cases direction <;> decide
  rw [foreignKeyDiffs, foreignKeyDiffs, first, second, List.filter_append, List.filter_append,
    List.filterMap_append, List.filterMap_append]
  simp only [List.filter_map, List.filterMap_map, Function.comp_def, same]
  by_cases added : oneSided true direction = status
  · have other : oneSided false direction ≠ status := fun equal => differ (added.trans equal.symm)
    simp [added, other]
  · simp [added]

variable (letters) in
/-- The script of a comparison, from the side that is the source. -/
def compared (left right : SchemaSnapshot) (direction : CompareDirection)
    (creates : Text → Option Text) : Migration :=
  migration letters direction (diff letters left right direction)
    (if direction.leftIsSource then left else right) creates

theorem alterOf_eq (direction : CompareDirection) (entry : TableDiff) :
    alterOf letters direction entry =
      (targetSide entry.left entry.right direction).bind fun target =>
        if entry.columns.any (·.status ≠ .identical) then
          some (target.name, tableChanges letters direction entry)
        else none := by
  unfold alterOf
  cases targetSide entry.left entry.right direction <;> rfl

theorem alterOf_mirror {left right : TableSnapshot}
    (distinct : (left.columns.map (columnKey letters)).Nodup)
    (distinct' : (right.columns.map (columnKey letters)).Nodup) (direction : CompareDirection) :
    List.Forall₂ SameChanges
      (alterOf letters direction (tableDiff letters left right direction)).toList
      (alterOf letters (opposite direction)
        (tableDiff letters right left (opposite direction))).toList := by
  have columns : (tableDiff letters right left (opposite direction)).columns.any
      (·.status ≠ .identical) =
      (tableDiff letters left right direction).columns.any (·.status ≠ .identical) :=
    any_of_mirror (columnDiffs_mirror distinct distinct' direction)
  have side : targetSide (tableDiff letters right left (opposite direction)).left
      (tableDiff letters right left (opposite direction)).right (opposite direction) =
      targetSide (tableDiff letters left right direction).left
        (tableDiff letters left right direction).right direction :=
    targetSide_opposite (some left.table) (some right.table) direction
  have changes := tableChanges_mirror distinct distinct' direction
  rw [alterOf_eq, alterOf_eq, side, columns]
  cases targetSide (tableDiff letters left right direction).left
      (tableDiff letters left right direction).right direction with
  | none => exact List.Forall₂.nil
  | some target =>
    dsimp only [Option.bind_some]
    split_ifs
    · exact List.Forall₂.cons ⟨rfl, changes⟩ List.Forall₂.nil
    · exact List.Forall₂.nil

theorem compared_mirror {left right : SchemaSnapshot} (distinct : DistinctNames letters left)
    (distinct' : DistinctNames letters right) (direction : CompareDirection)
    (creates : Text → Option Text) :
    SameMigration (compared letters left right direction creates)
      (compared letters right left (opposite direction) creates) := by
  have source : (if (opposite direction).leftIsSource then right else left) =
      if direction.leftIsSource then left else right := by
    cases direction <;> rfl
  have added := one_sided_tables distinct distinct' direction (Or.inl rfl)
  have removed := one_sided_tables distinct distinct' direction (Or.inr rfl)
  have keys : ∀ (status : DiffStatus) (side : Option ForeignKey → Option ForeignKey →
      CompareDirection → Option ForeignKey),
      (∀ l r, side r l (opposite direction) = side l r direction) →
      ((((diff letters right left (opposite direction)).filter (·.status = .changed)).flatMap
        (·.foreignKeys)).filter (·.status = status)).filterMap
          (fun fk => side fk.left fk.right (opposite direction)) =
      ((((diff letters left right direction).filter (·.status = .changed)).flatMap
        (·.foreignKeys)).filter (·.status = status)).filterMap
          (fun fk => side fk.left fk.right direction) := by
    intro status side same
    rw [List.filter_flatMap, List.filterMap_flatMap, List.filter_flatMap, List.filterMap_flatMap]
    symm
    apply List.forall₂_eq_eq_eq ▸ changed_tables distinct distinct' direction Eq _ _ ?_
    intro l _ r _
    rw [List.forall₂_eq_eq_eq]
    exact (foreignKeyDiffs_status l.foreignKeys r.foreignKeys direction status
      (side · · direction) (side · · (opposite direction)) same).symm
  constructor
  · exact keys .removed targetSide fun l r => targetSide_opposite l r direction
  · simp only [compared, migration, source, added, creationOrder_mirror, List.map_map]
    rfl
  · simp only [compared, migration]
    rw [List.filterMap_eq_flatMap_toList, List.filterMap_eq_flatMap_toList]
    apply changed_tables distinct distinct' direction
    intro l l_member r r_member
    exact alterOf_mirror (distinct.columns l l_member) (distinct'.columns r r_member) direction
  · simp only [compared, migration, source, added, creationOrder_mirror]
    congr 1
    · rw [List.filter_map, List.flatMap_map]
      apply List.flatMap_congr
      intro table _
      exact sourceKeys_mirror direction table
    · exact keys .added sourceSide fun l r => sourceSide_opposite l r direction
  · simp only [compared, migration, removed, List.map_map]
    rfl

end

/-- A comparison covers both sides, and is the same from either side: the source and the target
stay what they are, and so do the statuses and the statements. -/
structure CoversAndMirrors (left right : SchemaSnapshot) (direction : CompareDirection)
    (creates : Text → Option Text) : Prop where
  covers : Covers letters left right direction
  mirrored : List.Forall₂ (Mirrored letters) (diff letters left right direction)
    (diff letters right left (opposite direction))
  script : SameMigration (compared letters left right direction creates)
    (compared letters right left (opposite direction) creates)

theorem diff_covers_and_mirrors (left right : SchemaSnapshot) (direction : CompareDirection)
    (creates : Text → Option Text) (distinct : DistinctNames letters left)
    (distinct' : DistinctNames letters right) :
    CoversAndMirrors letters left right direction creates :=
  ⟨diff_covers distinct distinct' direction, diff_mirrored distinct distinct' direction,
    compared_mirror distinct distinct' direction creates⟩

/-- A schema with one table of integer columns. -/
def oneTable (name : String) (columns : List String) : SchemaSnapshot where
  engine := .postgres
  ns := none
  tables := [⟨⟨none, name.toList⟩, columns.map fun column =>
    ⟨column.toList, "int".toList, true, false, 1⟩, [], by simp⟩]
  home := by simp

def noTables : SchemaSnapshot := ⟨.postgres, none, [], by simp⟩

def asciiLetters : Letters := ⟨Texts.toAsciiLowercase, Texts.toAsciiUppercase⟩

theorem users_cover_and_mirror : CoversAndMirrors asciiLetters
    (oneTable "users" ["id", "email"]) (oneTable "USERS" ["Id", "legacy"]) .leftToRight
    (fun _ => none) :=
  diff_covers_and_mirrors asciiLetters _ _ _ _
    ⟨by decide +kernel, by decide +kernel⟩ ⟨by decide +kernel, by decide +kernel⟩

/-- The other one of added and removed. -/
def DiffStatus.exchanged : DiffStatus → DiffStatus
  | .added => .removed
  | .removed => .added
  | status => status

/-- A table that is new on the left is new from the right, too. -/
theorem new_table_stays_added :
    (diff asciiLetters noTables (oneTable "users" ["id"]) (opposite .leftToRight)).map (·.status) ≠
      (diff asciiLetters (oneTable "users" ["id"]) noTables .leftToRight).map
        (·.status.exchanged) := by
  decide +kernel

end DbFree.Schema
