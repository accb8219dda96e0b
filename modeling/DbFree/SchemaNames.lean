import DbFree.SchemaMirror

/- The names that a migration script writes, against the target's own spelling. -/
namespace DbFree.Schema

open Pairing RowCompare

variable (letters : Letters) (left right : SchemaSnapshot) (direction : CompareDirection)
  (creates : Text → Option Text)

def sourceSchema : SchemaSnapshot := if direction.leftIsSource then left else right

def targetSchema : SchemaSnapshot := if direction.leftIsSource then right else left

def sourceColumn (column : ColumnDiff) : Option ColumnInfo :=
  sourceSide column.left column.right direction

def targetColumn (column : ColumnDiff) : Option ColumnInfo :=
  targetSide column.left column.right direction

/-- How the target spells a column that it has; a new one keeps its name. -/
def spelling (column : ColumnDiff) : Text :=
  match targetColumn direction column, sourceColumn direction column with
  | some target, _ => target.name
  | none, some source => source.name
  | none, none => []

/-- The columns of the source's key as the target spells them. -/
def spelledKey (columns : List ColumnDiff) : List Text :=
  (columns.filter fun column => (sourceColumn direction column).any (·.primaryKey)).map
    (spelling direction)

/-- The types and the nullability that `ALTER` statements set. -/
def resets (changes : List ColumnChange) : Prop := .type ∈ changes ∨ .nullable ∈ changes

/-- A change names the columns of the table as the target spells them, and adds or drops those
that the comparison lists. On SQLite a column or a key is changed in a comment only. -/
def Change.Names (engine : Engine) (columns : List ColumnDiff) (table : TableSnapshot) :
    Change → Prop
  | .addColumn added => ∃ column ∈ columns, column.status = .added ∧
      sourceColumn direction column = some added
  | .alterColumn source target changes => target ∈ table.columns ∧
      (dialect engine ≠ .sqlite → resets changes → source.name = target.name)
  | .primaryKey source target => (∀ name ∈ target, name ∈ table.columns.map (·.name)) ∧
      (dialect engine ≠ .sqlite → source = spelledKey direction columns)
  | .dropColumn name => ∃ column ∈ columns, column.status = .removed ∧
      ∃ dropped ∈ table.columns, targetColumn direction column = some dropped ∧ dropped.name = name

/-- A table named as the target spells it, or as the source does where it is created. -/
def TableSpelled (name : Text) : Prop :=
  match filed letters (targetSchema left right direction).tables (fold letters name) with
  | some table => table.table.name = name
  | none => ∃ table ∈ (sourceSchema left right direction).tables, table.table.name = name

/-- A column named as the target spells it, or as the source does where it is added. -/
def ColumnSpelled (table name : Text) : Prop :=
  let added := ∃ found, filed letters (sourceSchema left right direction).tables
    (fold letters table) = some found ∧ name ∈ found.columns.map (·.name)
  match filed letters (targetSchema left right direction).tables (fold letters table) with
  | some found =>
    match found.columns.find? fun column => fold letters column.name = fold letters name with
    | some column => column.name = name
    | none => added
  | none => added

structure KeySpelled (fk : ForeignKey) : Prop where
  fromTable : TableSpelled letters left right direction fk.fromTable
  fromColumns : ∀ name ∈ fk.fromColumns, ColumnSpelled letters left right direction fk.fromTable name
  toTable : TableSpelled letters left right direction fk.toTable
  toColumns : ∀ name ∈ fk.toColumns, ColumnSpelled letters left right direction fk.toTable name

/-- Every statement of the script names what the target has, as it is spelled there, and creates
or drops what the comparison lists. -/
structure NamesTarget : Prop where
  alters : ∀ entry ∈ diff letters left right direction, entry.status = .changed →
    ∀ alter, alterOf letters direction entry = some alter →
      ∃ table ∈ (targetSchema left right direction).tables,
        targetSide entry.left entry.right direction = some table.table ∧
        table.table = ⟨(targetSchema left right direction).ns, alter.1⟩ ∧
        ∀ change ∈ alter.2, change.Names direction (targetSchema left right direction).engine
          entry.columns table
  addKeys : dialect (targetSchema left right direction).engine ≠ .sqlite →
    ∀ fk ∈ (compared letters left right direction creates).addKeys,
      KeySpelled letters left right direction fk
  dropKeys : ∀ fk ∈ (compared letters left right direction creates).dropKeys,
    ∃ table ∈ (targetSchema left right direction).tables, fk ∈ table.foreignKeys ∧
      fk.fromTable = table.table.name ∧ ∃ entry ∈ diff letters left right direction,
        ⟨.removed, if direction.leftIsSource then none else some fk,
          if direction.leftIsSource then some fk else none⟩ ∈ entry.foreignKeys
  created : ∀ create ∈ (compared letters left right direction creates).creates,
    ∃ entry ∈ diff letters left right direction, entry.status = .added ∧ entry.name = create.1
  dropped : ∀ name ∈ (compared letters left right direction creates).drops,
    ∃ entry ∈ diff letters left right direction, entry.status = .removed ∧ entry.name = name

/-- What is on both sides, and is altered or referred to, is spelled alike on both. -/
structure SpelledAlike : Prop where
  columns : ∀ entry ∈ diff letters left right direction, entry.status = .changed →
    ∀ column ∈ entry.columns, ∀ source target, sourceColumn direction column = some source →
      targetColumn direction column = some target → resets column.changes →
        source.name = target.name
  keys : ∀ entry ∈ diff letters left right direction, entry.status = .changed →
    changedKey letters direction entry.columns ≠ [] →
      ∀ column ∈ entry.columns, ∀ source target, sourceColumn direction column = some source →
        targetColumn direction column = some target → source.primaryKey = true →
          source.name = target.name
  foreignKeys : ∀ entry ∈ diff letters left right direction,
    (entry.status = .changed ∨ entry.status = .added ∧
      inlineKeys letters (createStatement letters creates entry) = false) →
    ∀ key ∈ entry.foreignKeys, key.status = .added →
      ∀ fk, sourceSide key.left key.right direction = some fk →
        KeySpelled letters left right direction fk

section

variable {letters left right direction creates}

/-- The columns of an entry are those of the two tables, one on each side. -/
theorem columnDiffs_sides {l r : List ColumnInfo} {column : ColumnDiff}
    (member : column ∈ columnDiffs letters l r direction) :
    (∀ found, column.left = some found → found ∈ l) ∧
      (∀ found, column.right = some found → found ∈ r) := by
  have listed := (columnDiffs_perm letters l r direction).mem_iff.mp member
  obtain ⟨pair, inside, rfl⟩ := List.mem_map.mp listed
  have sides := mem_of_mem_pairs inside
  obtain ⟨_ | _, _ | _⟩ := pair <;> exact sides

/-- What the status of an entry says of its sides. -/
theorem columnDiffs_status {l r : List ColumnInfo} {column : ColumnDiff}
    (member : column ∈ columnDiffs letters l r direction) :
    (column.status = .removed → ∃ found, targetColumn direction column = some found ∧
      found.name = column.name) ∧
    ((∃ source target, sourceColumn direction column = some source ∧
        targetColumn direction column = some target) →
      (column.status = .changed ↔ column.changes ≠ [])) ∧
    (column.status = .identical → ∃ first second, column.left = some first ∧
      column.right = some second ∧ fold letters first.name = fold letters second.name ∧
      first.primaryKey = second.primaryKey) := by
  have listed := (columnDiffs_perm letters l r direction).mem_iff.mp member
  obtain ⟨pair, inside, rfl⟩ := List.mem_map.mp listed
  obtain ⟨first, second⟩ := pair
  cases first with
  | none =>
    cases second with
    | none =>
      exfalso
      rw [pairs, List.mem_append, List.mem_map, List.mem_map] at inside
      rcases inside with ⟨_, _, same⟩ | ⟨_, _, same⟩ <;> cases same
    | some second =>
      cases direction
      · refine ⟨fun _ => ⟨second, rfl, rfl⟩, ?_, ?_⟩
        · rintro ⟨source, target, found, _⟩
          cases found
        · intro same
          cases same
      · refine ⟨fun same => ?_, ?_, ?_⟩
        · cases same
        · rintro ⟨source, target, _, found⟩
          cases found
        · intro same
          cases same
  | some first =>
    cases second with
    | none =>
      cases direction
      · refine ⟨fun same => ?_, ?_, ?_⟩
        · cases same
        · rintro ⟨source, target, _, found⟩
          cases found
        · intro same
          cases same
      · refine ⟨fun _ => ⟨first, rfl, rfl⟩, ?_, ?_⟩
        · rintro ⟨source, target, found, _⟩
          cases found
        · intro same
          cases same
    | some second =>
      simp only [entryOf, matchedColumn, List.isEmpty_iff]
      by_cases none_changed : columnChanges letters first second = []
      · rw [if_pos none_changed]
        refine ⟨fun same => ?_, fun _ => ?_, fun _ => ?_⟩
        · cases same
        · simp [none_changed]
        · refine ⟨first, second, rfl, rfl, (key_eq_of_mem_pairs inside).symm, ?_⟩
          by_contra differ
          simp [columnChanges, differ] at none_changed
      · rw [if_neg none_changed]
        refine ⟨fun same => ?_, fun _ => ?_, fun same => ?_⟩
        · cases same
        · simp [none_changed]
        · cases same

theorem sourceColumn_eq (columns : List ColumnDiff) :
    keyColumns (sourceSide · · direction) columns =
      (columns.filter fun column => (sourceColumn direction column).any (·.primaryKey)).map
        fun column => (sourceColumn direction column).elim [] (·.name) := by
  induction columns with
  | nil => rfl
  | cons column rest hypothesis =>
    simp only [keyColumns] at hypothesis ⊢
    cases here : sourceSide column.left column.right direction with
    | none =>
      rw [List.filterMap_cons_none (f := fun column : ColumnDiff => sourceSide column.left
        column.right direction) here, List.filter_cons_of_neg (by simp [sourceColumn, here])]
      exact hypothesis
    | some found =>
      have there : sourceColumn direction column = some found := here
      rw [List.filterMap_cons_some (f := fun column : ColumnDiff => sourceSide column.left
        column.right direction) here]
      by_cases primary : found.primaryKey = true
      · rw [List.filter_cons_of_pos (l := List.filterMap _ _) (by simpa using primary),
          List.filter_cons_of_pos (by simpa [there] using primary), List.map_cons, List.map_cons,
          hypothesis, there]
        rfl
      · rw [List.filter_cons_of_neg (l := List.filterMap _ _) (by simpa using primary),
          List.filter_cons_of_neg (by simpa [there] using primary)]
        exact hypothesis

/-- The key is spelled as the target spells it where its matched columns are. -/
theorem spelledKey_iff (columns : List ColumnDiff) :
    keyColumns (sourceSide · · direction) columns = spelledKey direction columns ↔
      ∀ column ∈ columns, ∀ source target, sourceColumn direction column = some source →
        targetColumn direction column = some target → source.primaryKey = true →
          source.name = target.name := by
  rw [sourceColumn_eq, spelledKey, List.map_inj_left]
  constructor
  · intro same column member source target source_eq target_eq primary
    have here := same column (List.mem_filter.mpr ⟨member, by rw [source_eq]; exact primary⟩)
    rw [spelling, source_eq, target_eq] at here
    exact here
  · intro alike column kept
    obtain ⟨member, primary⟩ := List.mem_filter.mp kept
    rw [spelling]
    cases source_eq : sourceColumn direction column with
    | none =>
      rw [source_eq] at primary
      cases primary
    | some source =>
      rw [source_eq] at primary
      cases target_eq : targetColumn direction column with
      | none => rfl
      | some target => exact alike column member source target source_eq target_eq primary

theorem mem_createRounds {depends : TableDiff → List Text} (rounds : Nat) (done : List Text)
    (pending : List TableDiff) (table : TableDiff) :
    table ∈ createRounds letters depends rounds done pending ↔ table ∈ pending := by
  induction rounds generalizing done pending with
  | zero => rfl
  | succ rounds hypothesis =>
    rw [createRounds]
    split_ifs with none_ready
    · rw [List.isEmpty_iff, List.filter_eq_nil_iff] at none_ready
      rw [List.mem_filter]
      constructor
      · exact fun both => both.1
      · intro member
        refine ⟨member, ?_⟩
        have waits := none_ready table member
        simpa using waits
    · rw [List.mem_append, hypothesis, List.mem_filter, List.mem_filter, ← and_or_left]
      exact and_iff_left (by cases (depends table).all (· ∈ done) <;> simp)

theorem mem_creationOrder (added : List TableDiff) (source : SchemaSnapshot) (table : TableDiff) :
    table ∈ creationOrder letters added source ↔ table ∈ added := mem_createRounds _ _ _ _

/-- A changed entry is the comparison of two tables that are filed under one name. -/
theorem changed_entry {entry : TableDiff} (member : entry ∈ diff letters left right direction)
    (changed : entry.status = .changed) :
    ∃ l ∈ left.tables, ∃ r ∈ right.tables, entry = tableDiff letters l r direction := by
  rw [diff_eq] at member
  obtain ⟨name, _, rfl⟩ := List.mem_map.mp member
  obtain ⟨l, r, found, found'⟩ := tableEntry_changed changed
  refine ⟨l, (filed_some found).1, r, (filed_some found').1, ?_⟩
  rw [tableEntry, found, found']

/-- The target's table of a changed entry, and the columns of its side. -/
theorem changed_target {entry : TableDiff} (member : entry ∈ diff letters left right direction)
    (changed : entry.status = .changed) :
    ∃ table ∈ (targetSchema left right direction).tables,
      targetSide entry.left entry.right direction = some table.table ∧
      (∀ column ∈ entry.columns, ∀ found, targetColumn direction column = some found →
        found ∈ table.columns) ∧
      (∀ key ∈ entry.foreignKeys, key.status = .removed →
        ∀ fk, targetSide key.left key.right direction = some fk → fk ∈ table.foreignKeys ∧
          key = ⟨.removed, if direction.leftIsSource then none else some fk,
            if direction.leftIsSource then some fk else none⟩) := by
  obtain ⟨l, l_member, r, r_member, rfl⟩ := changed_entry member changed
  cases direction
  · refine ⟨r, r_member, rfl, ?_, ?_⟩
    · intro column inside found target
      exact (columnDiffs_sides inside).2 found target
    · intro key inside removed fk target
      simp only [tableDiff, foreignKeyDiffs] at inside
      rcases List.mem_append.mp inside with first | second
      · obtain ⟨_, _, rfl⟩ := List.mem_map.mp first
        cases removed
      · obtain ⟨other, kept, rfl⟩ := List.mem_map.mp second
        cases target
        exact ⟨(List.mem_filter.mp kept).1, rfl⟩
  · refine ⟨l, l_member, rfl, ?_, ?_⟩
    · intro column inside found target
      exact (columnDiffs_sides inside).1 found target
    · intro key inside removed fk target
      simp only [tableDiff, foreignKeyDiffs] at inside
      rcases List.mem_append.mp inside with first | second
      · obtain ⟨other, kept, rfl⟩ := List.mem_map.mp first
        cases target
        exact ⟨(List.mem_filter.mp kept).1, rfl⟩
      · obtain ⟨_, _, rfl⟩ := List.mem_map.mp second
        cases removed

theorem columns_of_changed {entry : TableDiff} (member : entry ∈ diff letters left right direction)
    (changed : entry.status = .changed) : ∃ l r : List ColumnInfo,
      entry.columns = columnDiffs letters l r direction := by
  obtain ⟨l, _, r, _, rfl⟩ := changed_entry member changed
  exact ⟨l.columns, r.columns, rfl⟩

/-- Keys that differ come with a column that differs. -/
theorem changedKey_nil {l r : List ColumnInfo}
    (identical : ∀ column ∈ columnDiffs letters l r direction, column.status = .identical) :
    changedKey letters direction (columnDiffs letters l r direction) = [] := by
  simp only [changedKey]
  rw [if_neg]
  apply not_not_intro
  have sides : ∀ column ∈ columnDiffs letters l r direction, ∃ source target,
      sourceColumn direction column = some source ∧ targetColumn direction column = some target ∧
      fold letters source.name = fold letters target.name ∧
      source.primaryKey = target.primaryKey := by
    intro column member
    obtain ⟨first, second, left_eq, right_eq, fold_eq, key_eq⟩ :=
      (columnDiffs_status member).2.2 (identical column member)
    cases direction
    · exact ⟨first, second, left_eq, right_eq, fold_eq, key_eq⟩
    · exact ⟨second, first, right_eq, left_eq, fold_eq.symm, key_eq.symm⟩
  generalize columnDiffs letters l r direction = columns at sides
  induction columns with
  | nil => rfl
  | cons column rest hypothesis =>
    have later := hypothesis fun other member => sides other (List.mem_cons_of_mem column member)
    obtain ⟨source, target, source_eq, target_eq, fold_eq, key_eq⟩ :=
      sides column List.mem_cons_self
    simp only [sourceColumn, targetColumn] at source_eq target_eq
    simp only [keyColumns, List.filterMap_cons, source_eq, target_eq] at later ⊢
    by_cases primary : source.primaryKey = true
    · rw [List.filter_cons_of_pos (by simpa using primary),
        List.filter_cons_of_pos (by rw [key_eq] at primary; simpa using primary), List.map_cons,
        List.map_cons, List.map_cons, List.map_cons, fold_eq, later]
    · rw [List.filter_cons_of_neg (by simpa using primary),
        List.filter_cons_of_neg (by rw [key_eq] at primary; simpa using primary), later]

/-- What an existing table is altered to, and that it is named as the target names it. -/
theorem alterOf_spec {entry : TableDiff} {alter : Text × List Change}
    {table : TableSnapshot} (target : targetSide entry.left entry.right direction = some table.table)
    (here : alterOf letters direction entry = some alter) :
    alter.1 = table.table.name ∧ alter.2 = tableChanges letters direction entry := by
  rw [alterOf, target] at here
  simp only at here
  split_ifs at here
  rw [← Option.some.inj here]
  exact ⟨rfl, rfl⟩

theorem mem_tableChanges {entry : TableDiff} {change : Change} :
    change ∈ tableChanges letters direction entry ↔
      change ∈ addedColumns direction entry.columns ∨
      change ∈ alteredColumns direction entry.columns ∨
      change ∈ changedKey letters direction entry.columns ∨
      change ∈ droppedColumns entry.columns := by
  rw [tableChanges, List.mem_append, List.mem_append, List.mem_append, or_assoc, or_assoc]

theorem mem_alteredColumns {columns : List ColumnDiff} {source target : ColumnInfo}
    {changes : List ColumnChange} :
    Change.alterColumn source target changes ∈ alteredColumns direction columns ↔
      ∃ column ∈ columns, column.status = .changed ∧ sourceColumn direction column = some source ∧
        targetColumn direction column = some target ∧ column.changes = changes := by
  simp only [alteredColumns, List.mem_filterMap, List.mem_filter, decide_eq_true_eq]
  constructor
  · rintro ⟨column, ⟨member, changed⟩, made⟩
    cases source_eq : sourceSide column.left column.right direction with
    | none =>
      rw [source_eq] at made
      cases made
    | some s =>
      cases target_eq : targetSide column.left column.right direction with
      | none =>
        rw [source_eq, target_eq] at made
        cases made
      | some t =>
        rw [source_eq, target_eq] at made
        cases made
        exact ⟨column, member, changed, source_eq, target_eq, rfl⟩
  · rintro ⟨column, member, changed, source_eq, target_eq, rfl⟩
    refine ⟨column, ⟨member, changed⟩, ?_⟩
    rw [sourceColumn] at source_eq
    rw [targetColumn] at target_eq
    rw [source_eq, target_eq]

theorem alteredColumns_only {columns : List ColumnDiff} {change : Change}
    (member : change ∈ alteredColumns direction columns) :
    ∃ source target changes, change = .alterColumn source target changes := by
  obtain ⟨column, _, made⟩ := List.mem_filterMap.mp member
  split at made
  · exact ⟨_, _, _, (Option.some.inj made).symm⟩
  · cases made

theorem mem_changedKey {columns : List ColumnDiff} {change : Change} :
    change ∈ changedKey letters direction columns ↔
      changedKey letters direction columns ≠ [] ∧
        change = .primaryKey (keyColumns (sourceSide · · direction) columns)
          (keyColumns (targetSide · · direction) columns) := by
  simp only [changedKey]
  split_ifs <;> simp

/-- Each change of an existing table names what it should when matched columns are spelled
alike. -/
theorem change_names (alike : dialect (targetSchema left right direction).engine ≠ .sqlite →
      SpelledAlike letters left right direction creates)
    {entry : TableDiff} (member : entry ∈ diff letters left right direction)
    (changed : entry.status = .changed) {table : TableSnapshot}
    (targets : ∀ column ∈ entry.columns, ∀ found, targetColumn direction column = some found →
      found ∈ table.columns) {change : Change}
    (here : change ∈ tableChanges letters direction entry) :
    change.Names direction (targetSchema left right direction).engine entry.columns table := by
  rcases mem_tableChanges.mp here with added | altered | key | dropped
  · obtain ⟨column, kept, made⟩ := List.mem_filterMap.mp added
    obtain ⟨listed, status⟩ := List.mem_filter.mp kept
    obtain ⟨source, source_eq, rfl⟩ := Option.map_eq_some_iff.mp made
    exact ⟨column, listed, of_decide_eq_true status, source_eq⟩
  · obtain ⟨source, target, changes, rfl⟩ := alteredColumns_only altered
    obtain ⟨column, listed, _, source_eq, target_eq, rfl⟩ := mem_alteredColumns.mp altered
    refine ⟨targets column listed target target_eq, ?_⟩
    intro alters reset
    exact (alike alters).columns entry member changed column listed source target source_eq
      target_eq reset
  · obtain ⟨differs, rfl⟩ := mem_changedKey.mp key
    constructor
    · intro name inside
      obtain ⟨column, kept, rfl⟩ := List.mem_map.mp inside
      obtain ⟨entry_column, listed, target_eq⟩ :=
        List.mem_filterMap.mp (List.mem_filter.mp kept).1
      exact List.mem_map_of_mem (targets entry_column listed column target_eq)
    · intro alters
      exact (spelledKey_iff entry.columns).mpr ((alike alters).keys entry member changed differs)
  · obtain ⟨column, kept, rfl⟩ := List.mem_map.mp dropped
    obtain ⟨listed, status⟩ := List.mem_filter.mp kept
    obtain ⟨l, r, columns⟩ := columns_of_changed member changed
    have listed' := listed
    rw [columns] at listed'
    obtain ⟨found, target_eq, name_eq⟩ :=
      (columnDiffs_status listed').1 (of_decide_eq_true status)
    exact ⟨column, listed, of_decide_eq_true status, found, targets column listed found target_eq,
      target_eq, name_eq⟩

theorem added_keys {entry : TableDiff} (member : entry ∈ diff letters left right direction)
    (added : entry.status = .added) : ∀ key ∈ entry.foreignKeys, key.status = .added := by
  rw [diff_eq] at member
  obtain ⟨name, _, rfl⟩ := List.mem_map.mp member
  rw [tableEntry] at added ⊢
  cases found : filed letters left.tables name <;> cases found' : filed letters right.tables name <;>
    simp only [found, found'] at added ⊢
  · cases added
  · intro key inside
    obtain ⟨fk, _, rfl⟩ := List.mem_map.mp inside
    exact added
  · intro key inside
    obtain ⟨fk, _, rfl⟩ := List.mem_map.mp inside
    exact added
  · rw [tableDiff] at added
    simp only at added
    split_ifs at added

theorem mem_addKeys (fk : ForeignKey) :
    fk ∈ (compared letters left right direction creates).addKeys ↔
      ∃ entry ∈ diff letters left right direction,
        (entry.status = .changed ∨ entry.status = .added ∧
          inlineKeys letters (createStatement letters creates entry) = false) ∧
        ∃ key ∈ entry.foreignKeys, key.status = .added ∧
          sourceSide key.left key.right direction = some fk := by
  simp only [compared, migration, List.mem_append, List.mem_flatMap, List.mem_filter,
    mem_creationOrder, Bool.not_eq_true', sourceKeys, List.mem_filterMap, decide_eq_true_eq]
  constructor
  · rintro (⟨entry, ⟨⟨member, added⟩, plain⟩, key, inside, source⟩ |
      ⟨key, ⟨⟨entry, ⟨member, changed⟩, inside⟩, added⟩, source⟩)
    · refine ⟨entry, member, Or.inr ⟨added, plain⟩, key, inside, ?_, source⟩
      exact added_keys member added key inside
    · exact ⟨entry, member, Or.inl changed, key, inside, added, source⟩
  · rintro ⟨entry, member, changed | ⟨added, plain⟩, key, inside, key_added, source⟩
    · exact Or.inr ⟨key, ⟨⟨entry, ⟨member, changed⟩, inside⟩, key_added⟩, source⟩
    · exact Or.inl ⟨entry, ⟨⟨member, added⟩, plain⟩, key, inside, source⟩

end

/-- A table of users with one column. -/
def usersTable (name column type : String) : TableSnapshot :=
  ⟨⟨none, name.toList⟩, [⟨column.toList, type.toList, true, false, 1⟩], [],
    fun _ none => absurd none List.not_mem_nil⟩

/-- A schema with that table only. -/
def usersSchema (name column type : String) : SchemaSnapshot :=
  ⟨.postgres, none, [usersTable name column type], by simp [usersTable]⟩

end DbFree.Schema
