import DbFree.DesignerRelations

/- Runs of the designer: a relation joins the same columns until one of them is removed. -/
namespace DbFree.Designer

section Runs

/-- New columns have new numbers. -/
structure Grows (body body' : Body) : Prop where
  counted : body.made ≤ body'.made
  origin : ∀ table, ∀ number ∈ numbers body' table,
    number ∈ numbers body table ∨ body.made ≤ number

theorem grows_of_columns {body body' : Body} {id : Text} {columns : List Column}
    (changed : ∀ table, columnsOf body' table = columnsOf body table ∨
      table = id ∧ columnsOf body' table = columns)
    (origin : ∀ number ∈ columns.map Column.number,
      number ∈ numbers body id ∨ body.made ≤ number)
    (counted : body.made ≤ body'.made) : Grows body body' := by
  refine ⟨counted, ?_⟩
  intro table number member
  rcases changed table with same | ⟨rfl, same⟩
  · rw [numbers, same] at member
    exact Or.inl member
  · rw [numbers, same] at member
    exact origin number member

theorem grows_setColumns {body : Body} {id : Text} {columns : List Column}
    (origin : ∀ number ∈ columns.map Column.number, number ∈ numbers body id) :
    Grows body (setColumns body id columns) :=
  grows_of_columns (columnsOf_setColumns columns)
    (fun number member => Or.inl (origin number member)) (Nat.le_refl body.made)

theorem grows_modify {body : Body} {id : Text} (index : Nat) {patch : Column → Column}
    (keeps : ∀ c, (patch c).number = c.number) :
    Grows body (setColumns body id ((columnsOf body id).modify index patch)) := by
  apply grows_setColumns
  intro number member
  rw [map_modify index Column.number keeps] at member
  exact member

/-- An edit of the relations alone. -/
theorem grows_same {body body' : Body} (tables : body'.tables = body.tables)
    (made : body'.made = body.made) : Grows body body' := by
  refine ⟨made.ge, ?_⟩
  intro table number member
  rw [numbers, columnsOf, tables] at member
  exact Or.inl member

theorem grows_apply (body : Body) (edit : Edit) : Grows body (apply body edit) := by
  cases edit with
  | renameColumn tableId index name =>
    have renames : Grows body (updateColumn body tableId index fun c => { c with name := name }) :=
      grows_modify index fun _ => rfl
    show Grows body (renameColumn body tableId index name)
    unfold renameColumn
    dsimp only
    split
    · exact renames
    · split
      · exact renames
      · exact ⟨renames.counted, renames.origin⟩
  | updateColumn tableId index patch => exact grows_modify index fun _ => rfl
  | addColumn tableId column =>
    have changed : ∀ table, columnsOf (addColumn body tableId column) table = columnsOf body table ∨
        table = tableId ∧ columnsOf (addColumn body tableId column) table =
          columnsOf body tableId ++ [numbered body.made column] := columnsOf_setColumns _
    refine grows_of_columns changed ?_ (Nat.le_succ body.made)
    intro number member
    rw [List.map_append, List.mem_append, List.map_singleton, List.mem_singleton] at member
    rcases member with old | rfl
    · exact Or.inl old
    · exact Or.inr (Nat.le_refl _)
  | moveColumn tableId index delta =>
    rcases moveColumn_cases body tableId index delta with same | ⟨columns, swapped, same⟩
    · rw [apply, same]
      exact grows_same rfl rfl
    · rw [apply, same]
      exact grows_setColumns fun number member => (swapped.map Column.number).mem_iff.mp member
  | removeColumn tableId index =>
    have erases : Grows body (setColumns body tableId ((columnsOf body tableId).eraseIdx index)) :=
      grows_setColumns fun number member =>
        ((List.eraseIdx_sublist _ _).map Column.number).subset member
    show Grows body (removeColumn body tableId index)
    unfold removeColumn
    dsimp only
    split
    · exact erases
    · exact ⟨erases.counted, erases.origin⟩
  | updateTable id patch =>
    refine ⟨Nat.le_refl _, ?_⟩
    intro table number member
    rw [apply, updateTable, numbers, columnsOf_patchTable fun t => by rfl] at member
    simp only [ite_self] at member
    exact Or.inl member
  | addTable table =>
    refine grows_of_columns (columnsOf_addTable body table) ?_ (Nat.le_add_right _ _)
    intro number member
    rw [map_numbered] at member
    obtain ⟨i, -, rfl⟩ := List.mem_map.mp member
    exact Or.inr (Nat.le_add_right _ _)
  | removeTables ids =>
    refine ⟨Nat.le_refl _, ?_⟩
    intro table number member
    rw [apply, numbers, columnsOf_removeTables] at member
    split at member
    · cases member
    · exact Or.inl member
  | addRelation relation => exact grows_same rfl rfl
  | setRelationLinks id links => exact grows_same rfl rfl
  | swapRelation id => exact grows_same rfl rfl
  | updateRelation id patch => exact grows_same rfl rfl
  | removeRelations ids => exact grows_same rfl rfl

/-- A column that is in some table. -/
def present (body : Body) (number : Nat) : Bool :=
  body.tables.any fun t => decide (number ∈ numbers body t.id)

/-- A pair whose columns, as far as they are chosen, are there. -/
def standing (body : Body) (pair : Option Nat × Option Nat) : Bool :=
  pair.1.all (present body) && pair.2.all (present body)

theorem present_iff {body : Body} {number : Nat} :
    present body number = true ↔ ∃ table, number ∈ numbers body table := by
  simp only [present, List.any_eq_true, decide_eq_true_eq]
  constructor
  · rintro ⟨t, -, member⟩
    exact ⟨t.id, member⟩
  · rintro ⟨table, member⟩
    obtain ⟨c, inside, rfl⟩ := List.mem_map.mp member
    obtain ⟨t, there, rfl⟩ := has_of_mem inside
    exact ⟨t, there, member⟩

theorem absent_run {body : Body} {number : Nat} (old : number < body.made)
    (absent : present body number = false) (edits : List Edit) :
    present (run body edits) number = false := by
  induction edits generalizing body with
  | nil => exact absent
  | cons edit edits hypothesis =>
    have grows := grows_apply body edit
    refine hypothesis (Nat.lt_of_lt_of_le old grows.counted) ?_
    rw [Bool.eq_false_iff] at absent ⊢
    intro here
    obtain ⟨table, member⟩ := present_iff.mp here
    rcases grows.origin table number member with was | new
    · exact absent (present_iff.mpr ⟨table, was⟩)
    · exact absurd old (Nat.not_lt.mpr new)

/-- Every edit of a run fits where it is made. -/
def FitsAll : Body → List Edit → Prop
  | _, [] => True
  | body, edit :: edits => Fits body edit ∧ FitsAll (apply body edit) edits

/-- An edit of the relation with this id itself. -/
def Edit.Concerns (id : Text) : Edit → Prop
  | .setRelationLinks other _ => other = id
  | .swapRelation other => other = id
  | .removeRelations ids => id ∈ ids
  | .addRelation relation => relation.id = id
  | _ => False

def Edit.Removes (table : Text) : Edit → Prop
  | .removeTables ids => table ∈ ids
  | _ => False

/-- What an edit leaves of the pairs of a relation that it does not concern. -/
def left (body : Body) (pairs : List (Option Nat × Option Nat)) :
    Edit → List (Option Nat × Option Nat)
  | .removeColumn tableId index =>
    match (columnsOf body tableId)[index]? with
    | some c => without c.number pairs
    | none => pairs
  | _ => pairs

/-- What becomes of one relation, said of the columns that relations join. -/
theorem follow_spec {body : Body} {joined : List Joined} (ids : (joined.map Joined.id).Nodup)
    {j : Joined} (member : j ∈ joined) {edit : Edit} (apart : ¬edit.Concerns j.id) :
    ((∃ j' ∈ follow body joined edit, j'.id = j.id) ↔
        ¬edit.Removes j.fromTable ∧ ¬edit.Removes j.toTable) ∧
      ∀ j' ∈ follow body joined edit, j'.id = j.id →
        j' = { j with ends := left body j.ends edit } := by
  have only : ∀ j' ∈ joined, j'.id = j.id → j' = j :=
    fun j' inside same => List.inj_on_of_nodup_map ids inside member same
  have same_list : ((∃ j' ∈ joined, j'.id = j.id) ↔ ¬False ∧ ¬False) ∧
      ∀ j' ∈ joined, j'.id = j.id → j' = j :=
    ⟨iff_of_true ⟨j, member, rfl⟩ ⟨not_false, not_false⟩, only⟩
  cases edit with
  | renameColumn | updateColumn | addColumn | moveColumn | updateTable | addTable
  | updateRelation => exact same_list
  | removeColumn tableId index =>
    cases here : (columnsOf body tableId)[index]? with
    | none =>
      simp only [follow, left, here]
      exact same_list
    | some c =>
      simp only [follow, left, here]
      refine ⟨iff_of_true ⟨_, List.mem_map_of_mem member, rfl⟩ ⟨not_false, not_false⟩, ?_⟩
      intro j' inside same
      obtain ⟨i, was, rfl⟩ := List.mem_map.mp inside
      rw [only i was same]
  | removeTables tables =>
    constructor
    · constructor
      · rintro ⟨j', inside, same⟩
        obtain ⟨was, kept⟩ := List.mem_filter.mp inside
        rw [only j' was same] at kept
        have stays : j.fromTable ∉ tables ∧ j.toTable ∉ tables := of_decide_eq_true kept
        exact stays
      · intro kept
        have stays : j.fromTable ∉ tables ∧ j.toTable ∉ tables := kept
        exact ⟨j, List.mem_filter.mpr ⟨member, decide_eq_true stays⟩, rfl⟩
    · exact fun j' inside same => only j' (List.mem_of_mem_filter inside) same
  | addRelation relation =>
    constructor
    · exact iff_of_true ⟨j, List.mem_append_left _ member, rfl⟩ ⟨not_false, not_false⟩
    · intro j' inside same
      rcases List.mem_append.mp inside with old | new
      · exact only j' old same
      · rw [List.mem_singleton.mp new] at same
        exact absurd same apart
  | setRelationLinks id links =>
    have other : ¬j.id = id := fun same => apart same.symm
    constructor
    · refine iff_of_true ⟨j, List.mem_map.mpr ⟨j, member, if_neg other⟩, rfl⟩ ?_
      exact ⟨not_false, not_false⟩
    · intro j' inside same
      obtain ⟨i, was, rfl⟩ := List.mem_map.mp inside
      have same_id : i.id = j.id := by
        rw [← same]
        split <;> rfl
      rw [only i was same_id, if_neg other]
      rfl
  | swapRelation id =>
    have other : ¬j.id = id := fun same => apart same.symm
    constructor
    · refine iff_of_true ⟨j, List.mem_map.mpr ⟨j, member, if_neg other⟩, rfl⟩ ?_
      exact ⟨not_false, not_false⟩
    · intro j' inside same
      obtain ⟨i, was, rfl⟩ := List.mem_map.mp inside
      have same_id : i.id = j.id := by
        rw [← same]
        split <;> rfl
      rw [only i was same_id, if_neg other]
      rfl
  | removeRelations removed =>
    constructor
    · refine iff_of_true ⟨j, List.mem_filter.mpr ⟨member, decide_eq_true apart⟩, rfl⟩ ?_
      exact ⟨not_false, not_false⟩
    · exact fun j' inside same => only j' (List.mem_of_mem_filter inside) same

/-- A relation that is gone comes back only where one with its id is added. -/
theorem follow_absent {body : Body} {joined : List Joined} {edit : Edit} {id : Text}
    (apart : ¬edit.Concerns id) (absent : ∀ j ∈ joined, j.id ≠ id) :
    ∀ j ∈ follow body joined edit, j.id ≠ id := by
  cases edit with
  | renameColumn | updateColumn | addColumn | moveColumn | updateTable | addTable
  | updateRelation => exact absent
  | removeColumn tableId index =>
    cases here : (columnsOf body tableId)[index]? with
    | none =>
      simp only [follow, here]
      exact absent
    | some c =>
      simp only [follow, here]
      intro j inside
      obtain ⟨i, was, rfl⟩ := List.mem_map.mp inside
      exact absent i was
  | removeTables tables => exact fun j inside => absent j (List.mem_of_mem_filter inside)
  | addRelation relation =>
    intro j inside
    rcases List.mem_append.mp inside with old | new
    · exact absent j old
    · rw [List.mem_singleton.mp new]
      exact apart
  | setRelationLinks other links =>
    intro j inside
    obtain ⟨i, was, rfl⟩ := List.mem_map.mp inside
    split
    · exact absent i was
    · exact absent i was
  | swapRelation other =>
    intro j inside
    obtain ⟨i, was, rfl⟩ := List.mem_map.mp inside
    split
    · exact absent i was
    · exact absent i was
  | removeRelations removed => exact fun j inside => absent j (List.mem_of_mem_filter inside)

theorem mem_view {body : Body} {r : Relation} (member : r ∈ body.relations) :
    ⟨r.id, r.fromTable, r.toTable, ends body r⟩ ∈ view body :=
  List.mem_map.mpr ⟨r, member, rfl⟩

theorem view_ids (body : Body) : (view body).map Joined.id = body.relations.map fun r => r.id := by
  rw [view, List.map_map]
  rfl

/-- One edit: a relation it does not concern goes with its tables, and keeps all pairs whose
columns stay. -/
theorem relation_apply {body : Body} (clean : Clean body) {edit : Edit} (fits : Fits body edit)
    {r : Relation} (member : r ∈ body.relations) (apart : ¬edit.Concerns r.id) :
    ((∃ r' ∈ (apply body edit).relations, r'.id = r.id) ↔
        ¬edit.Removes r.fromTable ∧ ¬edit.Removes r.toTable) ∧
      ∀ r' ∈ (apply body edit).relations, r'.id = r.id →
        r'.fromTable = r.fromTable ∧ r'.toTable = r.toTable ∧
          ends (apply body edit) r' = left body (ends body r) edit := by
  have viewed := (view_apply clean fits).2
  obtain ⟨survives, joins⟩ := @follow_spec body _
    (by rw [view_ids]; exact clean.ids) _ (mem_view member) edit apart
  rw [← viewed] at survives joins
  constructor
  · rw [← survives]
    constructor
    · rintro ⟨r', inside, same⟩
      exact ⟨_, mem_view inside, same⟩
    · rintro ⟨j, inside, same⟩
      obtain ⟨r', there, rfl⟩ := List.mem_map.mp inside
      exact ⟨r', there, same⟩
  · intro r' inside same
    have equal := joins _ (mem_view inside) same
    injection equal with _ from_same to_same ends_same
    exact ⟨from_same, to_same, ends_same⟩

theorem absent_relations {body : Body} (clean : Clean body) {edits : List Edit}
    (fits : FitsAll body edits) {id : Text} (apart : ∀ edit ∈ edits, ¬edit.Concerns id)
    (absent : ∀ r ∈ body.relations, r.id ≠ id) : ∀ r ∈ (run body edits).relations, r.id ≠ id := by
  induction edits generalizing body with
  | nil => exact absent
  | cons edit edits hypothesis =>
    obtain ⟨clean', viewed⟩ := view_apply clean fits.1
    refine hypothesis clean' fits.2 (fun e member => apart e (List.mem_cons_of_mem _ member)) ?_
    intro r member
    have gone := @follow_absent body (view body) edit id
      (apart edit List.mem_cons_self) (fun j inside => by
        obtain ⟨r, was, rfl⟩ := List.mem_map.mp inside
        exact absent r was)
    rw [← viewed] at gone
    exact gone _ (mem_view member)

theorem columnsOf_removeColumn (body : Body) (id : Text) (index : Nat) (table : Text) :
    columnsOf (removeColumn body id index) table =
      columnsOf (setColumns body id ((columnsOf body id).eraseIdx index)) table := by
  unfold removeColumn
  dsimp only
  split <;> rfl

theorem absent_removeColumn {body : Body} (sound : Sound body) {id : Text} {index : Nat}
    {c : Column} (here : (columnsOf body id)[index]? = some c) :
    present (removeColumn body id index) c.number = false := by
  have member : c ∈ columnsOf body id := List.mem_of_getElem? here
  have inside : c.number ∈ numbers body id := List.mem_map_of_mem member
  rw [Bool.eq_false_iff]
  intro found
  obtain ⟨table, still⟩ := present_iff.mp found
  rw [numbers, columnsOf_removeColumn] at still
  by_cases same : table = id
  · subst same
    rw [columnsOf_setColumns_self (has_of_mem member)] at still
    obtain ⟨before, after, shape, -, erased⟩ := split_at here
    have distinct := sound.distinct table
    rw [numbers, shape, List.map_append, List.map_cons, List.nodup_middle, List.nodup_cons,
      ← List.map_append] at distinct
    rw [erased] at still
    exact distinct.1 still
  · rw [columnsOf_setColumns_other same] at still
    exact same (sound.apart table id c.number still inside)

theorem blanked_filter {α : Type} {blank : α} {q : α → Bool} (stays : q blank = true)
    (pairs : List α) :
    blanked blank ((blanked blank pairs).filter q) = blanked blank (pairs.filter q) := by
  cases pairs with
  | nil =>
    show blanked blank ([blank].filter q) = [blank]
    rw [List.filter_singleton, stays]
    rfl
  | cons first rest => rfl

/-- What a removal leaves, and what stands at the end of the run, is what stands of all. -/
theorem standing_left {body : Body} (sound : Sound body) (edit : Edit) (edits : List Edit)
    (pairs : List (Option Nat × Option Nat)) :
    blanked (none, none) ((left body pairs edit).filter (standing (run (apply body edit) edits))) =
      blanked (none, none) (pairs.filter (standing (run (apply body edit) edits))) := by
  cases edit with
  | removeColumn tableId index =>
    cases here : (columnsOf body tableId)[index]? with
    | none => simp only [left, here]
    | some c =>
      simp only [left, here, without]
      have old : c.number < (removeColumn body tableId index).made := by
        have inside : c.number ∈ numbers body tableId :=
          List.mem_map_of_mem (List.mem_of_getElem? here)
        exact Nat.lt_of_lt_of_le (sound.made _ _ inside)
          (grows_apply body (.removeColumn tableId index)).counted
      have gone : present (run (removeColumn body tableId index) edits) c.number = false :=
        absent_run old (absent_removeColumn sound here) edits
      rw [blanked_filter rfl, List.filter_filter]
      congr 1
      apply List.filter_congr
      intro pair _
      rw [Bool.and_eq_left_iff_imp]
      intro stands
      rw [decide_eq_true_eq]
      obtain ⟨first, second⟩ := Bool.and_eq_true_iff.mp stands
      constructor
      · intro same
        rw [same] at first
        exact absurd (first.symm.trans gone) Bool.true_eq_false.mp
      · intro same
        rw [same] at second
        exact absurd (second.symm.trans gone) Bool.true_eq_false.mp
  | _ => rfl

/-- The pairs of a relation stand where they are read. -/
theorem standing_ends (body : Body) (r : Relation) :
    blanked (none, none) ((ends body r).filter (standing body)) = ends body r := by
  have found : ∀ table name, (resolve body table name).all (present body) = true := by
    intro table name
    rw [Option.all_eq_true]
    intro number resolved
    obtain ⟨c, first, rfl⟩ := Option.map_eq_some_iff.mp resolved
    exact present_iff.mpr ⟨table, List.mem_map_of_mem (List.mem_of_find?_eq_some first)⟩
  have all : (ends body r).filter (standing body) = ends body r := by
    rw [List.filter_eq_self]
    intro pair member
    obtain ⟨l, -, rfl⟩ := List.mem_map.mp member
    exact Bool.and_eq_true_iff.mpr ⟨found _ _, found _ _⟩
  rw [all]
  rfl

/-- Over any run a relation goes exactly with its tables, and joins the pairs of columns it
joined, by identity, as far as both are still there. -/
theorem relations_follow {body : Body} {edits : List Edit} (clean : Clean body)
    (fits : FitsAll body edits) {r : Relation} (member : r ∈ body.relations)
    (apart : ∀ edit ∈ edits, ¬edit.Concerns r.id) :
    ((∃ r' ∈ (run body edits).relations, r'.id = r.id) ↔
        ∀ edit ∈ edits, ¬edit.Removes r.fromTable ∧ ¬edit.Removes r.toTable) ∧
      ∀ r' ∈ (run body edits).relations, r'.id = r.id →
        r'.fromTable = r.fromTable ∧ r'.toTable = r.toTable ∧
          ends (run body edits) r' =
            blanked (none, none) ((ends body r).filter (standing (run body edits))) := by
  induction edits generalizing body r with
  | nil =>
    refine ⟨iff_of_true ⟨r, member, rfl⟩ fun edit inside => absurd inside List.not_mem_nil, ?_⟩
    intro r' inside same
    obtain rfl := List.inj_on_of_nodup_map clean.ids inside member same
    exact ⟨rfl, rfl, (standing_ends body r').symm⟩
  | cons edit edits hypothesis =>
    obtain ⟨clean', -⟩ := view_apply clean fits.1
    have rest : ∀ e ∈ edits, ¬e.Concerns r.id :=
      fun e inside => apart e (List.mem_cons_of_mem _ inside)
    obtain ⟨survives, joins⟩ := relation_apply clean fits.1 member (apart edit List.mem_cons_self)
    rw [List.forall_mem_cons]
    by_cases there : ∃ r' ∈ (apply body edit).relations, r'.id = r.id
    · obtain ⟨s, inside, same⟩ := there
      obtain ⟨from_same, to_same, ends_same⟩ := joins s inside same
      have later := hypothesis clean' fits.2 inside (by rw [same]; exact rest)
      rw [same, from_same, to_same, ends_same] at later
      obtain ⟨survives', joins'⟩ := later
      constructor
      · rw [and_iff_right (survives.mp ⟨s, inside, same⟩)]
        exact survives'
      · intro r' member' same'
        obtain ⟨from_same', to_same', ends_same'⟩ := joins' r' member' same'
        refine ⟨from_same', to_same', ?_⟩
        exact ends_same'.trans (standing_left clean.sound edit edits (ends body r))
    · have absent := absent_relations clean' fits.2 rest
        fun r' inside same => there ⟨r', inside, same⟩
      constructor
      · refine iff_of_false ?_ ?_
        · rintro ⟨r', inside, same⟩
          exact absent r' inside same
        · intro stays
          exact there (survives.mpr stays.1)
      · intro r' inside same
        exact absurd same (absent r' inside)

theorem columnsOf_cases (body : Body) (table : Text) :
    columnsOf body table = [] ∨
      ∃ t ∈ body.tables, t.id = table ∧ columnsOf body table = t.columns := by
  unfold columnsOf
  cases found : body.tables.find? fun t => decide (t.id = table) with
  | none => exact Or.inl rfl
  | some t =>
    exact Or.inr ⟨t, List.mem_of_find?_eq_some found, by simpa using List.find?_some found, rfl⟩

theorem named_of_tables {body : Body} (each : ∀ t ∈ body.tables, Named t.columns) (table : Text) :
    Named (columnsOf body table) := by
  rcases columnsOf_cases body table with empty | ⟨t, member, -, same⟩
  · rw [empty]
    exact ⟨List.nodup_nil, fun c member => absurd member List.not_mem_nil⟩
  · rw [same]
    exact each t member

/-- Two tables of one column each, and the relation between them. -/
def placed : Body where
  tables := [
    { id := "a".toList, name := "a".toList,
      columns := [{ name := "x".toList, dataType := [], number := 0 }] },
    { id := "b".toList, name := "b".toList,
      columns := [{ name := "y".toList, dataType := [], number := 1 }] }]
  relations := [
    { id := "r".toList, fromTable := "a".toList, fromColumn := "x".toList, toTable := "b".toList,
      toColumn := "y".toList }]
  made := 2

theorem placed_clean : Clean placed := by
  have numbers_cases : ∀ table number, number ∈ numbers placed table →
      (table = "a".toList ∧ number = 0) ∨ (table = "b".toList ∧ number = 1) := by
    intro table number member
    rcases columnsOf_cases placed table with empty | ⟨t, inside, rfl, same⟩
    · rw [numbers, empty] at member
      exact absurd member List.not_mem_nil
    · rw [numbers, same] at member
      rcases List.mem_cons.mp inside with rfl | rest
      · exact Or.inl ⟨rfl, List.mem_singleton.mp member⟩
      · obtain rfl := List.mem_singleton.mp rest
        exact Or.inr ⟨rfl, List.mem_singleton.mp member⟩
  refine ⟨⟨named_of_tables ?_, ?_, ?_, ?_⟩, List.nodup_singleton _, ?_⟩
  · intro t member
    refine ⟨?_, ?_⟩ <;> revert t <;> decide
  · intro table
    rcases columnsOf_cases placed table with empty | ⟨t, inside, -, same⟩
    · rw [numbers, empty]
      exact List.nodup_nil
    · rw [numbers, same]
      have each : ∀ t ∈ placed.tables, (t.columns.map Column.number).Nodup := by decide
      exact each t inside
  · intro table other number here there
    rcases numbers_cases table number here with ⟨rfl, rfl⟩ | ⟨rfl, rfl⟩ <;>
      rcases numbers_cases other _ there with ⟨rfl, same⟩ | ⟨rfl, same⟩
    · rfl
    · cases same
    · cases same
    · rfl
  · intro table number member
    rcases numbers_cases table number member with ⟨-, rfl⟩ | ⟨-, rfl⟩
    · exact Nat.zero_lt_two
    · exact Nat.one_lt_two
  · intro r member
    obtain rfl := List.mem_singleton.mp member
    refine ⟨⟨_, List.mem_cons_self, rfl⟩, ⟨_, List.mem_cons_of_mem _ List.mem_cons_self, rfl⟩, ?_⟩
    intro l pair
    obtain rfl := List.mem_singleton.mp pair
    exact ⟨Or.inr ⟨_, List.mem_cons_self, rfl⟩, Or.inr ⟨_, List.mem_cons_self, rfl⟩⟩

/-- A removed column that a relation used: the relation stays, with nothing chosen. -/
theorem blank_relation_stays :
    ¬∀ (body : Body) (edits : List Edit), Clean body → FitsAll body edits →
      ∀ r ∈ body.relations, (∀ edit ∈ edits, ¬edit.Concerns r.id) →
        ((∃ r' ∈ (run body edits).relations, r'.id = r.id) ↔
            (∀ edit ∈ edits, ¬edit.Removes r.fromTable ∧ ¬edit.Removes r.toTable) ∧
              ∀ pair ∈ ends body r, standing (run body edits) pair = true) ∧
          ∀ r' ∈ (run body edits).relations, r'.id = r.id →
            ends (run body edits) r' = ends body r := by
  intro all
  have removal : FitsAll placed [.removeColumn "b".toList 0] := by
    refine ⟨⟨named_of_tables ?_, trivial⟩, trivial⟩
    intro t member
    refine ⟨?_, ?_⟩ <;> revert t <;> decide
  have apart : ∀ edit ∈ [Edit.removeColumn "b".toList 0], ¬edit.Concerns "r".toList := by
    intro edit member
    rw [List.mem_singleton.mp member]
    exact not_false
  have stays := (all placed _ placed_clean removal _ List.mem_cons_self apart).1.mp
    ⟨_, List.mem_cons_self, rfl⟩
  exact absurd (stays.2 _ List.mem_cons_self) (by decide)

/-- One column renamed and the other removed. -/
theorem placed_follows :
    ((∃ r' ∈ (run placed [.renameColumn "b".toList 0 "z".toList,
          .removeColumn "a".toList 0]).relations, r'.id = "r".toList) ↔
        ∀ edit ∈ [Edit.renameColumn "b".toList 0 "z".toList, .removeColumn "a".toList 0],
          ¬edit.Removes "a".toList ∧ ¬edit.Removes "b".toList) ∧
      ∀ r' ∈ (run placed [.renameColumn "b".toList 0 "z".toList,
          .removeColumn "a".toList 0]).relations, r'.id = "r".toList →
        r'.fromTable = "a".toList ∧ r'.toTable = "b".toList ∧
          ends (run placed [.renameColumn "b".toList 0 "z".toList, .removeColumn "a".toList 0])
              r' =
            blanked (none, none) ([(some 0, some 1)].filter (standing (run placed
              [.renameColumn "b".toList 0 "z".toList, .removeColumn "a".toList 0]))) := by
  refine relations_follow placed_clean ?_ (List.mem_singleton.mpr rfl) ?_
  · refine ⟨⟨named_of_tables ?_, trivial⟩, ⟨named_of_tables ?_, trivial⟩, trivial⟩ <;>
      intro t member <;> refine ⟨?_, ?_⟩ <;> revert t <;> decide
  · intro edit member
    rcases List.mem_cons.mp member with rfl | rest
    · exact not_false
    · rw [List.mem_singleton.mp rest]
      exact not_false

end Runs

end DbFree.Designer
