import DbFree.DesignerModel

/- Relations point at columns by name, and edits rewrite them by name; here a relation is read
as the columns it joins, and every edit is shown to move those as an edit of columns would. -/
namespace DbFree.Designer

open Diagram (DiagramColumn)

section Names

/-- The number of the column a name stands for. -/
def numberOf (columns : List Column) (name : Text) : Option Nat :=
  (columns.find? fun c => c.name = name).map Column.number

/-- The columns of one table: no name twice, and none empty. -/
def Named (columns : List Column) : Prop :=
  (columns.map fun c => c.name).Nodup ∧ ∀ c ∈ columns, c.name ≠ []

theorem numberOf_eq_some_iff {columns : List Column} (named : Named columns) (name : Text)
    (number : Nat) :
    numberOf columns name = some number ↔ ∃ c ∈ columns, c.name = name ∧ c.number = number := by
  constructor
  · intro found
    obtain ⟨c, first, rfl⟩ := Option.map_eq_some_iff.mp found
    exact ⟨c, List.mem_of_find?_eq_some first, by simpa using List.find?_some first, rfl⟩
  · rintro ⟨c, member, rfl, rfl⟩
    cases first : columns.find? fun d => decide (d.name = c.name) with
    | none =>
      have missed := List.find?_eq_none.mp first c member
      simp at missed
    | some d =>
      have same : d.name = c.name := by simpa using List.find?_some first
      have alike := List.inj_on_of_nodup_map named.1 (List.mem_of_find?_eq_some first) member same
      rw [numberOf, first, alike]
      rfl

theorem numberOf_eq_none_iff {columns : List Column} {name : Text} :
    numberOf columns name = none ↔ ∀ c ∈ columns, c.name ≠ name := by
  simp [numberOf]

/-- Two lists of columns in which a name stands for the same. -/
theorem numberOf_congr {columns columns' : List Column} (named : Named columns)
    (named' : Named columns') {name name' : Text}
    (same : ∀ number, (∃ c ∈ columns, c.name = name ∧ c.number = number) ↔
      ∃ c ∈ columns', c.name = name' ∧ c.number = number) :
    numberOf columns name = numberOf columns' name' := by
  apply Option.ext
  intro number
  rw [numberOf_eq_some_iff named, numberOf_eq_some_iff named', same]

/-- What stands before and behind a column, and what becomes of it there. -/
theorem split_at {columns : List Column} {index : Nat} {c : Column}
    (here : columns[index]? = some c) :
    ∃ before after, columns = before ++ c :: after ∧
      (∀ f, columns.modify index f = before ++ f c :: after) ∧
      columns.eraseIdx index = before ++ after := by
  obtain ⟨inside, rfl⟩ := List.getElem?_eq_some_iff.mp here
  refine ⟨columns.take index, columns.drop (index + 1), ?_, ?_, ?_⟩
  · rw [List.getElem_cons_drop, List.take_append_drop]
  · intro f
    rw [List.modify_eq_take_cons_drop inside]
  · rw [List.eraseIdx_eq_take_drop_succ]

theorem named_append {before after : List Column} {c : Column}
    (named : Named (before ++ c :: after)) :
    Named (before ++ after) ∧ ∀ d ∈ before ++ after, d.name ≠ c.name := by
  obtain ⟨distinct, filled⟩ := named
  rw [List.map_append, List.map_cons, List.nodup_middle, List.nodup_cons, ← List.map_append]
    at distinct
  refine ⟨⟨distinct.2, fun d member => filled d ?_⟩, ?_⟩
  · rcases List.mem_append.mp member with left | right
    · exact List.mem_append_left _ left
    · exact List.mem_append_right _ (List.mem_cons_of_mem c right)
  · intro d member same
    exact distinct.1 (List.mem_map.mpr ⟨d, member, same⟩)

theorem mem_middle {before after : List Column} {c d : Column} :
    d ∈ before ++ c :: after ↔ d = c ∨ d ∈ before ++ after := by
  simp only [List.mem_append, List.mem_cons]
  tauto

end Names

section Columns

def Has (body : Body) (table : Text) : Prop := ∃ t ∈ body.tables, t.id = table

def numbers (body : Body) (table : Text) : List Nat := (columnsOf body table).map Column.number

/-- The column that a name of a table stands for. -/
def resolve (body : Body) (table name : Text) : Option Nat := numberOf (columnsOf body table) name

/-- A name that is blank or that a column of the table has. -/
def NamedIn (columns : List Column) (name : Text) : Prop := name = [] ∨ ∃ c ∈ columns, c.name = name

/-- The tables of a diagram: in each the names of the columns are distinct and not empty, and no
column is there twice. -/
structure Sound (body : Body) : Prop where
  named : ∀ table, Named (columnsOf body table)
  distinct : ∀ table, (numbers body table).Nodup
  apart : ∀ table other number, number ∈ numbers body table → number ∈ numbers body other →
    table = other
  made : ∀ table, ∀ number ∈ numbers body table, number < body.made

theorem has_of_mem {body : Body} {table : Text} {c : Column} (member : c ∈ columnsOf body table) :
    Has body table := by
  unfold columnsOf at member
  cases found : body.tables.find? fun t => decide (t.id = table) with
  | none =>
    rw [found] at member
    exact absurd member List.not_mem_nil
  | some t => exact ⟨t, List.mem_of_find?_eq_some found, by simpa using List.find?_some found⟩

theorem has_patchTable {body : Body} {id : Text} {patch : Table → Table}
    (keeps : ∀ t, (patch t).id = t.id) (table : Text) :
    Has (patchTable body id patch) table ↔ Has body table := by
  have same : ∀ t : Table, (if t.id = id then patch t else t).id = t.id := by
    intro t
    split
    · exact keeps t
    · rfl
  simp [Has, patchTable, same]

theorem columnsOf_patchTable {body : Body} {id : Text} {patch : Table → Table}
    (keeps : ∀ t, (patch t).id = t.id) (table : Text) :
    columnsOf (patchTable body id patch) table =
      ((body.tables.find? fun t => t.id = table).map fun t =>
        if t.id = id then (patch t).columns else t.columns).getD [] := by
  have same : ∀ t : Table, (if t.id = id then patch t else t).id = t.id := by
    intro t
    split
    · exact keeps t
    · rfl
  simp only [columnsOf, patchTable, List.find?_map, Function.comp_def, same, Option.map_map]
  congr 2
  funext t
  split <;> rfl

theorem columnsOf_setColumns {body : Body} {id : Text} (columns : List Column) (table : Text) :
    columnsOf (setColumns body id columns) table = columnsOf body table ∨
      table = id ∧ columnsOf (setColumns body id columns) table = columns := by
  rw [setColumns, columnsOf_patchTable fun t => by rfl]
  cases found : body.tables.find? fun t => decide (t.id = table) with
  | none =>
    rw [columnsOf, found]
    exact Or.inl rfl
  | some t =>
    have named : t.id = table := by simpa using List.find?_some found
    by_cases here : table = id
    · refine Or.inr ⟨here, ?_⟩
      simp [named, here]
    · rw [columnsOf, found]
      refine Or.inl ?_
      simp [named, here]

theorem columnsOf_setColumns_self {body : Body} {id : Text} (there : Has body id)
    (columns : List Column) : columnsOf (setColumns body id columns) id = columns := by
  rw [setColumns, columnsOf_patchTable fun t => by rfl]
  cases found : body.tables.find? fun t => decide (t.id = id) with
  | none =>
    obtain ⟨t, member, named⟩ := there
    have missed := List.find?_eq_none.mp found t member
    simp [named] at missed
  | some t =>
    have named : t.id = id := by simpa using List.find?_some found
    simp [named]

theorem columnsOf_setColumns_other {body : Body} {id table : Text} (other : table ≠ id)
    (columns : List Column) :
    columnsOf (setColumns body id columns) table = columnsOf body table :=
  (columnsOf_setColumns columns table).resolve_right fun same => other same.1

/-- A diagram stays sound when the columns of one table become others that are sound. -/
theorem sound_of_columns {body body' : Body} (sound : Sound body) {id : Text}
    {columns : List Column}
    (changed : ∀ table, columnsOf body' table = columnsOf body table ∨
      table = id ∧ columnsOf body' table = columns)
    (named : ∀ table, Named (columnsOf body' table)) (distinct : (columns.map Column.number).Nodup)
    (origin : ∀ number ∈ columns.map Column.number,
      number ∈ numbers body id ∨ body.made ≤ number ∧ number < body'.made)
    (counted : body.made ≤ body'.made) : Sound body' := by
  have numbers_of : ∀ table number, number ∈ numbers body' table →
      number ∈ numbers body table ∨ table = id ∧ body.made ≤ number ∧ number < body'.made := by
    intro table number member
    rcases changed table with same | ⟨rfl, same⟩
    · rw [numbers, same] at member
      exact Or.inl member
    · rw [numbers, same] at member
      rcases origin number member with old | new
      · exact Or.inl old
      · exact Or.inr ⟨rfl, new⟩
  refine ⟨named, ?_, ?_, ?_⟩
  · intro table
    rcases changed table with same | ⟨-, same⟩
    · rw [numbers, same]
      exact sound.distinct table
    · rw [numbers, same]
      exact distinct
  · intro table other number here there
    rcases numbers_of table number here with old | ⟨rfl, new, -⟩ <;>
      rcases numbers_of other number there with old' | ⟨rfl, new', -⟩
    · exact sound.apart table other number old old'
    · exact absurd (sound.made table number old) (Nat.not_lt.mpr new')
    · exact absurd (sound.made other number old') (Nat.not_lt.mpr new)
    · rfl
  · intro table number member
    rcases numbers_of table number member with old | ⟨-, -, new⟩
    · exact Nat.lt_of_lt_of_le (sound.made table number old) counted
    · exact new

/-- Where the columns a table had before keep their numbers. -/
theorem resolve_eq_number_iff {body : Body} (sound : Sound body) {table : Text} {c : Column}
    (member : c ∈ columnsOf body table) (other name : Text) :
    resolve body other name = some c.number ↔ other = table ∧ name = c.name := by
  constructor
  · intro found
    obtain ⟨d, inside, rfl, same⟩ := (numberOf_eq_some_iff (sound.named other) name _).mp found
    have here : c.number ∈ numbers body other := List.mem_map.mpr ⟨d, inside, same⟩
    have there : c.number ∈ numbers body table := List.mem_map.mpr ⟨c, member, rfl⟩
    obtain rfl := sound.apart other table _ here there
    have alike := List.inj_on_of_nodup_map (sound.distinct other) inside member same
    exact ⟨rfl, by rw [alike]⟩
  · rintro ⟨rfl, rfl⟩
    exact (numberOf_eq_some_iff (sound.named other) _ _).mpr ⟨c, member, rfl, rfl⟩

theorem resolve_blank {body : Body} (sound : Sound body) (table : Text) :
    resolve body table [] = none :=
  numberOf_eq_none_iff.mpr (sound.named table).2

end Columns

section Joins

def Attached (body : Body) (rel : Relation) : Prop :=
  Has body rel.fromTable ∧ Has body rel.toTable ∧ ∀ l ∈ linksOf rel,
    NamedIn (columnsOf body rel.fromTable) l.1 ∧ NamedIn (columnsOf body rel.toTable) l.2

/-- A diagram whose relations name columns that are there, or none. -/
structure Clean (body : Body) : Prop where
  sound : Sound body
  ids : (body.relations.map fun r => r.id).Nodup
  attached : ∀ r ∈ body.relations, Attached body r

/-- The columns that a relation joins, pair by pair. -/
def ends (body : Body) (rel : Relation) : List (Option Nat × Option Nat) :=
  (linksOf rel).map fun l => (resolve body rel.fromTable l.1, resolve body rel.toTable l.2)

/-- A relation as what it joins. -/
structure Joined where
  id : Text
  fromTable : Text
  toTable : Text
  ends : List (Option Nat × Option Nat)

def view (body : Body) : List Joined :=
  body.relations.map fun r => ⟨r.id, r.fromTable, r.toTable, ends body r⟩

/-- A relation without pairs has one whose columns are to be chosen. -/
def blanked {α : Type} (blank : α) (pairs : List α) : List α :=
  if pairs = [] then [blank] else pairs

theorem linksOf_withLinks (rel : Relation) (links : List (Text × Text)) :
    linksOf (withLinks rel links) = blanked ([], []) links := by
  cases links with
  | nil => rfl
  | cons first rest => rfl

theorem withLinks_linksOf (rel : Relation) : withLinks rel (linksOf rel) = rel := rfl

theorem map_blanked {α β : Type} (f : α → β) (blank : α) (pairs : List α) :
    (blanked blank pairs).map f = blanked (f blank) (pairs.map f) := by
  cases pairs with
  | nil => rfl
  | cons first rest => rfl

/-- A relation whose names are replaced, table by table. -/
def relabel (rename : Text → Text → Text) (rel : Relation) : Relation :=
  withLinks rel ((linksOf rel).map fun l => (rename rel.fromTable l.1, rename rel.toTable l.2))

theorem linksOf_relabel (rename : Text → Text → Text) (rel : Relation) :
    linksOf (relabel rename rel) =
      (linksOf rel).map fun l => (rename rel.fromTable l.1, rename rel.toTable l.2) := by
  rw [relabel, linksOf_withLinks, blanked, if_neg]
  rw [List.map_eq_nil_iff]
  exact List.cons_ne_nil _ _

theorem relabel_id (rel : Relation) : relabel (fun _ name => name) rel = rel := by
  have same : (linksOf rel).map (fun l => (l.1, l.2)) = linksOf rel := List.map_id _
  rw [relabel, same, withLinks_linksOf]

/-- Where every name stands for the column it stood for, relations join what they joined. -/
theorem relabelled {body body' : Body} (clean : Clean body) (sound : Sound body')
    {rename : Text → Text → Text}
    (relations : body'.relations = body.relations.map (relabel rename))
    (has : ∀ table, Has body table → Has body' table)
    (kept : ∀ table name, NamedIn (columnsOf body table) name →
      NamedIn (columnsOf body' table) (rename table name) ∧
        resolve body' table (rename table name) = resolve body table name) :
    Clean body' ∧ view body' = view body := by
  refine ⟨⟨sound, ?_, ?_⟩, ?_⟩
  · rw [relations, List.map_map]
    exact clean.ids
  · intro r member
    rw [relations] at member
    obtain ⟨r, inside, rfl⟩ := List.mem_map.mp member
    obtain ⟨from_there, to_there, named⟩ := clean.attached r inside
    refine ⟨has _ from_there, has _ to_there, ?_⟩
    intro l pair
    rw [linksOf_relabel] at pair
    obtain ⟨l, before, rfl⟩ := List.mem_map.mp pair
    exact ⟨(kept _ _ (named l before).1).1, (kept _ _ (named l before).2).1⟩
  · rw [view, view, relations, List.map_map]
    apply List.map_congr_left
    intro r member
    have same : ends body' (relabel rename r) = ends body r := by
      rw [ends, linksOf_relabel, List.map_map, ends]
      apply List.map_congr_left
      intro l pair
      obtain ⟨from_named, to_named⟩ := (clean.attached r member).2.2 l pair
      exact Prod.ext (kept _ _ from_named).2 (kept _ _ to_named).2
    show Joined.mk r.id r.fromTable r.toTable (ends body' (relabel rename r)) = _
    rw [same]

/-- The same with no name replaced. -/
theorem unlabelled {body body' : Body} (clean : Clean body) (sound : Sound body')
    (relations : body'.relations = body.relations) (has : ∀ table, Has body table → Has body' table)
    (kept : ∀ table name, NamedIn (columnsOf body table) name →
      NamedIn (columnsOf body' table) name ∧ resolve body' table name = resolve body table name) :
    Clean body' ∧ view body' = view body := by
  refine @relabelled _ _ clean sound (fun _ name => name) ?_ has kept
  rw [relations, funext relabel_id, List.map_id']

end Joins

section Steps

/-- Two lists of columns with the same names and numbers. -/
theorem kept_of_same {columns columns' : List Column} (named : Named columns)
    (named' : Named columns')
    (same : ∀ name number, (∃ c ∈ columns, c.name = name ∧ c.number = number) ↔
      ∃ c ∈ columns', c.name = name ∧ c.number = number) {name : Text}
    (there : NamedIn columns name) :
    NamedIn columns' name ∧ numberOf columns' name = numberOf columns name := by
  refine ⟨there.imp_right ?_, (numberOf_congr named named' (same name)).symm⟩
  rintro ⟨c, member, rfl⟩
  obtain ⟨d, inside, named, -⟩ := (same c.name c.number).mp ⟨c, member, rfl, rfl⟩
  exact ⟨d, inside, named⟩

/-- An edit of one column that keeps its name and its number. -/
theorem modify_same {columns : List Column} (index : Nat) {patch : Column → Column}
    (keeps : ∀ c, (patch c).name = c.name ∧ (patch c).number = c.number) (name : Text)
    (number : Nat) :
    (∃ c ∈ columns, c.name = name ∧ c.number = number) ↔
      ∃ c ∈ columns.modify index patch, c.name = name ∧ c.number = number := by
  cases here : columns[index]? with
  | none => rw [List.modify_eq_self (List.getElem?_eq_none_iff.mp here)]
  | some c =>
    obtain ⟨before, after, rfl, modified, -⟩ := split_at here
    rw [modified]
    simp only [mem_middle, exists_eq_or_imp, (keeps c).1, (keeps c).2]

theorem map_modify {α : Type} {columns : List Column} (index : Nat) {patch : Column → Column}
    (f : Column → α) (keeps : ∀ c, f (patch c) = f c) :
    (columns.modify index patch).map f = columns.map f := by
  cases here : columns[index]? with
  | none => rw [List.modify_eq_self (List.getElem?_eq_none_iff.mp here)]
  | some c =>
    obtain ⟨before, after, rfl, modified, -⟩ := split_at here
    rw [modified, List.map_append, List.map_append, List.map_cons, List.map_cons, keeps]

/-- An edit of the columns of one table that names go through unchanged. -/
theorem columns_keep {body body' : Body} (clean : Clean body)
    (named : ∀ table, Named (columnsOf body' table)) {id : Text} {columns : List Column}
    (changed : ∀ table, columnsOf body' table = columnsOf body table ∨
      table = id ∧ columnsOf body' table = columns)
    (relations : body'.relations = body.relations) (has : ∀ table, Has body table → Has body' table)
    (distinct : (columns.map Column.number).Nodup)
    (origin : ∀ number ∈ columns.map Column.number,
      number ∈ numbers body id ∨ body.made ≤ number ∧ number < body'.made)
    (counted : body.made ≤ body'.made)
    (kept : Named columns → ∀ name, NamedIn (columnsOf body id) name →
      NamedIn columns name ∧ numberOf columns name = numberOf (columnsOf body id) name) :
    Clean body' ∧ view body' = view body := by
  refine unlabelled clean (sound_of_columns clean.sound changed named distinct origin counted)
    relations has ?_
  intro table name there
  rcases changed table with same | ⟨rfl, same⟩
  · rw [resolve, same]
    exact ⟨there, rfl⟩
  · have own := named table
    rw [same] at own
    rw [resolve, same]
    exact kept own name there

theorem has_setColumns {body : Body} {id : Text} (columns : List Column) (table : Text) :
    Has body table → Has (setColumns body id columns) table :=
  (has_patchTable (fun _ => by rfl) table).mpr

theorem updateColumn_keeps {body : Body} (clean : Clean body) (id : Text) (index : Nat)
    {patch : Column → Column}
    (keeps : ∀ c, (patch c).name = c.name ∧ (patch c).number = c.number)
    (named : ∀ table, Named (columnsOf (updateColumn body id index patch) table)) :
    Clean (updateColumn body id index patch) ∧
      view (updateColumn body id index patch) = view body := by
  have numbers_same : ((columnsOf body id).modify index patch).map Column.number =
      (columnsOf body id).map Column.number := map_modify index Column.number fun c => (keeps c).2
  apply columns_keep clean named (columnsOf_setColumns _) rfl (has_setColumns _)
  · rw [numbers_same]
    exact clean.sound.distinct id
  · intro number member
    rw [numbers_same] at member
    exact Or.inl member
  · exact Nat.le_refl body.made
  · intro own name there
    exact kept_of_same (clean.sound.named id) own (modify_same index keeps) there

theorem moveColumn_cases (body : Body) (id : Text) (index : Nat) (delta : Direction) :
    moveColumn body id index delta = body ∨ ∃ columns, columns.Perm (columnsOf body id) ∧
      moveColumn body id index delta = setColumns body id columns := by
  unfold moveColumn
  dsimp only
  split
  · rename_i moving target here _
    split
    · rename_i other there
      obtain ⟨inside, rfl⟩ := List.getElem?_eq_some_iff.mp here
      obtain ⟨inside', rfl⟩ := List.getElem?_eq_some_iff.mp there
      exact Or.inr ⟨_, List.set_set_perm inside inside', rfl⟩
    · exact Or.inl rfl
  · exact Or.inl rfl

theorem moveColumn_keeps {body : Body} (clean : Clean body) (id : Text) (index : Nat)
    (delta : Direction)
    (named : ∀ table, Named (columnsOf (moveColumn body id index delta) table)) :
    Clean (moveColumn body id index delta) ∧ view (moveColumn body id index delta) = view body := by
  rcases moveColumn_cases body id index delta with same | ⟨columns, swapped, same⟩
  · rw [same]
    exact ⟨clean, rfl⟩
  · rw [same] at named ⊢
    have numbers_same := swapped.map Column.number
    apply columns_keep clean named (columnsOf_setColumns _) rfl (has_setColumns _)
    · exact numbers_same.nodup_iff.mpr (clean.sound.distinct id)
    · intro number member
      exact Or.inl (numbers_same.mem_iff.mp member)
    · exact Nat.le_refl body.made
    · intro own name there
      refine kept_of_same (clean.sound.named id) own ?_ there
      intro name number
      simp only [swapped.mem_iff]

theorem addColumn_keeps {body : Body} (clean : Clean body) (id : Text) (column : DiagramColumn)
    (named : ∀ table, Named (columnsOf (addColumn body id column) table)) :
    Clean (addColumn body id column) ∧ view (addColumn body id column) = view body := by
  have changed : ∀ table, columnsOf (addColumn body id column) table = columnsOf body table ∨
      table = id ∧ columnsOf (addColumn body id column) table =
        columnsOf body id ++ [numbered body.made column] := columnsOf_setColumns _
  have has : ∀ table, Has body table → Has (addColumn body id column) table := has_setColumns _
  apply columns_keep clean named changed rfl has
  · rw [List.map_append, List.map_singleton, List.nodup_append]
    refine ⟨clean.sound.distinct id, List.nodup_singleton _, ?_⟩
    intro number old new is_new same
    rw [List.mem_singleton.mp is_new] at same
    exact absurd (clean.sound.made id number old) (by rw [same]; exact Nat.lt_irrefl _)
  · intro number member
    rw [List.map_append, List.mem_append, List.map_singleton, List.mem_singleton] at member
    rcases member with old | rfl
    · exact Or.inl old
    · exact Or.inr ⟨Nat.le_refl _, Nat.lt_succ_self _⟩
  · exact Nat.le_succ body.made
  · intro own name there
    obtain ⟨-, fresh⟩ := named_append own
    rw [List.append_nil] at fresh
    have other : (numbered body.made column).name ≠ name := by
      rintro rfl
      rcases there with blank | ⟨c, member, same⟩
      · exact own.2 _ (List.mem_append_right _ (List.mem_singleton.mpr rfl)) blank
      · exact fresh c member same
    refine ⟨there.imp_right fun ⟨c, member, same⟩ => ⟨c, List.mem_append_left _ member, same⟩, ?_⟩
    apply numberOf_congr own (clean.sound.named id)
    intro number
    simp only [List.mem_append, List.mem_singleton]
    constructor
    · rintro ⟨c, old | rfl, same, numbered⟩
      · exact ⟨c, old, same, numbered⟩
      · exact absurd same other
    · rintro ⟨c, old, same, numbered⟩
      exact ⟨c, Or.inl old, same, numbered⟩

theorem updateTable_keeps {body : Body} (clean : Clean body) (id : Text) (patch : TablePatch) :
    Clean (updateTable body id patch) ∧ view (updateTable body id patch) = view body := by
  have same : ∀ table, columnsOf (updateTable body id patch) table = columnsOf body table := by
    intro table
    rw [updateTable, columnsOf_patchTable fun t => by rfl]
    simp only [ite_self]
    rfl
  have named : ∀ table, Named (columnsOf (updateTable body id patch) table) := by
    intro table
    rw [same]
    exact clean.sound.named table
  have changed : ∀ table, columnsOf (updateTable body id patch) table = columnsOf body table ∨
      table = id ∧ columnsOf (updateTable body id patch) table = columnsOf body id :=
    fun table => Or.inl (same table)
  apply columns_keep clean named changed rfl
  · exact fun table => (has_patchTable (fun _ => by rfl) table).mpr
  · exact clean.sound.distinct id
  · exact fun number member => Or.inl member
  · exact Nat.le_refl body.made
  · exact fun _ name there => ⟨there, rfl⟩

theorem map_numbered (made : Nat) (columns : List Column) :
    (columns.mapIdx fun i c => numbered (made + i) c.toDiagramColumn).map Column.number =
      (List.range columns.length).map (made + ·) := by
  apply List.ext_getElem
  · simp
  · intro i _ _
    simp [numbered]

theorem columnsOf_addTable (body : Body) (added : Table) (table : Text) :
    columnsOf (addTable body added) table = columnsOf body table ∨
      table = added.id ∧ columnsOf (addTable body added) table =
        added.columns.mapIdx fun i c => numbered (body.made + i) c.toDiagramColumn := by
  unfold columnsOf addTable
  simp only [List.find?_append]
  cases found : body.tables.find? fun t => decide (t.id = table) with
  | some t => exact Or.inl rfl
  | none =>
    by_cases same : added.id = table
    · refine Or.inr ⟨same.symm, ?_⟩
      simp [same]
    · refine Or.inl ?_
      simp [same]

theorem addTable_keeps {body : Body} (clean : Clean body) {added : Table}
    (fresh : ¬Has body added.id) (named : ∀ table, Named (columnsOf (addTable body added) table)) :
    Clean (addTable body added) ∧ view (addTable body added) = view body := by
  have empty : columnsOf body added.id = [] := by
    by_contra filled
    obtain ⟨c, member⟩ := List.exists_mem_of_ne_nil _ filled
    exact fresh (has_of_mem member)
  apply columns_keep clean named (columnsOf_addTable body added) rfl
  · rintro table ⟨t, member, same⟩
    exact ⟨t, List.mem_append_left _ member, same⟩
  · rw [map_numbered]
    exact List.nodup_range.map fun i j same => by simpa using same
  · intro number member
    rw [map_numbered] at member
    obtain ⟨i, inside, rfl⟩ := List.mem_map.mp member
    rw [List.mem_range] at inside
    refine Or.inr ⟨Nat.le_add_right _ _, ?_⟩
    show body.made + i < body.made + added.columns.length
    omega
  · exact Nat.le_add_right _ _
  · intro own name there
    have blank : name = [] := by
      rw [empty] at there
      exact there.resolve_right fun ⟨c, member, _⟩ => absurd member List.not_mem_nil
    subst blank
    refine ⟨Or.inl rfl, ?_⟩
    rw [numberOf_eq_none_iff.mpr own.2, empty]
    rfl

/-- What a name of a table becomes when one of its columns is renamed. -/
def renamed (id old name : Text) (table text : Text) : Text :=
  if table = id ∧ text = old then name else text

theorem followRename_eq (id old name : Text) :
    followRename id old name = relabel (renamed id old name) := by
  funext rel
  unfold followRename
  split
  · rfl
  · rename_i apart
    rw [not_or] at apart
    have same : (linksOf rel).map (fun l => (renamed id old name rel.fromTable l.1,
        renamed id old name rel.toTable l.2)) = linksOf rel := by
      simp [renamed, apart.1, apart.2]
    rw [relabel, same, withLinks_linksOf]

/-- A name that is free: the renamed column has it, and all others keep theirs. -/
theorem rename_kept {before after : List Column} {c : Column} {name : Text}
    (named : Named (before ++ c :: after))
    (named' : Named (before ++ { c with name := name } :: after)) {text : Text}
    (there : NamedIn (before ++ c :: after) text) :
    NamedIn (before ++ { c with name := name } :: after) (if text = c.name then name else text) ∧
      numberOf (before ++ { c with name := name } :: after) (if text = c.name then name else text) =
        numberOf (before ++ c :: after) text := by
  obtain ⟨-, others⟩ := named_append named
  obtain ⟨-, others'⟩ := named_append named'
  by_cases own : text = c.name
  · rw [if_pos own]
    refine ⟨Or.inr ⟨_, mem_middle.mpr (Or.inl rfl), rfl⟩, ?_⟩
    subst own
    rw [(numberOf_eq_some_iff named' _ c.number).mpr ⟨_, mem_middle.mpr (Or.inl rfl), rfl, rfl⟩,
      (numberOf_eq_some_iff named _ c.number).mpr ⟨c, mem_middle.mpr (Or.inl rfl), rfl, rfl⟩]
  · rw [if_neg own]
    have inside : text = [] ∨ ∃ d ∈ before ++ after, d.name = text := by
      refine there.imp_right fun ⟨d, member, same⟩ => ⟨d, ?_, same⟩
      exact (mem_middle.mp member).resolve_left fun same' => own (by rw [← same, same'])
    have other : name ≠ text := by
      rintro rfl
      rcases inside with blank | ⟨d, member, same⟩
      · exact named'.2 _ (mem_middle.mpr (Or.inl rfl)) blank
      · exact others' d member same
    refine ⟨inside.imp_right fun ⟨d, member, same⟩ => ⟨d, mem_middle.mpr (Or.inr member), same⟩, ?_⟩
    apply numberOf_congr named' named
    intro number
    simp only [mem_middle, exists_eq_or_imp, other, Ne.symm own, false_and, false_or]

theorem setColumns_keeps {body : Body} (clean : Clean body) (id : Text) {columns : List Column}
    (same : columns = columnsOf body id) :
    Clean (setColumns body id columns) ∧ view (setColumns body id columns) = view body := by
  have all : ∀ table, columnsOf (setColumns body id columns) table = columnsOf body table := by
    intro table
    have moved : columnsOf (setColumns body id columns) table = columnsOf body table ∨
        table = id ∧ columnsOf (setColumns body id columns) table = columns :=
      columnsOf_setColumns columns table
    rcases moved with kept | ⟨here, set⟩
    · exact kept
    · rw [set, same, here]
  have named : ∀ table, Named (columnsOf (setColumns body id columns) table) := by
    intro table
    rw [all]
    exact clean.sound.named table
  apply columns_keep clean named (columnsOf_setColumns columns) rfl (has_setColumns columns)
  · rw [same]
    exact clean.sound.distinct id
  · intro number member
    rw [same] at member
    exact Or.inl member
  · exact Nat.le_refl body.made
  · intro _ name there
    rw [same]
    exact ⟨there, rfl⟩

theorem renameColumn_keeps {body : Body} (clean : Clean body) (id : Text) (index : Nat)
    (name : Text) (named : ∀ table, Named (columnsOf (renameColumn body id index name) table)) :
    Clean (renameColumn body id index name) ∧
      view (renameColumn body id index name) = view body := by
  revert named
  unfold renameColumn
  dsimp only
  split
  · rename_i absent
    intro _
    exact setColumns_keeps clean id
      (List.modify_eq_self (List.getElem?_eq_none_iff.mp absent))
  · rename_i c here
    obtain ⟨before, after, shape, modified, -⟩ := split_at here
    have there : Has body id := has_of_mem (List.mem_of_getElem? here)
    split
    · rename_i unchanged
      intro _
      refine setColumns_keeps clean id ?_
      rw [modified, shape, ← unchanged]
    · intro named
      have set := columnsOf_setColumns_self there ((columnsOf body id).modify index fun c =>
        { c with name := name })
      have own : Named (before ++ { c with name := name } :: after) := by
        have here' := named id
        rw [← modified fun c => { c with name := name }]
        rw [← set]
        exact here'
      have before_named := clean.sound.named id
      rw [shape] at before_named
      have changed : ∀ table,
          columnsOf (mapRelations (updateColumn body id index fun c => { c with name := name })
            (followRename id c.name name)) table = columnsOf body table ∨
          table = id ∧
            columnsOf (mapRelations (updateColumn body id index fun c => { c with name := name })
              (followRename id c.name name)) table =
              before ++ { c with name := name } :: after := by
        intro table
        rw [← modified fun c => { c with name := name }]
        exact columnsOf_setColumns _ table
      have numbers_same : (before ++ { c with name := name } :: after).map Column.number =
          (columnsOf body id).map Column.number := by
        rw [shape, List.map_append, List.map_append, List.map_cons, List.map_cons]
      have sound := sound_of_columns clean.sound changed named
        (by rw [numbers_same]; exact clean.sound.distinct id)
        (fun number member => by rw [numbers_same] at member; exact Or.inl member)
        (Nat.le_refl body.made)
      refine @relabelled _ _ clean sound (renamed id c.name name) ?_ (has_setColumns _) ?_
      · rw [← followRename_eq]
        rfl
      · intro table text found
        rw [resolve]
        by_cases same : table = id
        · subst same
          have at_id : columnsOf (mapRelations
              (updateColumn body table index fun c => { c with name := name })
              (followRename table c.name name)) table =
                before ++ { c with name := name } :: after := by
            rw [← modified fun c => { c with name := name }]
            exact set
          rw [at_id, resolve, shape]
          rw [shape] at found
          simpa [renamed] using rename_kept before_named own found
        · have elsewhere := (changed table).resolve_right fun other => same other.1
          rw [elsewhere, renamed, if_neg fun both => same both.1]
          exact ⟨found, rfl⟩

/-- The pairs that a removed column is in go; the other relations stay as they are. -/
theorem followRemoval_eq (id gone : Text) (rel : Relation) :
    followRemoval id gone rel = withLinks rel ((linksOf rel).filter fun l =>
      ¬((rel.fromTable = id ∧ l.1 = gone) ∨ (rel.toTable = id ∧ l.2 = gone))) := by
  unfold followRemoval
  split
  · rfl
  · rename_i apart
    rw [not_or] at apart
    have all : (linksOf rel).filter (fun l =>
        ¬((rel.fromTable = id ∧ l.1 = gone) ∨ (rel.toTable = id ∧ l.2 = gone))) = linksOf rel := by
      rw [List.filter_eq_self]
      simp [apart.1, apart.2]
    rw [all, withLinks_linksOf]

/-- What a removed column leaves of the pairs of a relation. -/
def without (number : Nat) (pairs : List (Option Nat × Option Nat)) :
    List (Option Nat × Option Nat) :=
  blanked (none, none) (pairs.filter fun e => e.1 ≠ some number ∧ e.2 ≠ some number)

theorem removed_kept {before after : List Column} {c : Column}
    (named : Named (before ++ c :: after)) {name : Text} (other : name ≠ c.name) :
    (NamedIn (before ++ c :: after) name → NamedIn (before ++ after) name) ∧
      numberOf (before ++ after) name = numberOf (before ++ c :: after) name := by
  obtain ⟨named', -⟩ := named_append named
  constructor
  · intro there
    refine there.imp_right fun ⟨d, member, same⟩ => ⟨d, ?_, same⟩
    exact (mem_middle.mp member).resolve_left fun same' => other (by rw [← same, same'])
  · apply numberOf_congr named' named
    intro number
    simp only [mem_middle, exists_eq_or_imp, Ne.symm other, false_and, false_or]

theorem removeColumn_follows {body : Body} (clean : Clean body) (id : Text) (index : Nat) :
    Clean (removeColumn body id index) ∧
      view (removeColumn body id index) = match (columnsOf body id)[index]? with
        | some c => (view body).map fun j => { j with ends := without c.number j.ends }
        | none => view body := by
  unfold removeColumn
  dsimp only
  cases here : (columnsOf body id)[index]? with
  | none =>
    exact setColumns_keeps clean id
      (List.eraseIdx_of_length_le (List.getElem?_eq_none_iff.mp here))
  | some c =>
    obtain ⟨before, after, shape, -, erased⟩ := split_at here
    have member : c ∈ columnsOf body id := List.mem_of_getElem? here
    have there : Has body id := has_of_mem member
    rw [erased]
    dsimp only
    generalize final :
      mapRelations (setColumns body id (before ++ after)) (followRemoval id c.name) = body'
    have before_named := clean.sound.named id
    rw [shape] at before_named
    have at_id : columnsOf body' id = before ++ after := by
      rw [← final]
      exact columnsOf_setColumns_self there (before ++ after)
    have elsewhere : ∀ table, table ≠ id → columnsOf body' table = columnsOf body table := by
      intro table other
      rw [← final]
      exact columnsOf_setColumns_other other (before ++ after)
    have kept : ∀ table name, ¬(table = id ∧ name = c.name) →
        (NamedIn (columnsOf body table) name → NamedIn (columnsOf body' table) name) ∧
          resolve body' table name = resolve body table name := by
      intro table name apart
      by_cases same : table = id
      · subst same
        rw [resolve, resolve, at_id, shape]
        exact removed_kept before_named fun same => apart ⟨rfl, same⟩
      · rw [resolve, resolve, elsewhere table same]
        exact ⟨fun there => there, rfl⟩
    have sublist : (before ++ after).Sublist (columnsOf body id) := by
      rw [← erased]
      exact List.eraseIdx_sublist _ _
    have sound : Sound body' := by
      refine @sound_of_columns _ _ clean.sound id (before ++ after) ?_ ?_ ?_ ?_ ?_
      · intro table
        by_cases same : table = id
        · exact Or.inr ⟨same, by rw [same, at_id]⟩
        · exact Or.inl (elsewhere table same)
      · intro table
        by_cases same : table = id
        · rw [same, at_id]
          exact (named_append before_named).1
        · rw [elsewhere table same]
          exact clean.sound.named table
      · exact (clean.sound.distinct id).sublist (sublist.map Column.number)
      · exact fun number inside => Or.inl ((sublist.map Column.number).subset inside)
      · rw [← final]
        exact Nat.le_refl body.made
    have relations : body'.relations = body.relations.map (followRemoval id c.name) := by
      rw [← final]
      rfl
    have stays : ∀ r : Relation, ∀ l : Text × Text,
        (decide ¬((r.fromTable = id ∧ l.1 = c.name) ∨ (r.toTable = id ∧ l.2 = c.name))) =
          decide (resolve body r.fromTable l.1 ≠ some c.number ∧
            resolve body r.toTable l.2 ≠ some c.number) := by
      intro r l
      rw [decide_eq_decide, not_or, ne_eq, ne_eq, resolve_eq_number_iff clean.sound member,
        resolve_eq_number_iff clean.sound member]
    refine ⟨⟨sound, ?_, ?_⟩, ?_⟩
    · rw [relations, List.map_map, funext (followRemoval_eq id c.name)]
      exact clean.ids
    · intro r inside
      rw [relations] at inside
      obtain ⟨r, was, rfl⟩ := List.mem_map.mp inside
      obtain ⟨from_there, to_there, pairs⟩ := clean.attached r was
      rw [followRemoval_eq]
      refine ⟨?_, ?_, ?_⟩
      · rw [← final]
        exact has_setColumns _ _ from_there
      · rw [← final]
        exact has_setColumns _ _ to_there
      · intro l pair
        rw [linksOf_withLinks, blanked] at pair
        split at pair
        · rw [List.mem_singleton] at pair
          rw [pair]
          exact ⟨Or.inl rfl, Or.inl rfl⟩
        · obtain ⟨old, apart⟩ := List.mem_filter.mp pair
          have apart' := not_or.mp (of_decide_eq_true apart)
          exact ⟨(kept _ _ apart'.1).1 (pairs l old).1, (kept _ _ apart'.2).1 (pairs l old).2⟩
    · rw [view, view, relations, List.map_map, List.map_map]
      apply List.map_congr_left
      intro r _
      have same : ends body' (followRemoval id c.name r) = without c.number (ends body r) := by
        rw [followRemoval_eq, ends, linksOf_withLinks, map_blanked]
        show blanked (resolve body' r.fromTable [], resolve body' r.toTable []) _ = _
        rw [resolve_blank sound, resolve_blank sound, without, ends, List.filter_map]
        congr 1
        rw [List.filter_congr fun l _ => stays r l]
        apply List.map_congr_left
        intro l pair
        have apart := of_decide_eq_true (List.mem_filter.mp pair).2
        rw [ne_eq, ne_eq, resolve_eq_number_iff clean.sound member,
          resolve_eq_number_iff clean.sound member] at apart
        exact Prod.ext (kept _ _ apart.1).2 (kept _ _ apart.2).2
      show Joined.mk _ _ _ (ends body' (followRemoval id c.name r)) = _
      rw [same, followRemoval_eq]
      rfl

theorem columnsOf_removeTables {body : Body} {ids : List Text} (table : Text) :
    columnsOf (removeTables body ids) table = if table ∈ ids then [] else columnsOf body table := by
  unfold columnsOf removeTables
  simp only [List.find?_filter, decide_eq_true_eq]
  split
  · rename_i gone
    have none_left : (body.tables.find? fun t => decide (t.id ∉ ids ∧ t.id = table)) = none := by
      rw [List.find?_eq_none]
      intro t _
      rw [decide_eq_true_eq, not_and]
      rintro stays rfl
      exact stays gone
    rw [none_left]
    rfl
  · rename_i stays
    have same : (fun t : Table => decide (t.id ∉ ids ∧ t.id = table)) =
        fun t => decide (t.id = table) := by
      funext t
      rw [decide_eq_decide]
      exact ⟨fun both => both.2, fun named => ⟨named ▸ stays, named⟩⟩
    rw [same]

theorem removeTables_follows {body : Body} (clean : Clean body) (ids : List Text) :
    Clean (removeTables body ids) ∧ view (removeTables body ids) =
      (view body).filter fun j => j.fromTable ∉ ids ∧ j.toTable ∉ ids := by
  have stays : ∀ table, table ∉ ids →
      columnsOf (removeTables body ids) table = columnsOf body table := by
    intro table stay
    rw [columnsOf_removeTables, if_neg stay]
  have part : ∀ table, ∀ c ∈ columnsOf (removeTables body ids) table, c ∈ columnsOf body table := by
    intro table c member
    rw [columnsOf_removeTables] at member
    split at member
    · cases member
    · exact member
  have numbered : ∀ table, ∀ number ∈ numbers (removeTables body ids) table,
      number ∈ numbers body table := by
    intro table number member
    obtain ⟨c, inside, rfl⟩ := List.mem_map.mp member
    exact List.mem_map.mpr ⟨c, part table c inside, rfl⟩
  have has : ∀ table, table ∉ ids → Has body table → Has (removeTables body ids) table := by
    rintro table stay ⟨t, member, rfl⟩
    exact ⟨t, List.mem_filter.mpr ⟨member, decide_eq_true stay⟩, rfl⟩
  refine ⟨⟨⟨?_, ?_, ?_, ?_⟩, ?_, ?_⟩, ?_⟩
  · intro table
    rw [columnsOf_removeTables]
    split
    · exact ⟨List.nodup_nil, fun c member => absurd member List.not_mem_nil⟩
    · exact clean.sound.named table
  · intro table
    rw [numbers, columnsOf_removeTables]
    split
    · exact List.nodup_nil
    · exact clean.sound.distinct table
  · intro table other number here there
    exact clean.sound.apart table other number (numbered _ _ here) (numbered _ _ there)
  · exact fun table number member => clean.sound.made table number (numbered _ _ member)
  · exact clean.ids.sublist (List.filter_sublist.map _)
  · intro r member
    obtain ⟨inside, kept⟩ := List.mem_filter.mp member
    have apart := of_decide_eq_true kept
    obtain ⟨from_there, to_there, pairs⟩ := clean.attached r inside
    refine ⟨has _ apart.1 from_there, has _ apart.2 to_there, ?_⟩
    rw [stays _ apart.1, stays _ apart.2]
    exact pairs
  · rw [view, view, List.filter_map]
    apply List.map_congr_left
    intro r member
    have apart := of_decide_eq_true (List.mem_filter.mp member).2
    simp only [ends, resolve, stays _ apart.1, stays _ apart.2]

theorem addRelation_follows {body : Body} (clean : Clean body) {relation : Relation}
    (fresh : relation.id ∉ body.relations.map fun r => r.id) (attached : Attached body relation) :
    Clean (addRelation body relation) ∧ view (addRelation body relation) =
      view body ++ [⟨relation.id, relation.fromTable, relation.toTable, ends body relation⟩] := by
  have sound : Sound (addRelation body relation) :=
    ⟨clean.sound.named, clean.sound.distinct, clean.sound.apart, clean.sound.made⟩
  refine ⟨⟨sound, ?_, ?_⟩, ?_⟩
  · show ((body.relations ++ [relation]).map fun r => r.id).Nodup
    rw [List.map_append, List.map_singleton, List.nodup_append]
    refine ⟨clean.ids, List.nodup_singleton _, ?_⟩
    intro id old new is_new same
    rw [List.mem_singleton.mp is_new] at same
    exact fresh (same ▸ old)
  · intro r member
    rcases List.mem_append.mp member with old | new
    · exact clean.attached r old
    · rw [List.mem_singleton.mp new]
      exact attached
  · show (body.relations ++ [relation]).map _ = _
    rw [List.map_append, List.map_singleton]
    rfl

theorem removeRelations_follows {body : Body} (clean : Clean body) (ids : List Text) :
    Clean (removeRelations body ids) ∧
      view (removeRelations body ids) = (view body).filter fun j => j.id ∉ ids := by
  have sound : Sound (removeRelations body ids) :=
    ⟨clean.sound.named, clean.sound.distinct, clean.sound.apart, clean.sound.made⟩
  refine ⟨⟨sound, clean.ids.sublist (List.filter_sublist.map _), ?_⟩, ?_⟩
  · exact fun r member => clean.attached r (List.mem_of_mem_filter member)
  · rw [view, view, List.filter_map]
    rfl

/-- An edit of the relations that keeps their ids. -/
theorem mapRelations_clean {body : Body} (clean : Clean body) {f : Relation → Relation}
    (ids : ∀ r, (f r).id = r.id) (attached : ∀ r ∈ body.relations, Attached body (f r)) :
    Clean (mapRelations body f) := by
  refine ⟨⟨clean.sound.named, clean.sound.distinct, clean.sound.apart, clean.sound.made⟩, ?_, ?_⟩
  · show ((body.relations.map f).map fun r => r.id).Nodup
    rw [List.map_map]
    have same : (fun r : Relation => r.id) ∘ f = fun r => r.id := funext ids
    rw [same]
    exact clean.ids
  · intro r member
    obtain ⟨r, inside, rfl⟩ := List.mem_map.mp member
    exact attached r inside

theorem updateRelation_follows {body : Body} (clean : Clean body) (id : Text)
    (patch : RelationPatch) :
    Clean (updateRelation body id patch) ∧ view (updateRelation body id patch) = view body := by
  constructor
  · apply mapRelations_clean clean
    · intro r
      split <;> rfl
    · intro r member
      split <;> exact clean.attached r member
  · rw [view, view, updateRelation, mapRelations, List.map_map]
    apply List.map_congr_left
    intro r _
    simp only [Function.comp_apply]
    split <;> rfl

theorem setRelationLinks_follows {body : Body} (clean : Clean body) (id : Text)
    (links : List (Text × Text))
    (named : ∀ r ∈ body.relations, r.id = id → ∀ l ∈ links,
      NamedIn (columnsOf body r.fromTable) l.1 ∧ NamedIn (columnsOf body r.toTable) l.2) :
    Clean (setRelationLinks body id links) ∧ view (setRelationLinks body id links) =
      (view body).map fun j =>
        if j.id = id then
          { j with ends := blanked (none, none) (links.map fun l =>
              (resolve body j.fromTable l.1, resolve body j.toTable l.2)) }
        else j := by
  constructor
  · apply mapRelations_clean clean
    · intro r
      split <;> rfl
    · intro r member
      obtain ⟨from_there, to_there, pairs⟩ := clean.attached r member
      split
      · rename_i same
        refine ⟨from_there, to_there, ?_⟩
        intro l pair
        rw [linksOf_withLinks, blanked] at pair
        split at pair
        · rw [List.mem_singleton.mp pair]
          exact ⟨Or.inl rfl, Or.inl rfl⟩
        · exact named r member same l pair
      · exact ⟨from_there, to_there, pairs⟩
  · rw [view, view, setRelationLinks, mapRelations, List.map_map, List.map_map]
    apply List.map_congr_left
    intro r _
    simp only [Function.comp_apply]
    split
    · have chosen : ends body (withLinks r links) = blanked (none, none) (links.map fun l =>
          (resolve body r.fromTable l.1, resolve body r.toTable l.2)) := by
        rw [ends, linksOf_withLinks, map_blanked]
        show blanked (resolve body r.fromTable [], resolve body r.toTable []) _ = _
        rw [resolve_blank clean.sound, resolve_blank clean.sound]
        rfl
      exact congrArg (Joined.mk r.id r.fromTable r.toTable) chosen
    · rfl

theorem swapRelation_follows {body : Body} (clean : Clean body) (id : Text) :
    Clean (swapRelation body id) ∧ view (swapRelation body id) =
      (view body).map fun j =>
        if j.id = id then ⟨j.id, j.toTable, j.fromTable, j.ends.map Prod.swap⟩ else j := by
  have links : ∀ r : Relation, linksOf (withLinks r ((linksOf r).map Prod.swap)) =
      (linksOf r).map Prod.swap := by
    intro r
    rw [linksOf_withLinks, blanked, if_neg]
    rw [List.map_eq_nil_iff]
    exact List.cons_ne_nil _ _
  constructor
  · apply mapRelations_clean clean
    · intro r
      split <;> rfl
    · intro r member
      obtain ⟨from_there, to_there, pairs⟩ := clean.attached r member
      split
      · refine ⟨to_there, from_there, ?_⟩
        intro l pair
        have swapped : l ∈ (linksOf r).map Prod.swap := by
          rw [← links r]
          exact pair
        obtain ⟨l, was, rfl⟩ := List.mem_map.mp swapped
        exact ⟨(pairs l was).2, (pairs l was).1⟩
      · exact ⟨from_there, to_there, pairs⟩
  · rw [view, view, swapRelation, mapRelations, List.map_map, List.map_map]
    apply List.map_congr_left
    intro r _
    simp only [Function.comp_apply]
    split
    · have turned : ((linksOf (withLinks r ((linksOf r).map Prod.swap))).map fun l =>
          (resolve body r.toTable l.1, resolve body r.fromTable l.2)) =
            (ends body r).map Prod.swap := by
        rw [links, ends, List.map_map, List.map_map]
        rfl
      exact congrArg (Joined.mk r.id r.toTable r.fromTable) turned
    · rfl

/-- What an edit makes of the relations, said of the columns they join. -/
def follow (body : Body) (joined : List Joined) : Edit → List Joined
  | .removeColumn tableId index =>
    match (columnsOf body tableId)[index]? with
    | some c => joined.map fun j => { j with ends := without c.number j.ends }
    | none => joined
  | .removeTables ids => joined.filter fun j => j.fromTable ∉ ids ∧ j.toTable ∉ ids
  | .addRelation relation =>
    joined ++ [⟨relation.id, relation.fromTable, relation.toTable, ends body relation⟩]
  | .setRelationLinks id links =>
    joined.map fun j =>
      if j.id = id then
        { j with ends := blanked (none, none) (links.map fun l =>
            (resolve body j.fromTable l.1, resolve body j.toTable l.2)) }
      else j
  | .swapRelation id =>
    joined.map fun j =>
      if j.id = id then ⟨j.id, j.toTable, j.fromTable, j.ends.map Prod.swap⟩ else j
  | .removeRelations ids => joined.filter fun j => j.id ∉ ids
  | _ => joined

/-- What an edit brings in: a table and a relation of their own, and columns to choose from. -/
def BringsOwn (body : Body) : Edit → Prop
  | .addTable table => ¬Has body table.id
  | .addRelation relation =>
    relation.id ∉ body.relations.map (fun r => r.id) ∧ Attached body relation
  | .setRelationLinks id links => ∀ r ∈ body.relations, r.id = id → ∀ l ∈ links,
      NamedIn (columnsOf body r.fromTable) l.1 ∧ NamedIn (columnsOf body r.toTable) l.2
  | _ => True

/-- An edit after which no table has a name twice or an empty one. -/
structure Fits (body : Body) (edit : Edit) : Prop where
  named : ∀ table, Named (columnsOf (apply body edit) table)
  own : BringsOwn body edit

/-- Each edit moves the columns that the relations join as an edit of columns would. -/
theorem view_apply {body : Body} (clean : Clean body) {edit : Edit} (fits : Fits body edit) :
    Clean (apply body edit) ∧ view (apply body edit) = follow body (view body) edit := by
  cases edit with
  | renameColumn tableId index name => exact renameColumn_keeps clean tableId index name fits.named
  | updateColumn tableId index patch =>
    exact updateColumn_keeps clean tableId index (fun _ => ⟨rfl, rfl⟩) fits.named
  | addColumn tableId column => exact addColumn_keeps clean tableId column fits.named
  | moveColumn tableId index delta => exact moveColumn_keeps clean tableId index delta fits.named
  | removeColumn tableId index => exact removeColumn_follows clean tableId index
  | updateTable id patch => exact updateTable_keeps clean id patch
  | addTable table => exact addTable_keeps clean fits.own fits.named
  | removeTables ids => exact removeTables_follows clean ids
  | addRelation relation => exact addRelation_follows clean fits.own.1 fits.own.2
  | setRelationLinks id links => exact setRelationLinks_follows clean id links fits.own
  | swapRelation id => exact swapRelation_follows clean id
  | updateRelation id patch => exact updateRelation_follows clean id patch
  | removeRelations ids => exact removeRelations_follows clean ids

end Steps

end DbFree.Designer
