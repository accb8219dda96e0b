import DbFree.ParentsFirst
import DbFree.Trimming

/- The columns and the constraints that the script of a diagram names
(services/diagram_ddl.rs). -/
namespace DbFree.Diagram

open Texts SqlText

/-- A piece of the script that names columns of the table of a number. -/
structure Clause where
  table : Nat
  before : Text
  names : List Text
  after : Text

namespace Generator

variable (generator : Generator)

def clauseText (clause : Clause) : Text :=
  clause.before ++ generator.quoteList clause.names ++ clause.after

/-- The primary key, which is the sorting key in ClickHouse. -/
def keyClauses (item : Usable) (index : Nat) : List Clause :=
  if primary item = [] ∨ generator.inlineKey item then []
  else if generator.dialect = .clickhouse then
    [⟨index, " ENGINE = MergeTree ORDER BY (".toList, (primary item).map (·.name), ")".toList⟩]
  else
    [⟨index, "PRIMARY KEY (".toList, (primary item).map (·.name), ")".toList ++
      (if generator.dialect = .bigquery then " NOT ENFORCED".toList else [])⟩]

/-- Whether the dialect comments a column in a statement of its own. -/
def commentsOn : Bool :=
  match generator.dialect with
  | .postgres | .oracle | .duckdb | .snowflake | .generic => true
  | _ => false

def commentClauses (item : Usable) (index : Nat) : List Clause :=
  if generator.commentsOn then
    item.columns.filterMap fun column => (given column.comment).map fun comment =>
      ⟨index, "COMMENT ON COLUMN ".toList ++ generator.qualified item.table ++ ['.'],
        [column.name], " IS ".toList ++ generator.literal comment ++ [';']⟩
  else []

/-- The child's columns and the parent's. -/
def fkClauses (fk : Fk) : List Clause :=
  let parent := generator.usables[fk.parent]?.elim [] fun item => generator.qualified item.table
  [⟨fk.child, "FOREIGN KEY (".toList, fk.from_, ") REFERENCES ".toList ++ parent⟩,
    ⟨fk.parent, " (".toList, fk.to_, ")".toList ++ generator.actions fk.relation ++
      (if generator.dialect = .bigquery then " NOT ENFORCED".toList else [])⟩]

def clauses : List Clause :=
  (generator.usables.zipIdx.flatMap fun entry =>
    generator.keyClauses entry.1 entry.2 ++ generator.commentClauses entry.1 entry.2) ++
  generator.planForeignKeys.flatMap generator.fkClauses

/-- A line of the table's CREATE TABLE declares a column of the name. -/
def Declares (item : Usable) (name : Text) : Prop :=
  ∃ line ∈ generator.columnLines item, ∃ rest, line = generator.quote name ++ ' ' :: rest

end Generator

section Written

variable {generator : Generator}

theorem whole_creates (lowercase : Lowercase) (engine : Option Engine) (body : DiagramBody)
    {item : Usable} {index : Nat}
    (here : (whole lowercase engine body).usables[index]? = some item) :
    (item.table.id, (whole lowercase engine body).tableBlock item index
        (whole lowercase engine body).planForeignKeys) ∈
      (whole lowercase engine body).run.tables := by
  have small := (List.getElem?_eq_some_iff.mp here).1
  have listed : index ∈ (whole lowercase engine body).creationOrder
      (whole lowercase engine body).planForeignKeys :=
    (creationOrder_perm (whole lowercase engine body)).mem_iff.mpr (List.mem_range.mpr small)
  refine List.mem_filterMap.mpr ⟨index, listed, ?_⟩
  simp only [here]
  rfl

end Written

/-! ## Columns -/

section Columns

variable {generator : Generator}

variable (generator) in
theorem columnDef_declares (column : DiagramColumn) (inlineKey : Bool) :
    ∃ rest, generator.columnDef column inlineKey =
      generator.quote (trim column.name) ++ ' ' :: rest := by
  unfold Generator.columnDef
  cases inlineKey with
  | true => exact ⟨_, rfl⟩
  | false =>
    rw [if_neg (by decide)]
    simp only [List.append_assoc, List.cons_append]
    exact ⟨_, rfl⟩

variable (generator) in
theorem quote_starts (raw : Text) :
    ∃ mark rest, generator.quote raw = mark :: rest ∧ mark ≠ 'P' := by
  have plain : ∃ mark rest, quoteIdent raw = mark :: rest ∧ mark ≠ 'P' := ⟨_, _, rfl, by decide⟩
  unfold Generator.quote
  split
  · rw [quoteIdentFor]
    split
    · exact ⟨_, _, rfl, by decide⟩
    · exact ⟨_, _, rfl, by decide⟩
    · exact ⟨_, _, rfl, by decide⟩
    · exact plain
  · exact plain

theorem mem_columnLines {item : Usable} {line : Text}
    (member : line ∈ generator.columnLines item) :
    (∃ column ∈ item.columns, line = generator.columnDef column (generator.inlineKey item)) ∨
      ∃ rest, line = 'P' :: rest := by
  unfold Generator.columnLines at member
  rcases List.mem_append.mp member with declared | key
  · obtain ⟨column, listed, same⟩ := List.mem_map.mp declared
    exact Or.inl ⟨column, listed, same.symm⟩
  · by_cases written : Generator.primary item ≠ [] ∧ (!generator.inlineKey item) = true ∧
        generator.dialect ≠ .clickhouse
    · rw [if_pos written] at key
      rw [List.mem_singleton.mp key]
      exact Or.inr ⟨_, rfl⟩
    · rw [if_neg written] at key
      cases key

/-- A name is declared exactly when it is the trimmed name of a column. -/
theorem declares_iff (item : Usable) (name : Text) :
    generator.Declares item name ↔ ∃ column ∈ item.columns, trim column.name = name := by
  constructor
  · intro ⟨line, member, rest, line_eq⟩
    rcases mem_columnLines member with ⟨column, listed, same⟩ | ⟨tail, same⟩
    · obtain ⟨rest', starts⟩ := columnDef_declares generator column (generator.inlineKey item)
      rw [same, starts] at line_eq
      exact ⟨column, listed, (generator.quote_delimited line_eq).1⟩
    · -- The line of the key starts with another letter than a quoted name.
      obtain ⟨mark, quoted_tail, quoted, other⟩ := quote_starts generator name
      rw [same, quoted, List.cons_append] at line_eq
      exact absurd (List.cons.inj line_eq).1.symm other
  · intro ⟨column, listed, same⟩
    obtain ⟨rest, starts⟩ := columnDef_declares generator column (generator.inlineKey item)
    rw [same] at starts
    refine ⟨_, ?_, rest, starts⟩
    unfold Generator.columnLines
    exact List.mem_append_left _ (List.mem_map.mpr ⟨column, listed, rfl⟩)

theorem declares_own_iff {item : Usable} {column : DiagramColumn} (listed : column ∈ item.columns) :
    generator.Declares item column.name ↔ trim column.name = column.name := by
  rw [declares_iff]
  constructor
  · intro ⟨other, _, same⟩
    rw [← same]
    exact trim_trim other.name
  · intro same
    exact ⟨column, listed, same⟩

/-- A planned foreign key joins columns of the two tables, none of them blank. -/
theorem endpoints_columns {relation : DiagramRelation} {child parent : Nat}
    (ends : generator.endpoints relation = some (child, parent)) :
    ∃ childTable parentTable, generator.usables[child]? = some childTable ∧
      generator.usables[parent]? = some parentTable ∧
      ∀ pair ∈ relation.pairs, (∃ column ∈ childTable.columns, column.name = pair.1) ∧
        ∃ column ∈ parentTable.columns, column.name = pair.2 := by
  unfold Generator.endpoints at ends
  split at ends
  · split_ifs at ends
    split at ends
    · rename_i _ _ _ _ _ _ childTable parentTable at_child at_parent
      split_ifs at ends with columns
      cases ends
      refine ⟨childTable, parentTable, at_child, at_parent, ?_⟩
      intro pair member
      have both := List.all_eq_true.mp columns pair member
      simpa using both
    · cases ends
  · cases ends

end Columns

/-! ## Constraint names -/

section Names

variable {generator : Generator}

theorem decimal_length (count : Nat) (small : count < 10 ^ 20) : (decimal count).length ≤ 20 := by
  rw [decimal, Nat.toString_eq_ofList_toDigits, String.toList_ofList]
  exact Nat.toDigits_length 10 count 20 (by decide) small

theorem identMax_ge (dialect : Dialect) : 63 ≤ dialect.identMax := by
  cases dialect <;> decide

theorem candidate_length (base : Text) {place : Nat} (small : place + 1 < 10 ^ 20) :
    (generator.candidate base place).length ≤ generator.dialect.identMax := by
  have room := identMax_ge generator.dialect
  cases place with
  | zero =>
    rw [Generator.candidate, List.length_take]
    exact Nat.min_le_left _ _
  | succ turn =>
    have digits := decimal_length (turn + 2) (by omega)
    rw [Generator.candidate, List.length_append, List.length_take, List.length_cons]
    omega

theorem constraintName_length (relation : DiagramRelation) (child : Nat) (used : List Text)
    (few : used.length < 2 ^ 63) :
    (generator.constraintName relation child used).length ≤ generator.dialect.identMax := by
  obtain ⟨place, bound, chosen⟩ := FreshNames.choose_within generator.lowercase.lower
    (generator.candidate (generator.baseName relation child)) used
  rw [Generator.constraintName, chosen]
  exact candidate_length _ (by omega)

theorem planFrom_length (relations : List DiagramRelation) (used : List Text)
    (few : used.length + relations.length < 2 ^ 63) :
    ∀ fk ∈ generator.planFrom relations used, fk.name.length ≤ generator.dialect.identMax := by
  induction relations generalizing used with
  | nil =>
    intro fk member
    cases member
  | cons relation rest hypothesis =>
    rw [List.length_cons] at few
    rw [Generator.planFrom]
    split_ifs with in_scope
    · cases ends : generator.endpoints relation with
      | none => exact hypothesis used (by omega)
      | some nodes =>
        intro fk member
        rcases List.mem_cons.mp member with rfl | later
        · exact constraintName_length relation _ used (by omega)
        · exact hypothesis _ (by rw [List.length_cons]; omega) fk later
    · exact hypothesis used (by omega)

theorem constraintName_fresh (relation : DiagramRelation) (child : Nat) (used : List Text) :
    generator.lowercase.lower (generator.constraintName relation child used) ∉ used :=
  FreshNames.key_choose_notMem (generator.candidates_distinct _) used

/-- The names planned differ from the used ones and from each other, however letters are
folded. -/
theorem planFrom_distinct (relations : List DiagramRelation) (used : List Text) :
    ((generator.planFrom relations used).map fun fk => generator.lowercase.lower fk.name).Nodup ∧
      ∀ fk ∈ generator.planFrom relations used, generator.lowercase.lower fk.name ∉ used := by
  induction relations generalizing used with
  | nil =>
    refine ⟨List.nodup_nil, ?_⟩
    intro fk member
    cases member
  | cons relation rest hypothesis =>
    rw [Generator.planFrom]
    split_ifs with in_scope
    · cases ends : generator.endpoints relation with
      | none => exact hypothesis used
      | some nodes =>
        obtain ⟨distinct, fresh⟩ := hypothesis
          (generator.lowercase.lower (generator.constraintName relation nodes.1 used) :: used)
        constructor
        · apply List.nodup_cons.mpr
          refine ⟨?_, distinct⟩
          intro again
          obtain ⟨fk, later, same⟩ := List.mem_map.mp again
          apply fresh fk later
          rw [same]
          exact List.mem_cons_self
        · intro fk member
          rcases List.mem_cons.mp member with rfl | later
          · exact constraintName_fresh relation _ used
          · exact fun there => fresh fk later (List.mem_cons_of_mem _ there)
    · exact hypothesis used

end Names

/-- The script names only columns that it declares, and its constraints apart from each other and
within the dialect's length. -/
structure Generator.Sound (generator : Generator) : Prop where
  declared : ∀ clause ∈ generator.clauses, ∀ name ∈ clause.names,
    ∃ item, generator.usables[clause.table]? = some item ∧
      (item.table.id, generator.tableBlock item clause.table generator.planForeignKeys) ∈
        generator.run.tables ∧
      generator.Declares item name
  distinct : (generator.planForeignKeys.map fun fk => generator.lowercase.lower fk.name).Nodup
  short : ∀ fk ∈ generator.planForeignKeys, fk.name.length ≤ generator.dialect.identMax

/-- No column of a key or a relation, and none with a comment of its own, has white space around
its name. -/
structure Generator.Unpadded (generator : Generator) : Prop where
  keys : ∀ item ∈ generator.usables, generator.inlineKey item = false →
    ∀ column ∈ primary item, trim column.name = column.name
  comments : generator.commentsOn = true → ∀ item ∈ generator.usables,
    ∀ column ∈ item.columns, given column.comment ≠ none → trim column.name = column.name
  foreignKeys : ∀ relation ∈ generator.body.relations, generator.endpoints relation ≠ none →
    ∀ pair ∈ relation.pairs, trim pair.1 = pair.1 ∧ trim pair.2 = pair.2

section Clauses

variable {generator : Generator}

theorem exists_mem_single (clause : Clause) (name : Text) :
    (∃ other ∈ [clause], name ∈ other.names) ↔ name ∈ clause.names := by
  simp only [List.mem_singleton, exists_eq_left]

theorem mem_keyClauses (item : Usable) (index : Nat) (name : Text) :
    (∃ clause ∈ generator.keyClauses item index, name ∈ clause.names) ↔
      generator.inlineKey item = false ∧ ∃ column ∈ Generator.primary item, column.name = name := by
  unfold Generator.keyClauses
  cases inline : generator.inlineKey item with
  | true =>
    rw [if_pos (Or.inr rfl)]
    simp
  | false =>
    by_cases none_primary : Generator.primary item = []
    · rw [if_pos (Or.inl none_primary), none_primary]
      simp
    · have keyed : ¬(Generator.primary item = [] ∨ false = true) := by simp [none_primary]
      rw [if_neg keyed]
      split_ifs with clickhouse
      all_goals
        rw [exists_mem_single, List.mem_map]
        exact (and_iff_right rfl).symm

theorem mem_commentClauses (item : Usable) (index : Nat) (name : Text) :
    (∃ clause ∈ generator.commentClauses item index, name ∈ clause.names) ↔
      generator.commentsOn = true ∧
        ∃ column ∈ item.columns, given column.comment ≠ none ∧ column.name = name := by
  unfold Generator.commentClauses
  cases generator.commentsOn with
  | false => simp
  | true =>
    constructor
    · intro ⟨clause, member, named⟩
      rw [if_pos rfl] at member
      obtain ⟨column, listed, written⟩ := List.mem_filterMap.mp member
      obtain ⟨comment, is_comment, rfl⟩ := Option.map_eq_some_iff.mp written
      refine ⟨rfl, column, listed, ?_, (List.mem_singleton.mp named).symm⟩
      rw [is_comment]
      exact Option.some_ne_none comment
    · intro ⟨_, column, listed, commented, same⟩
      obtain ⟨comment, is_comment⟩ := Option.ne_none_iff_exists'.mp commented
      rw [if_pos rfl]
      have written := congrArg (Option.map fun comment => (⟨index, "COMMENT ON COLUMN ".toList ++
        generator.qualified item.table ++ ['.'], [column.name],
        " IS ".toList ++ generator.literal comment ++ [';']⟩ : Clause)) is_comment
      exact ⟨_, List.mem_filterMap.mpr ⟨column, listed, written⟩,
        List.mem_singleton.mpr same.symm⟩

theorem tableClauses_table {item : Usable} {index : Nat} :
    ∀ clause ∈ generator.keyClauses item index ++ generator.commentClauses item index,
      clause.table = index := by
  intro clause member
  rcases List.mem_append.mp member with key | comment
  · unfold Generator.keyClauses at key
    split_ifs at key
    · cases key
    · rw [List.mem_singleton.mp key]
    · rw [List.mem_singleton.mp key]
    · rw [List.mem_singleton.mp key]
  · unfold Generator.commentClauses at comment
    split_ifs at comment
    · obtain ⟨column, _, written⟩ := List.mem_filterMap.mp comment
      obtain ⟨_, _, rfl⟩ := Option.map_eq_some_iff.mp written
      rfl
    · cases comment

variable (generator) in
/-- A clause names a column of the table of a number. -/
def Named (index : Nat) (name : Text) : Prop :=
  ∃ clause ∈ generator.clauses, clause.table = index ∧ name ∈ clause.names

theorem named_by_table {item : Usable} {index : Nat} {name : Text}
    (here : generator.usables[index]? = some item)
    (named : ∃ clause ∈ generator.keyClauses item index ++ generator.commentClauses item index,
      name ∈ clause.names) : Named generator index name := by
  obtain ⟨clause, member, inside⟩ := named
  refine ⟨clause, List.mem_append_left _ ?_, tableClauses_table clause member, inside⟩
  exact List.mem_flatMap.mpr ⟨(item, index), List.mem_zipIdx_iff_getElem?.mpr here, member⟩

theorem named_by_fk {fk : Fk} (planned : fk ∈ generator.planForeignKeys) {clause : Clause}
    (member : clause ∈ generator.fkClauses fk) {name : Text} (inside : name ∈ clause.names) :
    Named generator clause.table name :=
  ⟨clause, List.mem_append_right _ (List.mem_flatMap.mpr ⟨fk, planned, member⟩), rfl, inside⟩

theorem named_cases {index : Nat} {name : Text} (named : Named generator index name) :
    (∃ item, generator.usables[index]? = some item ∧
      ((generator.inlineKey item = false ∧
          ∃ column ∈ Generator.primary item, column.name = name) ∨
        (generator.commentsOn = true ∧
          ∃ column ∈ item.columns, given column.comment ≠ none ∧ column.name = name))) ∨
    ∃ fk ∈ generator.planForeignKeys,
      (fk.child = index ∧ name ∈ fk.from_) ∨ (fk.parent = index ∧ name ∈ fk.to_) := by
  obtain ⟨clause, member, table, inside⟩ := named
  rcases List.mem_append.mp member with own | planned
  · obtain ⟨⟨item, place⟩, listed, clauses⟩ := List.mem_flatMap.mp own
    have here := List.mem_zipIdx_iff_getElem?.mp listed
    have same := (tableClauses_table clause clauses).symm.trans table
    dsimp only at same here clauses
    rw [same] at here clauses
    refine Or.inl ⟨item, here, ?_⟩
    rcases List.mem_append.mp clauses with key | comment
    · exact Or.inl ((mem_keyClauses _ _ _).mp ⟨clause, key, inside⟩)
    · exact Or.inr ((mem_commentClauses _ _ _).mp ⟨clause, comment, inside⟩)
  · obtain ⟨fk, plan, clauses⟩ := List.mem_flatMap.mp planned
    refine Or.inr ⟨fk, plan, ?_⟩
    rcases List.mem_cons.mp clauses with rfl | later
    · exact Or.inl ⟨table, inside⟩
    · rw [List.mem_singleton.mp later] at table inside
      exact Or.inr ⟨table, inside⟩

end Clauses

section Sound

variable {lowercase : Lowercase} {engine : Option Engine} {body : DiagramBody}

theorem whole_plans {relations : List DiagramRelation} (used : List Text)
    {relation : DiagramRelation} (listed : relation ∈ relations) {child parent : Nat}
    (ends : (whole lowercase engine body).endpoints relation = some (child, parent)) :
    ∃ fk ∈ (whole lowercase engine body).planFrom relations used,
      fk.relation = relation ∧ fk.child = child ∧ fk.parent = parent := by
  induction relations generalizing used with
  | nil => cases listed
  | cons first rest hypothesis =>
    rw [Generator.planFrom, if_pos (show (whole lowercase engine body).inScope _ = true from rfl)]
    rcases List.mem_cons.mp listed with rfl | later
    · rw [ends]
      exact ⟨_, List.mem_cons_self, rfl, rfl, rfl⟩
    · cases (whole lowercase engine body).endpoints first with
      | none => exact hypothesis used later
      | some nodes =>
        obtain ⟨fk, member, facts⟩ := hypothesis _ later
        exact ⟨fk, List.mem_cons_of_mem _ member, facts⟩

theorem planFrom_relation {generator : Generator} (relations : List DiagramRelation)
    (used : List Text) : ∀ fk ∈ generator.planFrom relations used, fk.relation ∈ relations := by
  induction relations generalizing used with
  | nil =>
    intro fk member
    cases member
  | cons relation rest hypothesis =>
    intro fk member
    rw [Generator.planFrom] at member
    split_ifs at member with in_scope
    · cases ends : generator.endpoints relation with
      | none =>
        simp only [ends] at member
        exact List.mem_cons_of_mem _ (hypothesis used fk member)
      | some nodes =>
        simp only [ends] at member
        rcases List.mem_cons.mp member with rfl | later
        · exact List.mem_cons_self
        · exact List.mem_cons_of_mem _ (hypothesis _ fk later)
    · exact List.mem_cons_of_mem _ (hypothesis used fk member)

theorem Generator.Sound.declares {generator : Generator} (sound : generator.Sound) {index : Nat}
    {item : Usable} (here : generator.usables[index]? = some item) {name : Text}
    (named : Named generator index name) : generator.Declares item name := by
  obtain ⟨clause, member, rfl, inside⟩ := named
  obtain ⟨other, there, _, declares⟩ := sound.declared clause member name inside
  rw [here] at there
  cases there
  exact declares

theorem unpadded_of_sound (sound : (whole lowercase engine body).Sound) :
    (whole lowercase engine body).Unpadded where
  keys := by
    intro item usable inline column member
    obtain ⟨index, here⟩ := List.mem_iff_getElem?.mp usable
    have clause := (mem_keyClauses item index _).mpr ⟨inline, column, member, rfl⟩
    obtain ⟨clause, key, inside⟩ := clause
    have declares := sound.declares here
      (named_by_table here ⟨clause, List.mem_append_left _ key, inside⟩)
    exact (declares_own_iff (List.mem_filter.mp member).1).mp declares
  comments := by
    intro comments item usable column listed commented
    obtain ⟨index, here⟩ := List.mem_iff_getElem?.mp usable
    have clause := (mem_commentClauses item index _).mpr
      ⟨comments, column, listed, commented, rfl⟩
    obtain ⟨clause, comment, inside⟩ := clause
    have declares := sound.declares here
      (named_by_table here ⟨clause, List.mem_append_right _ comment, inside⟩)
    exact (declares_own_iff listed).mp declares
  foreignKeys := by
    intro relation listed planned pair member
    obtain ⟨⟨child, parent⟩, ends⟩ := Option.ne_none_iff_exists'.mp planned
    obtain ⟨childTable, parentTable, at_child, at_parent, columns⟩ := endpoints_columns ends
    obtain ⟨fk, plan, is_relation, is_child, is_parent⟩ := whole_plans [] listed ends
    obtain ⟨⟨column, in_child, from_eq⟩, other, in_parent, to_eq⟩ := columns pair member
    subst is_relation is_child is_parent
    have from_named := named_by_fk plan List.mem_cons_self
      (List.mem_map.mpr ⟨pair, member, rfl⟩)
    have to_named := named_by_fk plan (List.mem_cons_of_mem _ List.mem_cons_self)
      (List.mem_map.mpr ⟨pair, member, rfl⟩)
    have from_declared := sound.declares at_child from_named
    have to_declared := sound.declares at_parent to_named
    rw [← from_eq] at from_declared ⊢
    rw [← to_eq] at to_declared ⊢
    exact ⟨(declares_own_iff in_child).mp from_declared,
      (declares_own_iff in_parent).mp to_declared⟩

theorem declared_of_unpadded (unpadded : (whole lowercase engine body).Unpadded) {index : Nat}
    {name : Text} (named : Named (whole lowercase engine body) index name) :
    ∃ item, (whole lowercase engine body).usables[index]? = some item ∧
      (whole lowercase engine body).Declares item name := by
  rcases named_cases named with ⟨item, here, own⟩ | ⟨fk, plan, side⟩
  · have usable := List.mem_of_getElem? here
    refine ⟨item, here, ?_⟩
    rcases own with ⟨inline, column, key, rfl⟩ | ⟨comments, column, listed, commented, rfl⟩
    · exact (declares_own_iff (List.mem_filter.mp key).1).mpr
        (unpadded.keys item usable inline column key)
    · exact (declares_own_iff listed).mpr
        (unpadded.comments comments item usable column listed commented)
  · have ends := planForeignKeys_ends _ fk plan
    obtain ⟨childTable, parentTable, at_child, at_parent, columns⟩ := endpoints_columns ends
    have trimmed := unpadded.foreignKeys fk.relation (planFrom_relation _ _ fk plan)
      (by rw [ends]; exact Option.some_ne_none _)
    rcases side with ⟨rfl, from_⟩ | ⟨rfl, to_⟩
    · obtain ⟨pair, member, rfl⟩ := List.mem_map.mp from_
      obtain ⟨column, listed, same⟩ := (columns pair member).1
      refine ⟨childTable, at_child, ?_⟩
      rw [← same]
      apply (declares_own_iff listed).mpr
      rw [same]
      exact (trimmed pair member).1
    · obtain ⟨pair, member, rfl⟩ := List.mem_map.mp to_
      obtain ⟨column, listed, same⟩ := (columns pair member).2
      refine ⟨parentTable, at_parent, ?_⟩
      rw [← same]
      apply (declares_own_iff listed).mpr
      rw [same]
      exact (trimmed pair member).2

end Sound

section Example

/-- A table whose key has a name that ends in a blank. -/
def padded : DiagramBody where
  tables := [⟨"u".toList, "users".toList, [⟨"id ".toList, "int".toList, true, false, false, false,
    none, none⟩], none, none⟩]
  relations := []

end Example

end DbFree.Diagram
