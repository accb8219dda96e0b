import DbFree.DdlDuplicate

/- What the script of a copy declares, and when the copy stands beside its source. -/
namespace DbFree.Ddl

open Texts SqlText

section Names

def Distinct (names : List Text) : Prop :=
  names.Pairwise fun first second => sameName first second = false

theorem derivedName_length (parts : List Text) : (derivedName parts).length ≤ 60 := by
  unfold derivedName
  rw [List.length_take]
  exact Nat.min_le_left _ _

theorem sameName_iff (first second : Text) :
    sameName first second = true ↔ toAsciiLowercase first = toAsciiLowercase second := by
  unfold sameName
  exact beq_iff_eq

/-- Names that start alike differ within the room their start leaves. -/
theorem sameName_room (start first second : Text) (limit : Nat) :
    sameName ((start ++ '_' :: first).take (limit + 1))
        ((start ++ '_' :: second).take (limit + 1)) =
      sameName (first.take (limit - start.length)) (second.take (limit - start.length)) := by
  have split (rest : Text) : (start ++ '_' :: rest).take (limit + 1) =
      (start ++ ['_']).take (limit + 1) ++ rest.take (limit - start.length) := by
    have longer : start ++ '_' :: rest = (start ++ ['_']) ++ rest := by
      rw [List.append_assoc, List.singleton_append]
    rw [longer, List.take_append, List.length_append, List.length_singleton]
    congr 2
    omega
  apply Bool.eq_iff_iff.mpr
  rw [sameName_iff, sameName_iff, split first, split second]
  unfold toAsciiLowercase
  rw [List.map_append, List.map_append, List.append_cancel_left_eq]

/-- What a foreign key's name says behind its table. -/
def keyTail (fk : ForeignKeySpec) : Text := join ['_'] fk.columns ++ "_fkey".toList

theorem autoFkName_eq (table : Text) (fk : ForeignKeySpec) :
    autoFkName table fk = (table ++ '_' :: keyTail fk).take 60 := by
  unfold autoFkName derivedName keyTail join
  rw [show "_fkey".toList = '_' :: "fkey".toList from rfl]
  simp only [List.intercalate, List.intersperse, List.flatten_cons, List.flatten_nil,
    List.append_nil, List.singleton_append]

theorem indexName_eq (source target index : Text) :
    indexName source target index = (target ++ '_' :: indexRest source index).take 60 := by
  unfold indexName derivedName join
  simp only [List.intercalate, List.intersperse, List.flatten_cons, List.flatten_nil,
    List.append_nil, List.singleton_append]

end Names

section Declared

structure DeclaredColumn where
  name : Text
  unique : Bool
  /-- The definition makes the column the primary key. -/
  key : Bool

/-- What the statements that create a table declare. -/
structure Declared where
  columns : List DeclaredColumn
  /-- The primary keys that have a line of their own. -/
  lineKeys : List (List Text)
  /-- The primary keys behind the definitions. -/
  tailKeys : List (List Text)
  constraints : List (Text × ForeignKeySpec)
  indexes : List IndexSpec
  sequences : List TableRef

def Declared.keys (declared : Declared) : List (List Text) :=
  (declared.columns.filter (·.key)).map (fun column => [column.name]) ++ declared.lineKeys ++
    declared.tailKeys

/-- A line that defines a column: its name, its type and its clauses. -/
def ColumnLine (cx : Cx) (column : DeclaredColumn) (line : Text) : Prop :=
  ∃ ty clauses,
    line = join [' '] (cx.q column.name :: ty :: (clauses ++ word column.unique "UNIQUE")) ∧
    "UNIQUE".toList ∉ clauses ∧
    ("PRIMARY KEY AUTOINCREMENT".toList ∈ clauses ↔ column.key = true)

def ConstraintLine (cx : Cx) (constraint : Text × ForeignKeySpec) (line : Text) : Prop :=
  ∃ actions, line = "CONSTRAINT ".toList ++ cx.q constraint.1 ++ [' '] ++
    foreignKeyBody cx constraint.2 ++ actions

/-- A script creates a table with what is declared: its sequences, the table, the statements
that fill it, its indexes. -/
def Creates (cx : Cx) (table : TableRef) (filling : List Text) (declared : Declared)
    (script : List Text) : Prop :=
  ∃ columnLines constraintLines settings indexLines,
    List.Forall₂ (ColumnLine cx) declared.columns columnLines ∧
    List.Forall₂ (ConstraintLine cx) declared.constraints constraintLines ∧
    List.Forall₂ (fun index line => indexStatement cx table index = some line)
      declared.indexes indexLines ∧
    (cx.dialect ≠ .clickhouse → settings = []) ∧
    script = declared.sequences.map (sequenceStatement cx false) ++
      ("CREATE TABLE ".toList ++ cx.table table ++
        createBody (columnLines ++ declared.lineKeys.map (primaryKeyClause cx) ++
          constraintLines) ++
        settings ++ declared.tailKeys.flatMap fun key =>
          "\nPRIMARY KEY (".toList ++ cx.columns key ++ [')']) ::
      (filling ++ indexLines)

/-- A script that copies a table declares what is listed; a MongoDB command declares nothing. -/
def Declares (cx : Cx) (table : TableRef) (filling : List Text) (declared : Declared)
    (script : List Text) : Prop :=
  if cx.dialect = .mongo then script.length = 1 ∧ declared = ⟨[], [], [], [], [], []⟩
  else Creates cx table filling declared script

end Declared

section Copies

variable (cx : Cx) (spec : DuplicateSpec) (source : TableSpec)

/-- What the script of a copy declares. -/
def copyOf : Declared :=
  let pk := primaryKeyColumns source.columns
  let use : ColumnUse := ⟨copyTarget spec, pk.length = 1, false⟩
  { columns := source.columns.map fun column =>
      ⟨column.name, uniqueHere column use, cx.dialect = .sqlite ∧ column.autoIncrement = true⟩
    lineKeys :=
      if pk ≠ [] ∧ keyInline cx pk = false ∧ cx.dialect ≠ .clickhouse then [pk.map (·.name)]
      else []
    tailKeys :=
      if cx.dialect = .clickhouse ∧ isMergeTree source = true ∧ pk ≠ [] then [pk.map (·.name)]
      else []
    constraints := source.foreignKeys.map fun fk =>
      (fkName spec.target.name (copiedKey spec fk), copiedKey spec fk)
    indexes :=
      if spec.includeIndexes ∧ hasIndexes cx.dialect then source.indexes.map (copiedIndex spec)
      else []
    sequences :=
      if cx.dialect = .duckdb then
        (autoColumns source.columns).map fun column =>
          duckdbSequence (copyTarget spec) column.name
      else [] }

/-- The names of indexes and sequences the source uses. -/
def usedNames : List Text :=
  source.indexes.map (·.name) ++ source.columns.filterMap (·.uniqueName) ++
    source.primaryKeyName.toList ++ (sequencesOf cx source).map (·.name)

/-- Where a table is, a schema that is not spelled being the session's. -/
def located (home : Text) (table : TableRef) : Text × Text :=
  (toAsciiLowercase ((schemaOf table).getD home), toAsciiLowercase table.name)

/-- A foreign key and the constraint that stands for it in the copy. -/
structure KeyCopied (home : Text) (fk : ForeignKeySpec) (constraint : Text × ForeignKeySpec) :
    Prop where
  columns : constraint.2.columns = fk.columns
  refColumns : constraint.2.refColumns = fk.refColumns
  actions : constraint.2.onDelete = fk.onDelete ∧ constraint.2.onUpdate = fk.onUpdate
  own : located home fk.refTable = located home spec.source →
    located home constraint.2.refTable = located home (copyTarget spec)
  other : located home fk.refTable ≠ located home spec.source →
    constraint.2.refTable = fk.refTable

/-- A copy that has each part of its source once, under names of its own. -/
structure StandsAlone (home : Text) (declared : Declared) : Prop where
  constraintNames : Distinct (declared.constraints.map Prod.fst)
  indexNames : Distinct (declared.indexes.map (·.name))
  sequenceNames : Distinct (declared.sequences.map (·.name))
  short : ∀ name ∈ declared.constraints.map Prod.fst ++ declared.indexes.map (·.name) ++
    declared.sequences.map (·.name), name.length ≤ 60
  fresh : ∀ name ∈ declared.indexes.map (·.name) ++ declared.sequences.map (·.name),
    ∀ used ∈ usedNames cx source, sameName name used = false
  columns : declared.columns.map (·.name) = source.columns.map (·.name)
  key : declared.keys =
    if primaryKeyColumns source.columns = [] then []
    else [(primaryKeyColumns source.columns).map (·.name)]
  -- a column that is the whole key is unique by its key
  uniques : List.Forall₂ (fun column made => made.unique = true ↔
    column.unique = true ∧ primaryKeyColumns source.columns ≠ [column])
    source.columns declared.columns
  foreignKeys : List.Forall₂ (KeyCopied spec home) source.foreignKeys declared.constraints
  indexes : spec.includeIndexes = true → List.Forall₂
    (fun index made => made.columns = index.columns ∧ made.unique = index.unique)
    source.indexes declared.indexes
  noIndexes : spec.includeIndexes = false → declared.indexes = []

/-- No name of the copy runs into another, and the references of the source to itself are spelled
as the source is. -/
structure Clear (home : Text) : Prop where
  keys : source.foreignKeys.Pairwise fun first second =>
    sameName ((keyTail first).take (59 - spec.target.name.length))
      ((keyTail second).take (59 - spec.target.name.length)) = false
  indexes : spec.includeIndexes = true → source.indexes.Pairwise fun first second =>
    sameName ((indexRest spec.source.name first.name).take (59 - spec.target.name.length))
      ((indexRest spec.source.name second.name).take (59 - spec.target.name.length)) = false
  indexesFresh : spec.includeIndexes = true → ∀ index ∈ source.indexes,
    ∀ used ∈ usedNames cx source,
      sameName (indexName spec.source.name spec.target.name index.name) used = false
  sequencesFresh : cx.dialect = .duckdb → ∀ column ∈ autoColumns source.columns,
    ∀ used ∈ usedNames cx source,
      sameName (derivedName [spec.target.name, column.name, "seq".toList]) used = false
  references : ∀ fk ∈ source.foreignKeys,
    located home fk.refTable = located home spec.source →
      sameTable fk.refTable spec.source = true ∨
        located home spec.source = located home (copyTarget spec)
  keyed : cx.dialect = .clickhouse → primaryKeyColumns source.columns ≠ [] →
    isMergeTree source = true

end Copies

section Lines

theorem mem_defaultPart {default : Option Text} {clause : Text}
    (mem : clause ∈ defaultPart default) : clause.head? = some 'D' := by
  cases default with
  | none => cases mem
  | some value =>
    unfold defaultPart at mem
    rw [Option.toList_some, List.map_singleton, List.mem_singleton] at mem
    rw [mem]
    rfl

/-- A clause of a definition that is neither UNIQUE nor SQLite's inline key. -/
def Plain (clause : Text) : Prop :=
  clause ≠ "UNIQUE".toList ∧ clause ≠ "PRIMARY KEY AUTOINCREMENT".toList

theorem plain_word {there : Bool} {text : String} (plain : Plain text.toList) :
    ∀ clause ∈ word there text, Plain clause := by
  intro clause mem
  cases there with
  | false => cases mem
  | true =>
    rw [List.mem_singleton.mp mem]
    exact plain

theorem plain_default (default : Option Text) : ∀ clause ∈ defaultPart default, Plain clause := by
  intro clause mem
  have starts := mem_defaultPart mem
  constructor
  · intro same
    rw [same] at starts
    revert starts
    decide
  · intro same
    rw [same] at starts
    revert starts
    decide

theorem plain_append {first second : List Text} (left : ∀ clause ∈ first, Plain clause)
    (right : ∀ clause ∈ second, Plain clause) : ∀ clause ∈ first ++ second, Plain clause := by
  intro clause mem
  cases List.mem_append.mp mem with
  | inl inFirst => exact left clause inFirst
  | inr inSecond => exact right clause inSecond

theorem plain_nullness (notNull : Bool) :
    ∀ clause ∈ [if notNull then "NOT NULL".toList else "NULL".toList], Plain clause := by
  intro clause mem
  rw [List.mem_singleton.mp mem]
  cases notNull <;> unfold Plain <;> decide

theorem plain_sequence (value : Text) :
    ∀ clause ∈ ["DEFAULT nextval(".toList ++ value ++ [')']], Plain clause := by
  intro clause mem
  apply plain_default (some ("nextval(".toList ++ value ++ [')']))
  exact mem

theorem plain_line {cx : Cx} {name : Text} {parts : List Text} {unique : Bool} (ty : Text)
    (clauses : List Text) (shape : parts = ty :: (clauses ++ word unique "UNIQUE"))
    (plain : ∀ clause ∈ clauses, Plain clause) :
    ColumnLine cx ⟨name, unique, false⟩ (join [' '] (cx.q name :: parts)) := by
  refine ⟨ty, clauses, by rw [shape], ?_, ?_⟩
  · intro mem
    exact (plain _ mem).1 rfl
  · constructor
    · intro mem
      exact absurd rfl (plain _ mem).2
    · intro wrong
      cases wrong

/-- A SQLite definition spells the key of an auto-increment column. -/
theorem sqlite_line {cx : Cx} {name ty : Text} {clauses : List Text} {auto unique : Bool}
    (plain : ∀ clause ∈ clauses, Plain clause) :
    ColumnLine cx ⟨name, unique, auto⟩ (join [' '] (cx.q name ::
      ty :: (word auto "PRIMARY KEY AUTOINCREMENT" ++ clauses ++ word unique "UNIQUE"))) := by
  refine ⟨ty, word auto "PRIMARY KEY AUTOINCREMENT" ++ clauses, rfl, ?_, ?_⟩
  · intro mem
    cases List.mem_append.mp mem with
    | inl inline =>
      cases auto with
      | false => cases inline
      | true =>
        have same := List.mem_singleton.mp inline
        revert same
        decide
    | inr other => exact (plain _ other).1 rfl
  · cases auto with
    | false =>
      constructor
      · intro mem
        exact absurd rfl (plain _ mem).2
      · intro wrong
        cases wrong
    | true =>
      constructor
      · intro _
        rfl
      · intro _
        exact List.mem_append_left _ (List.mem_singleton_self _)

/-- The line a created column gets, whatever its type and its default. -/
theorem columnParts_line (cx : Cx) (column : ColumnSpec) (use : ColumnUse) (ty : Text)
    (default : Option Text) (creating : use.adding = false)
    (enforced : (column.unique && keyless cx.dialect) = false) (sql : cx.dialect ≠ .mongo) :
    ColumnLine cx ⟨column.name, uniqueHere column use,
        cx.dialect = .sqlite ∧ column.autoIncrement = true⟩
      (join [' '] (cx.q column.name :: columnParts cx column use ty default)) := by
  by_cases sqlite : cx.dialect = .sqlite
  · have parts : columnParts cx column use ty default =
        ty :: (word column.autoIncrement "PRIMARY KEY AUTOINCREMENT" ++
          (word (notNullOf column) "NOT NULL" ++ defaultPart default) ++
          word (uniqueHere column use) "UNIQUE") := by
      unfold columnParts
      simp only [sqlite, List.append_assoc, List.cons_append, List.nil_append]
    have inline : decide (cx.dialect = .sqlite ∧ column.autoIncrement = true) =
        column.autoIncrement := by
      simp [sqlite]
    rw [parts, inline]
    exact sqlite_line (plain_append (plain_word (by unfold Plain; decide)) (plain_default _))
  · have inline : decide (cx.dialect = .sqlite ∧ column.autoIncrement = true) = false := by
      simp [sqlite]
    have noUnique (keyed : keyless cx.dialect = true) : uniqueHere column use = false := by
      rw [keyed, Bool.and_true] at enforced
      unfold uniqueHere
      rw [enforced, Bool.false_and]
    rw [inline]
    have notNull : ∀ there, ∀ clause ∈ word there "NOT NULL", Plain clause :=
      fun _ => plain_word (by unfold Plain; decide)
    cases dialect : cx.dialect with
    | sqlite => exact absurd dialect sqlite
    | mongo => exact absurd dialect sql
    | postgres =>
      apply plain_line (if column.autoIncrement then postgresSerial column.dataType else ty)
        (word (notNullOf column && !column.autoIncrement) "NOT NULL" ++
          defaultPart default)
      · unfold columnParts
        simp only [dialect, List.append_assoc, List.cons_append, List.nil_append]
      · exact plain_append (notNull _) (plain_default _)
    | mysql =>
      apply plain_line ty
        ([if notNullOf column then "NOT NULL".toList else "NULL".toList] ++
          defaultPart default ++ word column.autoIncrement "AUTO_INCREMENT")
      · unfold columnParts
        simp only [dialect, List.append_assoc, List.cons_append, List.nil_append]
      · exact plain_append (plain_append (plain_nullness _) (plain_default _))
          (plain_word (by unfold Plain; decide))
    | mssql =>
      apply plain_line ty (word column.autoIncrement "IDENTITY(1,1)" ++
        [if notNullOf column then "NOT NULL".toList else "NULL".toList] ++ defaultPart default)
      · unfold columnParts
        simp only [dialect, List.append_assoc, List.cons_append, List.nil_append]
      · exact plain_append (plain_append (plain_word (by unfold Plain; decide))
          (plain_nullness _)) (plain_default _)
    | oracle =>
      apply plain_line ty (defaultPart default ++
        word column.autoIncrement "GENERATED BY DEFAULT AS IDENTITY" ++
        word (notNullOf column && !column.autoIncrement) "NOT NULL")
      · unfold columnParts
        simp only [dialect, List.append_assoc, List.cons_append, List.nil_append]
      · exact plain_append (plain_append (plain_default _)
          (plain_word (by unfold Plain; decide))) (notNull _)
    | duckdb =>
      apply plain_line ty ((if column.autoIncrement then ["DEFAULT nextval(".toList ++
            cx.lit (cx.table (duckdbSequence use.table column.name)) ++ [')']]
          else defaultPart default) ++ word (notNullOf column) "NOT NULL")
      · unfold columnParts
        simp only [dialect, creating, Bool.not_false, Bool.and_true, List.append_assoc,
          List.cons_append, List.nil_append]
      · apply plain_append _ (notNull _)
        cases column.autoIncrement with
        | true => exact plain_sequence _
        | false => exact plain_default _
    | snowflake =>
      apply plain_line ty ((if column.autoIncrement then ["AUTOINCREMENT".toList] else defaultPart default) ++
          word (notNullOf column) "NOT NULL")
      · unfold columnParts
        simp only [dialect, List.append_assoc, List.cons_append, List.nil_append]
      · apply plain_append _ (notNull _)
        cases column.autoIncrement with
        | true =>
          intro clause mem
          rw [List.mem_singleton.mp mem]
          unfold Plain
          decide
        | false => exact plain_default _
    | clickhouse =>
      rw [noUnique (by rw [dialect]; rfl)]
      apply plain_line ty (defaultPart default)
      · unfold columnParts
        simp only [dialect, word, Bool.false_eq_true, ↓reduceIte, List.append_nil,
          List.cons_append, List.nil_append]
      · exact plain_default _
    | bigquery =>
      rw [noUnique (by rw [dialect]; rfl)]
      apply plain_line ty
        (defaultPart default ++ word (notNullOf column) "NOT NULL")
      · unfold columnParts
        simp only [dialect, word, Bool.false_eq_true, ↓reduceIte, List.append_nil,
          List.cons_append, List.nil_append]
      · exact plain_append (plain_default _) (notNull _)
    | cassandra =>
      rw [noUnique (by rw [dialect]; rfl)]
      apply plain_line ty []
      · unfold columnParts
        simp only [dialect, word, Bool.false_eq_true, ↓reduceIte, List.append_nil]
      · intro clause mem
        cases mem

end Lines

section Script

variable {crates : Crates} {cx : Cx} {spec : DuplicateSpec} {source : TableSpec}
  {script : List Text}

theorem duplicateTable_ok (sql : cx.dialect ≠ .mongo)
    (done : duplicateTable crates cx spec source = .ok script) :
    ∃ created, buildCreate cx (copyShape spec source) = .ok created ∧
      script = created.prelude ++ created.table ::
        ((if spec.includeData then copyRows cx spec source else []) ++ created.indexes) := by
  unfold duplicateTable at done
  rw [if_neg sql] at done
  by_cases supported : (supportOf cx.dialect).duplicateTable = false
  · rw [if_pos supported] at done
    cases done
  · rw [if_neg supported] at done
    have ⟨_, _, done⟩ := bind_ok done
    have ⟨_, _, done⟩ := bind_ok done
    have ⟨created, built, done⟩ := bind_ok done
    cases done
    exact ⟨created, built, rfl⟩

theorem copied_key (columns : List ColumnSpec) :
    primaryKeyColumns (columns.map copiedColumn) = (primaryKeyColumns columns).map copiedColumn := by
  unfold primaryKeyColumns
  rw [List.filter_map]
  rfl

theorem copied_auto (columns : List ColumnSpec) :
    autoColumns (columns.map copiedColumn) = (autoColumns columns).map copiedColumn := by
  unfold autoColumns
  rw [List.filter_map]
  rfl

theorem copied_names (columns : List ColumnSpec) :
    (columns.map copiedColumn).map (·.name) = columns.map (·.name) := by
  rw [List.map_map]
  rfl

theorem copied_inline (columns : List ColumnSpec) :
    keyInline cx (columns.map copiedColumn) = keyInline cx columns := by
  unfold keyInline
  rw [List.any_map]
  rfl

/-- The index statements of a dialect that has them. -/
theorem indexStatements (table : TableRef) (indexes : List IndexSpec)
    (written : hasIndexes cx.dialect = true) :
    List.Forall₂ (fun index line => indexStatement cx table index = some line) indexes
      (indexes.filterMap (indexStatement cx table)) := by
  induction indexes with
  | nil => exact .nil
  | cons index indexes ih =>
    have ⟨line, isLine⟩ : ∃ line, indexStatement cx table index = some line := by
      unfold indexStatement
      rw [if_pos written]
      exact ⟨_, rfl⟩
    rw [List.filterMap_cons, isLine]
    exact .cons isLine ih

theorem noIndexStatements (table : TableRef) (indexes : List IndexSpec)
    (unwritten : hasIndexes cx.dialect = false) :
    indexes.filterMap (indexStatement cx table) = [] := by
  rw [List.filterMap_eq_nil_iff]
  intro index _
  unfold indexStatement
  rw [unwritten]
  rfl

theorem keyLine_copied :
    keyLine cx (primaryKeyColumns (copyShape spec source).columns) =
      (copyOf cx spec source).lineKeys.map (primaryKeyClause cx) := by
  unfold keyLine copyOf copyShape
  rw [copied_key, copied_inline, copied_names]
  simp only [ne_eq, List.map_eq_nil_iff]
  split
  · rfl
  · rfl

theorem tail_copied :
    ∃ settings, (cx.dialect ≠ .clickhouse → settings = []) ∧
      (if cx.dialect = .clickhouse then
        clickhouseTail cx (copyShape spec source)
          (primaryKeyColumns (copyShape spec source).columns) else []) =
      settings ++ (copyOf cx spec source).tailKeys.flatMap fun key =>
        "\nPRIMARY KEY (".toList ++ cx.columns key ++ [')'] := by
  have tail : (copyOf cx spec source).tailKeys =
      if cx.dialect = .clickhouse ∧ isMergeTree source = true ∧
          primaryKeyColumns source.columns ≠ [] then
        [(primaryKeyColumns source.columns).map (·.name)] else [] := rfl
  by_cases clickhouse : cx.dialect = .clickhouse
  · refine ⟨clickhouseSettings cx (copyShape spec source)
      (primaryKeyColumns (copyShape spec source).columns),
      fun other => absurd clickhouse other, ?_⟩
    have mergeTree : isMergeTree (copyShape spec source) = isMergeTree source := rfl
    have key : primaryKeyColumns (copyShape spec source).columns =
        (primaryKeyColumns source.columns).map copiedColumn := copied_key source.columns
    rw [if_pos clickhouse, tail]
    unfold clickhouseTail
    rw [mergeTree, key, copied_names]
    by_cases keyed : isMergeTree source = true ∧ primaryKeyColumns source.columns ≠ []
    · rw [if_pos ⟨keyed.1, fun none => keyed.2 (List.map_eq_nil_iff.mp none)⟩,
        if_pos ⟨clickhouse, keyed⟩, List.flatMap_singleton]
    · rw [if_neg fun both => keyed ⟨both.1, fun none => both.2 (by rw [none]; rfl)⟩,
        if_neg fun both => keyed both.2, List.flatMap_nil]
  · refine ⟨[], fun _ => rfl, ?_⟩
    rw [if_neg clickhouse, tail, if_neg fun both => clickhouse both.1]
    rfl

theorem sequences_copied :
    sequencesOf cx (copyShape spec source) = (copyOf cx spec source).sequences := by
  unfold sequencesOf copyOf copyShape
  rw [copied_auto, List.map_map]
  rfl

theorem constraint_line {table line : Text} {fk : ForeignKeySpec}
    (done : foreignKeyClause cx table fk true = .ok line) :
    ConstraintLine cx (fkName table fk, fk) line := by
  have ⟨actions, isLine⟩ := foreignKeyClause_ok done
  unfold ConstraintLine
  exact ⟨actions, isLine⟩

theorem copy_creates (sql : cx.dialect ≠ .mongo)
    (done : duplicateTable crates cx spec source = .ok script) :
    Creates cx (copyTarget spec) (if spec.includeData then copyRows cx spec source else [])
      (copyOf cx spec source) script := by
  have ⟨created, built, isScript⟩ := duplicateTable_ok sql done
  have ⟨columnLines, constraintLines, head, valid, columns, constraints, isHead, isCreated⟩ :=
    buildCreate_ok built
  have valid := validate_ok sql valid
  have ⟨settings, plainSettings, isTail⟩ := @tail_copied cx spec source
  have isHead : head = "CREATE TABLE ".toList ++ cx.table (copyTarget spec) := by
    cases isHead
    rfl
  refine ⟨columnLines, constraintLines, settings,
    (copyShape spec source).indexes.filterMap (indexStatement cx (copyTarget spec)), ?_, ?_, ?_,
    plainSettings, ?_⟩
  · have checked := (List.forall₂_and_left _ _).mpr ⟨valid.uniques, columns⟩
    apply List.forall₂_map_left_iff.mpr
    apply (List.forall₂_map_left_iff.mp checked).imp
    intro column line both
    have ⟨ty, default, isLine⟩ := columnDefinition_ok both.2
    rw [isLine]
    have lone : (primaryKeyColumns (copyShape spec source).columns).length =
        (primaryKeyColumns source.columns).length := by
      rw [show (copyShape spec source).columns = source.columns.map copiedColumn from rfl,
        copied_key, List.length_map]
    rw [lone]
    exact columnParts_line cx (copiedColumn column) _ ty default rfl both.1 sql
  · apply List.forall₂_map_left_iff.mpr
    apply (List.forall₂_map_left_iff.mp constraints).imp
    intro fk line isClause
    have target : (copyShape spec source).table.name = spec.target.name := rfl
    rw [target] at isClause
    exact constraint_line isClause
  · have made : (copyOf cx spec source).indexes =
        if spec.includeIndexes ∧ hasIndexes cx.dialect then
          source.indexes.map (copiedIndex spec) else [] := rfl
    have shape : (copyShape spec source).indexes =
        if spec.includeIndexes then source.indexes.map (copiedIndex spec) else [] := rfl
    rw [made, shape]
    cases written : hasIndexes cx.dialect with
    | true =>
      simp only [and_true]
      exact indexStatements _ _ written
    | false =>
      rw [noIndexStatements _ _ written]
      simp only [Bool.false_eq_true, and_false, ↓reduceIte]
      exact .nil
  · rw [isScript, isCreated, isHead, isTail, keyLine_copied, sequences_copied]
    simp only [List.append_assoc]
    rfl

end Script

section Standing

variable {cx : Cx} {spec : DuplicateSpec} {source : TableSpec}

theorem copied_name (fk : ForeignKeySpec) :
    fkName spec.target.name (copiedKey spec fk) =
      (spec.target.name ++ '_' :: keyTail fk).take 60 :=
  autoFkName_eq spec.target.name (copiedKey spec fk)

theorem constraintNames_iff :
    Distinct ((copyOf cx spec source).constraints.map Prod.fst) ↔
      source.foreignKeys.Pairwise fun first second =>
        sameName ((keyTail first).take (59 - spec.target.name.length))
          ((keyTail second).take (59 - spec.target.name.length)) = false := by
  have names : (copyOf cx spec source).constraints.map Prod.fst =
      source.foreignKeys.map fun fk => fkName spec.target.name (copiedKey spec fk) := by
    unfold copyOf
    rw [List.map_map]
    rfl
  unfold Distinct
  rw [names, List.pairwise_map]
  simp only [copied_name, sameName_room]

theorem copied_indexes (written : hasIndexes cx.dialect = false → source.indexes = []) :
    (copyOf cx spec source).indexes =
      if spec.includeIndexes then source.indexes.map (copiedIndex spec) else [] := by
  unfold copyOf
  cases has : hasIndexes cx.dialect with
  | true => simp only [and_true]
  | false => simp only [written has, List.map_nil, ite_self]

theorem indexNames_iff (written : hasIndexes cx.dialect = false → source.indexes = []) :
    Distinct ((copyOf cx spec source).indexes.map (·.name)) ↔
      (spec.includeIndexes = true → source.indexes.Pairwise fun first second =>
        sameName ((indexRest spec.source.name first.name).take (59 - spec.target.name.length))
          ((indexRest spec.source.name second.name).take (59 - spec.target.name.length)) =
            false) := by
  rw [copied_indexes written]
  unfold Distinct
  cases spec.includeIndexes with
  | false => simp only [Bool.false_eq_true, ↓reduceIte, List.map_nil, List.Pairwise.nil,
      false_implies]
  | true =>
    simp only [↓reduceIte, List.map_map, forall_const]
    rw [List.pairwise_map]
    simp only [Function.comp, copiedIndex, indexName_eq, sameName_room]

/-- At most one sequence is declared: DuckDB allows one auto-increment column. -/
theorem sequenceNames (valid : Valid cx (copyShape spec source)) :
    Distinct ((copyOf cx spec source).sequences.map (·.name)) := by
  have one : (copyOf cx spec source).sequences.length ≤ 1 := by
    rw [← sequences_copied]
    unfold sequencesOf
    split
    · next duckdb =>
      rw [List.length_map]
      apply valid.oneAuto
      rw [duckdb]
      decide
    · exact Nat.zero_le 1
  unfold Distinct
  rw [List.pairwise_map]
  cases made : (copyOf cx spec source).sequences with
  | nil => exact .nil
  | cons sequence sequences =>
    rw [made, List.length_cons] at one
    rw [List.length_eq_zero_iff.mp (Nat.le_zero.mp (Nat.le_of_succ_le_succ one))]
    exact List.pairwise_singleton _ _

theorem mem_indexes {index : IndexSpec} :
    index ∈ (if spec.includeIndexes then source.indexes.map (copiedIndex spec) else []) ↔
      spec.includeIndexes = true ∧ ∃ original ∈ source.indexes,
        copiedIndex spec original = index := by
  cases spec.includeIndexes with
  | false => simp only [Bool.false_eq_true, ↓reduceIte, List.not_mem_nil, false_and]
  | true => simp only [↓reduceIte, List.mem_map, true_and]

theorem mem_sequences {sequence : TableRef} :
    sequence ∈ (copyOf cx spec source).sequences ↔
      cx.dialect = .duckdb ∧ ∃ column ∈ autoColumns source.columns,
        duckdbSequence (copyTarget spec) column.name = sequence := by
  have made : (copyOf cx spec source).sequences =
      if cx.dialect = .duckdb then (autoColumns source.columns).map fun column =>
        duckdbSequence (copyTarget spec) column.name else [] := rfl
  rw [made]
  by_cases duckdb : cx.dialect = .duckdb
  · simp only [duckdb, ↓reduceIte, List.mem_map, true_and]
  · simp only [duckdb, ↓reduceIte, List.not_mem_nil, false_and]

theorem copied_short (written : hasIndexes cx.dialect = false → source.indexes = []) :
    ∀ name ∈ (copyOf cx spec source).constraints.map Prod.fst ++
      (copyOf cx spec source).indexes.map (·.name) ++
      (copyOf cx spec source).sequences.map (·.name), name.length ≤ 60 := by
  intro name mem
  rw [copied_indexes written] at mem
  cases List.mem_append.mp mem with
  | inl early =>
    cases List.mem_append.mp early with
    | inl constraint =>
      have ⟨pair, isMade, isName⟩ := List.mem_map.mp constraint
      have ⟨fk, _, isPair⟩ := List.mem_map.mp isMade
      rw [← isName, ← isPair]
      exact derivedName_length _
    | inr index =>
      have ⟨made, isMade, isName⟩ := List.mem_map.mp index
      have ⟨_, original, _, isIndex⟩ := mem_indexes.mp isMade
      rw [← isName, ← isIndex]
      exact derivedName_length _
  | inr sequence =>
    have ⟨made, isMade, isName⟩ := List.mem_map.mp sequence
    have ⟨_, column, _, isSequence⟩ := mem_sequences.mp isMade
    rw [← isName, ← isSequence]
    exact derivedName_length _

theorem fresh_iff (written : hasIndexes cx.dialect = false → source.indexes = []) :
    (∀ name ∈ (copyOf cx spec source).indexes.map (·.name) ++
        (copyOf cx spec source).sequences.map (·.name),
      ∀ used ∈ usedNames cx source, sameName name used = false) ↔
    (spec.includeIndexes = true → ∀ index ∈ source.indexes, ∀ used ∈ usedNames cx source,
      sameName (indexName spec.source.name spec.target.name index.name) used = false) ∧
    (cx.dialect = .duckdb → ∀ column ∈ autoColumns source.columns,
      ∀ used ∈ usedNames cx source,
        sameName (derivedName [spec.target.name, column.name, "seq".toList]) used = false) := by
  rw [copied_indexes written]
  constructor
  · intro fresh
    constructor
    · intro included index mem
      apply fresh
      apply List.mem_append_left
      exact List.mem_map.mpr ⟨_, mem_indexes.mpr ⟨included, index, mem, rfl⟩, rfl⟩
    · intro duckdb column mem
      apply fresh (derivedName [spec.target.name, column.name, "seq".toList])
      apply List.mem_append_right
      exact List.mem_map.mpr ⟨_, mem_sequences.mpr ⟨duckdb, column, mem, rfl⟩, rfl⟩
  · intro clear name mem
    cases List.mem_append.mp mem with
    | inl index =>
      have ⟨made, isMade, isName⟩ := List.mem_map.mp index
      have ⟨included, original, isOriginal, isIndex⟩ := mem_indexes.mp isMade
      rw [← isName, ← isIndex]
      exact clear.1 included original isOriginal
    | inr sequence =>
      have ⟨made, isMade, isName⟩ := List.mem_map.mp sequence
      have ⟨duckdb, column, isColumn, isSequence⟩ := mem_sequences.mp isMade
      rw [← isName, ← isSequence]
      exact clear.2 duckdb column isColumn

theorem uniqueHere_iff {column : ColumnSpec} (mem : column ∈ source.columns) (table : TableRef) :
    uniqueHere column ⟨table, (primaryKeyColumns source.columns).length = 1, false⟩ = true ↔
      column.unique = true ∧ primaryKeyColumns source.columns ≠ [column] := by
  have lone : primaryKeyColumns source.columns = [column] ↔
      column.primaryKey = true ∧ (primaryKeyColumns source.columns).length = 1 := by
    constructor
    · intro only
      have inKey : column ∈ primaryKeyColumns source.columns := by
        rw [only]
        exact List.mem_singleton_self column
      exact ⟨(List.mem_filter.mp inKey).2, by rw [only]; rfl⟩
    · intro both
      have inKey : column ∈ primaryKeyColumns source.columns :=
        List.mem_filter.mpr ⟨mem, both.1⟩
      have ⟨other, only⟩ := List.length_eq_one_iff.mp both.2
      rw [only, List.mem_singleton] at inKey
      rw [only, inKey]
  rw [ne_eq, lone]
  unfold uniqueHere
  simp only [Bool.not_false, Bool.and_true, Bool.and_eq_true, Bool.not_eq_true',
    Bool.and_eq_false_iff, decide_eq_false_iff_not, not_and]
  by_cases key : column.primaryKey = true
  · simp only [key, Bool.true_eq_false, false_or, forall_const]
  · simp only [key, Bool.false_eq_true, false_implies, and_true, true_or]

theorem copied_uniques : List.Forall₂ (fun column made => made.unique = true ↔
    column.unique = true ∧ primaryKeyColumns source.columns ≠ [column])
    source.columns (copyOf cx spec source).columns := by
  apply List.forall₂_map_right_iff.mpr
  apply List.forall₂_same.mpr
  intro column mem
  exact uniqueHere_iff mem (copyTarget spec)

theorem inline_keys :
    ((copyOf cx spec source).columns.filter (·.key)).map (fun column => [column.name]) =
      if cx.dialect = .sqlite then
        (autoColumns source.columns).map fun column => [column.name] else [] := by
  unfold copyOf autoColumns
  rw [List.filter_map, List.map_map]
  by_cases sqlite : cx.dialect = .sqlite
  · simp only [Function.comp_def, sqlite, true_and, Bool.decide_eq_true, ↓reduceIte]
  · simp only [Function.comp_def, sqlite, false_and, decide_false, ↓reduceIte, List.filter_false,
      List.map_nil]

/-- The auto-increment columns of a SQLite table are its key, where there are any. -/
theorem sqlite_auto (valid : Valid cx (copyShape spec source)) (sqlite : cx.dialect = .sqlite) :
    autoColumns source.columns =
      if keyInline cx (primaryKeyColumns source.columns) = true then
        primaryKeyColumns source.columns else [] := by
  have auto (column : ColumnSpec) (mem : column ∈ source.columns)
      (isAuto : column.autoIncrement = true) :
      column.primaryKey = true ∧ (primaryKeyColumns source.columns).length = 1 := by
    have checked := valid.sqliteAuto (copiedColumn column) (List.mem_filter.mpr
      ⟨List.mem_map_of_mem mem, isAuto⟩) sqlite
    rw [show (copyShape spec source).columns = source.columns.map copiedColumn from rfl,
      copied_key, List.length_map] at checked
    exact checked
  have inner : autoColumns source.columns =
      (primaryKeyColumns source.columns).filter (·.autoIncrement) := by
    unfold autoColumns primaryKeyColumns
    rw [List.filter_filter]
    apply List.filter_congr
    intro column mem
    cases isAuto : column.autoIncrement with
    | false => rfl
    | true => rw [(auto column mem isAuto).1]; rfl
  unfold keyInline
  simp only [sqlite, true_and, Bool.decide_eq_true]
  by_cases some : (primaryKeyColumns source.columns).any (·.autoIncrement) = true
  · rw [if_pos some]
    have ⟨column, inKey, isAuto⟩ := List.any_eq_true.mp some
    have only := (auto column (List.mem_filter.mp inKey).1 isAuto).2
    have ⟨other, isKey⟩ := List.length_eq_one_iff.mp only
    rw [isKey, List.mem_singleton] at inKey
    rw [inner, isKey, ← inKey, List.filter_singleton, isAuto]
    rfl
  · rw [if_neg some, inner, List.filter_eq_nil_iff]
    intro column inKey isAuto
    exact some (List.any_eq_true.mpr ⟨column, inKey, isAuto⟩)

theorem copied_keys (valid : Valid cx (copyShape spec source)) :
    ((copyOf cx spec source).keys =
      if primaryKeyColumns source.columns = [] then []
      else [(primaryKeyColumns source.columns).map (·.name)]) ↔
    (cx.dialect = .clickhouse → primaryKeyColumns source.columns ≠ [] →
      isMergeTree source = true) := by
  have lineKeys : (copyOf cx spec source).lineKeys =
      if primaryKeyColumns source.columns ≠ [] ∧
          keyInline cx (primaryKeyColumns source.columns) = false ∧ cx.dialect ≠ .clickhouse then
        [(primaryKeyColumns source.columns).map (·.name)] else [] := rfl
  have tailKeys : (copyOf cx spec source).tailKeys =
      if cx.dialect = .clickhouse ∧ isMergeTree source = true ∧
          primaryKeyColumns source.columns ≠ [] then
        [(primaryKeyColumns source.columns).map (·.name)] else [] := rfl
  unfold Declared.keys
  rw [inline_keys, lineKeys, tailKeys]
  by_cases sqlite : cx.dialect = .sqlite
  · rw [if_pos sqlite, sqlite_auto valid sqlite]
    have one := valid.oneAuto (by rw [sqlite]; decide)
    rw [show (copyShape spec source).columns = source.columns.map copiedColumn from rfl,
      copied_auto, List.length_map, sqlite_auto valid sqlite] at one
    simp only [sqlite, reduceCtorEq, false_and, ↓reduceIte, List.append_nil, ne_eq,
      not_false_eq_true, and_true, false_implies, iff_true]
    cases inline : keyInline cx (primaryKeyColumns source.columns) with
    | false =>
      by_cases none : primaryKeyColumns source.columns = []
      · simp only [none, Bool.false_eq_true, ↓reduceIte, List.map_nil, not_true_eq_false,
          false_and, List.append_nil]
      · simp only [none, Bool.false_eq_true, ↓reduceIte, List.map_nil, not_false_eq_true,
          and_self, List.nil_append]
    | true =>
      rw [if_pos inline] at one
      simp only [Bool.true_eq_false, and_false, ↓reduceIte, List.append_nil]
      cases key : primaryKeyColumns source.columns with
      | nil => rfl
      | cons column columns =>
        rw [key, List.length_cons] at one
        rw [List.length_eq_zero_iff.mp (Nat.le_zero.mp (Nat.le_of_succ_le_succ one))]
        rfl
  · have outer : keyInline cx (primaryKeyColumns source.columns) = false := by
      unfold keyInline
      simp only [sqlite, false_and, decide_false]
    rw [if_neg sqlite, outer]
    by_cases none : primaryKeyColumns source.columns = []
    · simp only [none, ne_eq, not_true_eq_false, false_and, and_false, ↓reduceIte,
        List.append_nil, false_implies, implies_true]
    · by_cases clickhouse : cx.dialect = .clickhouse
      · simp only [none, clickhouse, ne_eq, not_true_eq_false, not_false_eq_true, and_false,
          and_true, true_and, ↓reduceIte, List.nil_append, forall_const]
        cases isMergeTree source with
        | false => simp only [Bool.false_eq_true, ↓reduceIte, List.nil_eq, reduceCtorEq]
        | true => simp only [↓reduceIte]
      · simp only [none, clickhouse, ne_eq, not_false_eq_true, and_self, false_and, ↓reduceIte,
          List.nil_append, List.append_nil, false_implies]

theorem located_of_sameTable (home : Text) {first second : TableRef}
    (same : sameTable first second = true) : located home first = located home second := by
  unfold sameTable at same
  rw [Bool.and_eq_true] at same
  have schemas := (sameName_iff _ _).mp same.1
  have names := (sameName_iff _ _).mp same.2
  unfold located
  rw [names]
  congr 1
  have spelled (table : TableRef) (schema : Text) (is : schemaOf table = some schema) :
      schema ≠ [] := by
    unfold schemaOf at is
    have kept := (Option.filter_eq_some_iff.mp is).2
    intro empty
    rw [empty] at kept
    cases kept
  cases left : schemaOf first with
  | none =>
    cases right : schemaOf second with
    | none => rfl
    | some schema =>
      rw [left, right] at schemas
      exact absurd (List.map_eq_nil_iff.mp schemas.symm) (spelled second schema right)
  | some schema =>
    cases right : schemaOf second with
    | none =>
      rw [left, right] at schemas
      exact absurd (List.map_eq_nil_iff.mp schemas) (spelled first schema left)
    | some other =>
      rw [left, right] at schemas
      exact schemas

theorem keyCopied_iff (home : Text) (fk : ForeignKeySpec) :
    KeyCopied spec home fk (fkName spec.target.name (copiedKey spec fk), copiedKey spec fk) ↔
      (located home fk.refTable = located home spec.source →
        sameTable fk.refTable spec.source = true ∨
          located home spec.source = located home (copyTarget spec)) := by
  have refTable : (copiedKey spec fk).refTable =
      if sameTable fk.refTable spec.source then copyTarget spec else fk.refTable := rfl
  constructor
  · intro copied own
    have points := copied.own own
    cases same : sameTable fk.refTable spec.source with
    | true => exact .inl rfl
    | false =>
      rw [refTable, same] at points
      exact .inr (own.symm.trans points)
  · intro spelled
    refine ⟨rfl, rfl, ⟨rfl, rfl⟩, ?_, ?_⟩
    · intro own
      rw [refTable]
      cases same : sameTable fk.refTable spec.source with
      | true => rfl
      | false =>
        cases spelled own with
        | inl wrong =>
          rw [same] at wrong
          cases wrong
        | inr overlap => exact own.trans overlap
    · intro other
      rw [refTable]
      cases same : sameTable fk.refTable spec.source with
      | true => exact absurd (located_of_sameTable home same) other
      | false => rfl

/-- The copy stands alone where nothing of the source runs into anything. -/
theorem standsAlone_iff (home : Text) (valid : Valid cx (copyShape spec source))
    (written : hasIndexes cx.dialect = false → source.indexes = []) :
    StandsAlone cx spec source home (copyOf cx spec source) ↔ Clear cx spec source home := by
  constructor
  · intro alone
    have fresh := (fresh_iff written).mp alone.fresh
    have references : ∀ fk ∈ source.foreignKeys, _ :=
      List.forall₂_same.mp (List.forall₂_map_right_iff.mp alone.foreignKeys)
    exact {
      keys := constraintNames_iff.mp alone.constraintNames
      indexes := (indexNames_iff written).mp alone.indexNames
      indexesFresh := fresh.1
      sequencesFresh := fresh.2
      references := fun fk mem => (keyCopied_iff home fk).mp (references fk mem)
      keyed := (copied_keys valid).mp alone.key }
  · intro clear
    exact {
      constraintNames := constraintNames_iff.mpr clear.keys
      indexNames := (indexNames_iff written).mpr clear.indexes
      sequenceNames := sequenceNames valid
      short := copied_short written
      fresh := (fresh_iff written).mpr ⟨clear.indexesFresh, clear.sequencesFresh⟩
      columns := by
        unfold copyOf
        rw [List.map_map]
        rfl
      key := (copied_keys valid).mpr clear.keyed
      uniques := copied_uniques
      foreignKeys := List.forall₂_map_right_iff.mpr (List.forall₂_same.mpr fun fk mem =>
        (keyCopied_iff home fk).mpr (clear.references fk mem))
      indexes := by
        intro included
        rw [copied_indexes written, if_pos included]
        apply List.forall₂_map_right_iff.mpr
        apply List.forall₂_same.mpr
        intro index _
        exact ⟨rfl, rfl⟩
      noIndexes := by
        intro left
        rw [copied_indexes written, left]
        rfl }

end Standing

section Described

variable (crates : Crates) (readers : CellReaders) (home : Text) (cx : Cx) (spec : DuplicateSpec)
  (columns : List ColumnInfo) (foreignKeys : List ForeignKey) (answers : Answers)

theorem empty_valid (table : TableRef) : Valid cx (copyShape spec (emptySpec table)) := by
  have noColumns : (copyShape spec (emptySpec table)).columns = [] := rfl
  have noAuto : autoColumns (copyShape spec (emptySpec table)).columns = [] := rfl
  constructor
  · intro column mem
    rw [noColumns] at mem
    cases mem
  · intro _
    rw [noAuto]
    exact Nat.zero_le 1
  · intro column mem
    rw [noAuto] at mem
    cases mem

theorem merge_noIndexes {table : TableSpec} {extras : Extras} (none : extras.indexes = []) :
    (merge cx table extras).indexes = table.indexes := by
  unfold merge
  rw [none]
  rfl

theorem describe_noIndexes (table : TableRef) (unwritten : hasIndexes cx.dialect = false) :
    (describe readers cx table columns foreignKeys answers).indexes = [] := by
  unfold describe
  by_cases mongo : cx.dialect = .mongo
  · rw [if_pos mongo]
    rfl
  · rw [if_neg mongo]
    have noRows (base : List ForeignKeySpec) :
        (gather readers cx table base answers).indexes = [] := by
      unfold gather
      cases dialect : cx.dialect with
      | clickhouse | bigquery | snowflake | cassandra | mongo => rfl
      | _ =>
        rw [dialect] at unwritten
        cases unwritten
    have kept (known : Bool) (table : TableSpec) (keys : List ForeignKeySpec) :
        (if known then table else { table with foreignKeys := keys }).indexes =
          table.indexes := by
      cases known <;> rfl
    dsimp only
    rw [kept, merge_noIndexes cx (noRows _)]
    rfl

theorem duplicateCollection_ok {script : List Text}
    (done : duplicateCollection crates spec = .ok script) : script.length = 1 := by
  unfold duplicateCollection at done
  have ⟨_, _, done⟩ := bind_ok done
  have ⟨_, _, done⟩ := bind_ok done
  by_cases data : spec.includeData = true
  · rw [if_pos data] at done
    cases done
    rfl
  · rw [if_neg data] at done
    cases done
    rfl

variable {script : List Text}

/-- A table that is copied stands beside its copy exactly where no two of its keys or indexes are
named alike behind the copy's name, none of these names is taken, its references to itself are
spelled as it is, and a ClickHouse key belongs to an engine whose key is written. -/
theorem copy_stands_alone_iff
    (copied : duplicateTable crates cx spec
      (describe readers cx spec.source columns foreignKeys answers) = .ok script) :
    Declares cx (copyTarget spec)
        (if spec.includeData then
          copyRows cx spec (describe readers cx spec.source columns foreignKeys answers) else [])
        (copyOf cx spec (describe readers cx spec.source columns foreignKeys answers)) script ∧
      (StandsAlone cx spec (describe readers cx spec.source columns foreignKeys answers) home
          (copyOf cx spec (describe readers cx spec.source columns foreignKeys answers)) ↔
        Clear cx spec (describe readers cx spec.source columns foreignKeys answers) home) := by
  have written := describe_noIndexes readers cx columns foreignKeys answers spec.source
  unfold Declares
  by_cases mongo : cx.dialect = .mongo
  · rw [if_pos mongo]
    have empty : describe readers cx spec.source columns foreignKeys answers =
        emptySpec spec.source := by
      unfold describe
      rw [if_pos mongo]
    rw [empty] at copied written ⊢
    unfold duplicateTable at copied
    rw [if_pos mongo] at copied
    constructor
    · constructor
      · exact duplicateCollection_ok crates spec copied
      · unfold copyOf emptySpec
        simp [mongo, primaryKeyColumns]
    · exact standsAlone_iff home (empty_valid cx spec spec.source) written
  · rw [if_neg mongo]
    generalize describe readers cx spec.source columns foreignKeys answers = source
      at copied written ⊢
    have ⟨_, built, _⟩ := duplicateTable_ok mongo copied
    have ⟨_, _, _, valid, _⟩ := buildCreate_ok built
    constructor
    · exact copy_creates mongo copied
    · exact standsAlone_iff home (validate_ok mongo valid) written

end Described

section Examples

def peopleReaders : CellReaders :=
  ⟨⟨fun _ => [], fun _ => [], fun _ => none, id⟩, fun _ => []⟩

def people : TableRef := ⟨none, "people".toList⟩

def peopleCopy : DuplicateSpec := ⟨people, ⟨none, "people_copy".toList⟩, false, false⟩

/-- A row of the catalogue that says which column of `parts` a column refers to. -/
def partsKeyRow (constraint source parent : String) : Row :=
  [.text constraint.toList, .text source.toList, .text parent.toList, .text "public".toList,
    .text "parts".toList, .text "a".toList, .text "a".toList]

def peopleAnswers (keys : List Row) : Answers := ⟨none, none, none, some keys, none, fun _ => none⟩

def integerColumn (name : String) : ColumnInfo := ⟨name.toList, "integer".toList, true, false⟩

theorem people_stands_alone_iff :
    Declares postgresCx (copyTarget peopleCopy) []
        (copyOf postgresCx peopleCopy (describe peopleReaders postgresCx people
          [integerColumn "part"] [] (peopleAnswers [partsKeyRow "owns" "part" "id"])))
        [("CREATE TABLE \"people_copy\" (\n  \"part\" integer,\n  CONSTRAINT " ++
          "\"people_copy_part_fkey\" FOREIGN KEY (\"part\") REFERENCES " ++
          "\"public\".\"parts\" (\"id\")\n)").toList] ∧
      (StandsAlone postgresCx peopleCopy (describe peopleReaders postgresCx people
          [integerColumn "part"] [] (peopleAnswers [partsKeyRow "owns" "part" "id"]))
          "public".toList (copyOf postgresCx peopleCopy (describe peopleReaders postgresCx people
            [integerColumn "part"] [] (peopleAnswers [partsKeyRow "owns" "part" "id"]))) ↔
        Clear postgresCx peopleCopy (describe peopleReaders postgresCx people
          [integerColumn "part"] [] (peopleAnswers [partsKeyRow "owns" "part" "id"]))
          "public".toList) :=
  copy_stands_alone_iff peopleReaders.crates peopleReaders "public".toList postgresCx peopleCopy
    [integerColumn "part"] [] (peopleAnswers [partsKeyRow "owns" "part" "id"])
    (by
      simp only [String.toList_append]
      iterate 3 rw [String.toList_ofList]
      decide +kernel)

/-- Two keys whose columns join to the same text get one name. -/
theorem people_keys_share_name :
    ∃ keys : List Row,
      duplicateTable peopleReaders.crates postgresCx peopleCopy
          (describe peopleReaders postgresCx people
            (["a", "b_c", "a_b", "c"].map integerColumn) [] (peopleAnswers keys)) =
        .ok [("CREATE TABLE \"people_copy\" (\n  \"a\" integer,\n  \"b_c\" integer,\n" ++
          "  \"a_b\" integer,\n  \"c\" integer,\n" ++
          "  CONSTRAINT \"people_copy_a_b_c_fkey\" FOREIGN KEY (\"a\", \"b_c\") " ++
          "REFERENCES \"public\".\"parts\" (\"x\", \"y\"),\n" ++
          "  CONSTRAINT \"people_copy_a_b_c_fkey\" FOREIGN KEY (\"a_b\", \"c\") " ++
          "REFERENCES \"public\".\"parts\" (\"x\", \"y\")\n)").toList] ∧
      ¬StandsAlone postgresCx peopleCopy
        (describe peopleReaders postgresCx people
          (["a", "b_c", "a_b", "c"].map integerColumn) [] (peopleAnswers keys)) "public".toList
        (copyOf postgresCx peopleCopy (describe peopleReaders postgresCx people
          (["a", "b_c", "a_b", "c"].map integerColumn) [] (peopleAnswers keys))) := by
  refine ⟨[partsKeyRow "one" "a" "x", partsKeyRow "one" "b_c" "y", partsKeyRow "two" "a_b" "x",
    partsKeyRow "two" "c" "y"], ?_, ?_⟩
  · simp only [String.toList_append]
    iterate 6 rw [String.toList_ofList]
    decide +kernel
  intro alone
  have distinct := alone.constraintNames
  revert distinct
  unfold Distinct
  decide +kernel

end Examples

end DbFree.Ddl
