import DbFree.DdlTypes

/- CREATE TABLE from a table of the form, and the pieces of it that the other builders share
(integrations/ddl/create.rs). -/
namespace DbFree.Ddl

open Texts SqlText

/-- The statements that create a table. -/
structure Created where
  /-- Statements that must run first (DuckDB sequences). -/
  prelude : List Text
  table : Text
  indexes : List Text

section Validation

def refuse (bad : Prop) [Decidable bad] (message : Text) : Except AppError Unit :=
  if bad then .error (.invalidInput message) else .ok ()

/-- Checks the items of a list in order. -/
def checkAll {α : Type} (check : α → Except AppError Unit) : List α → Except AppError Unit
  | [] => .ok ()
  | item :: items => do
    check item
    checkAll check items

def columnMessage (column : ColumnSpec) (what : Text) : Text :=
  "Column ".toList ++ shown column.name ++ ": ".toList ++ what

/-- Dialects without auto-increment and UNIQUE. -/
def keyless (dialect : Dialect) : Bool :=
  match dialect with
  | .clickhouse | .bigquery | .cassandra => true
  | _ => false

def validateColumn (cx : Cx) (before : List ColumnSpec) (column : ColumnSpec) :
    Except AppError Unit := do
  checkName "column".toList column.name
  refuse (before.any (fun other => sameName other.name column.name) = true)
    ("Column ".toList ++ shown column.name ++ " is listed twice.".toList)
  refuse (column.default ≠ .none ∧ cx.dialect = .cassandra)
    (columnMessage column "Cassandra columns have no DEFAULT.".toList)
  refuse ((column.unique && keyless cx.dialect) = true)
    (columnMessage column (cx.dialect.label ++ " does not enforce UNIQUE.".toList))
  match column.default with
  | .custom expression =>
    refuse (blank expression = true) (columnMessage column "the custom default is empty.".toList)
  | _ => .ok ()

def validateColumns (cx : Cx) : List ColumnSpec → List ColumnSpec → Except AppError Unit
  | _, [] => .ok ()
  | before, column :: columns => do
    validateColumn cx before column
    validateColumns cx (before ++ [column]) columns

def autoColumns (columns : List ColumnSpec) : List ColumnSpec :=
  columns.filter (·.autoIncrement)

def primaryKeyColumns (columns : List ColumnSpec) : List ColumnSpec :=
  columns.filter (·.primaryKey)

def validateAuto (cx : Cx) (spec : TableSpec) : Except AppError Unit := do
  let auto := autoColumns spec.columns
  if auto = [] then .ok ()
  else do
    refuse (keyless cx.dialect = true)
      (cx.dialect.label ++ " has no auto-increment columns.".toList)
    checkAll (fun column =>
      refuse (autoIncrementAllowed cx.dialect column.dataType = false)
        (columnMessage column ("auto-increment needs an integer type, not ".toList ++
          column.dataType ++ ['.']))) auto
    refuse (1 < auto.length ∧ cx.dialect ≠ .postgres)
      (cx.dialect.label ++ " allows one auto-increment column per table.".toList)
    checkAll (fun column => do
      refuse (cx.dialect = .mysql ∧ (!column.primaryKey && !column.unique) = true)
        (columnMessage column
          "MySQL needs an auto-increment column to be a primary key or unique.".toList)
      refuse (cx.dialect = .sqlite ∧
          ¬(column.primaryKey = true ∧ (primaryKeyColumns spec.columns).length = 1))
        (columnMessage column ("SQLite auto-increment needs the column to be the table's only " ++
          "primary key (it cannot be part of a composite key).").toList)) auto

def hasColumn (spec : TableSpec) (name : Text) : Bool :=
  spec.columns.any fun column => sameName column.name name

def validateForeignKey (spec : TableSpec) (fk : ForeignKeySpec) : Except AppError Unit := do
  refuse (fk.columns = []) "A foreign key needs at least one column.".toList
  refuse (fk.columns.length ≠ fk.refColumns.length)
    ("A foreign key on (".toList ++ join ", ".toList fk.columns ++
      ") must reference the same number of columns, not ".toList ++
      decimal fk.refColumns.length ++ ['.'])
  checkName "referenced table".toList fk.refTable.name
  checkAll (fun column => refuse (hasColumn spec column = false)
    ("The foreign key refers to column ".toList ++ shown column ++
      ", which the table does not have.".toList)) fk.columns
  checkAll (checkName "referenced column".toList) fk.refColumns

def validateIndex (spec : TableSpec) (index : IndexSpec) : Except AppError Unit := do
  checkName "index".toList index.name
  refuse (index.columns = []) ("Index ".toList ++ shown index.name ++ " has no columns.".toList)
  checkAll (fun column => refuse (hasColumn spec column = false)
    ("Index ".toList ++ shown index.name ++ " refers to column ".toList ++ shown column ++
      ", which the table does not have.".toList)) index.columns

def validateKeys (cx : Cx) (spec : TableSpec) : Except AppError Unit := do
  refuse (spec.foreignKeys ≠ [] ∧ (cx.dialect = .clickhouse ∨ cx.dialect = .cassandra))
    (cx.dialect.label ++ " has no foreign keys.".toList)
  checkAll (validateForeignKey spec) spec.foreignKeys
  checkAll (validateIndex spec) spec.indexes

/-- The name of a ClickHouse table engine, without its arguments. -/
def engineName (engine : Text) : Text := engine.takeWhile (· ≠ '(')

def validateEngine (cx : Cx) (spec : TableSpec) : Except AppError Unit :=
  if cx.dialect ≠ .clickhouse then .ok ()
  else do
    match spec.engine with
    | some engine =>
      let name := trim (engineName engine)
      refuse (name = [] ∨ name.all (fun c => c.isAlphanum || c == '_') = false)
        (shown engine ++ " is not a ClickHouse table engine.".toList)
    | none => .ok ()
    checkAll (fun column => refuse (hasColumn spec column = false)
      ("ORDER BY refers to column ".toList ++ shown column ++
        ", which the table does not have.".toList)) spec.orderBy

def validate (cx : Cx) (spec : TableSpec) : Except AppError Unit := do
  checkName (if cx.dialect = .mongo then "collection".toList else "table".toList) spec.table.name
  if cx.dialect = .mongo then .ok ()
  else do
    refuse (spec.columns = []) "A table needs at least one column.".toList
    validateColumns cx [] spec.columns
    validateAuto cx spec
    refuse (cx.dialect = .cassandra ∧ spec.columns.any (·.primaryKey) = false)
      "A Cassandra table needs a primary key: mark at least one column.".toList
    validateKeys cx spec
    validateEngine cx spec

theorem refuse_ok {bad : Prop} [Decidable bad] {message : Text} {done : Unit}
    (passed : refuse bad message = .ok done) : ¬bad := by
  intro holds
  unfold refuse at passed
  rw [if_pos holds] at passed
  cases passed

theorem checkAll_ok {α : Type} {check : α → Except AppError Unit} {items : List α} {done : Unit}
    (passed : checkAll check items = .ok done) : ∀ item ∈ items, ∃ done, check item = .ok done := by
  induction items with
  | nil =>
    intro item mem
    cases mem
  | cons first items ih =>
    unfold checkAll at passed
    have ⟨ok, firstOk, restOk⟩ := bind_ok passed
    intro item mem
    cases List.mem_cons.mp mem with
    | inl same => exact ⟨ok, same ▸ firstOk⟩
    | inr later => exact ih restOk item later

theorem validateColumn_ok {cx : Cx} {before : List ColumnSpec} {column : ColumnSpec} {done : Unit}
    (passed : validateColumn cx before column = .ok done) :
    (column.unique && keyless cx.dialect) = false := by
  unfold validateColumn at passed
  have ⟨_, _, passed⟩ := bind_ok passed
  have ⟨_, _, passed⟩ := bind_ok passed
  have ⟨_, _, passed⟩ := bind_ok passed
  have ⟨_, unique, _⟩ := bind_ok passed
  exact Bool.eq_false_iff.mpr (refuse_ok unique)

theorem validateColumns_ok {cx : Cx} {before columns : List ColumnSpec} {done : Unit}
    (passed : validateColumns cx before columns = .ok done) :
    ∀ column ∈ columns, (column.unique && keyless cx.dialect) = false := by
  induction columns generalizing before with
  | nil =>
    intro column mem
    cases mem
  | cons first columns ih =>
    unfold validateColumns at passed
    have ⟨_, firstOk, restOk⟩ := bind_ok passed
    intro column mem
    cases List.mem_cons.mp mem with
    | inl same => exact same ▸ validateColumn_ok firstOk
    | inr later => exact ih restOk column later

/-- What a table that passes tells about its auto-increment columns. -/
theorem validateAuto_ok {cx : Cx} {spec : TableSpec} {done : Unit}
    (passed : validateAuto cx spec = .ok done) :
    (cx.dialect ≠ .postgres → (autoColumns spec.columns).length ≤ 1) ∧
      ∀ column ∈ autoColumns spec.columns, cx.dialect = .sqlite →
        column.primaryKey = true ∧ (primaryKeyColumns spec.columns).length = 1 := by
  unfold validateAuto at passed
  by_cases none : autoColumns spec.columns = []
  · rw [none]
    constructor
    · intro _
      exact Nat.zero_le 1
    · intro column mem
      cases mem
  · simp only [none, ↓reduceIte] at passed
    have ⟨_, _, passed⟩ := bind_ok passed
    have ⟨_, _, passed⟩ := bind_ok passed
    have ⟨_, one, passed⟩ := bind_ok passed
    constructor
    · intro other
      by_contra more
      exact refuse_ok one ⟨Nat.lt_of_not_le more, other⟩
    · intro column mem sqlite
      have ⟨_, checked⟩ := checkAll_ok passed column mem
      have ⟨_, _, checked⟩ := bind_ok checked
      have allowed := refuse_ok checked
      by_contra missing
      exact allowed ⟨sqlite, missing⟩

/-- A table that passes. -/
structure Valid (cx : Cx) (spec : TableSpec) : Prop where
  uniques : ∀ column ∈ spec.columns, (column.unique && keyless cx.dialect) = false
  oneAuto : cx.dialect ≠ .postgres → (autoColumns spec.columns).length ≤ 1
  sqliteAuto : ∀ column ∈ autoColumns spec.columns, cx.dialect = .sqlite →
    column.primaryKey = true ∧ (primaryKeyColumns spec.columns).length = 1

theorem validate_ok {cx : Cx} {spec : TableSpec} {done : Unit} (sql : cx.dialect ≠ .mongo)
    (passed : validate cx spec = .ok done) : Valid cx spec := by
  unfold validate at passed
  have ⟨_, _, passed⟩ := bind_ok passed
  rw [if_neg sql] at passed
  have ⟨_, _, passed⟩ := bind_ok passed
  have ⟨_, columns, passed⟩ := bind_ok passed
  have ⟨_, auto, _⟩ := bind_ok passed
  exact ⟨validateColumns_ok columns, (validateAuto_ok auto).1, (validateAuto_ok auto).2⟩

end Validation

section Default

def nowSql : Dialect → Text
  | .postgres | .duckdb | .clickhouse => "now()".toList
  | .mssql => "GETDATE()".toList
  | .snowflake | .bigquery => "CURRENT_TIMESTAMP()".toList
  | .mysql | .oracle | .sqlite | .cassandra | .mongo => "CURRENT_TIMESTAMP".toList

def unsignedPart (text : Text) : Text :=
  match text with
  | '-' :: digits => digits
  | '+' :: digits => digits
  | digits => digits

/-- A run of digits with at most one point. -/
def isNumber (text : Text) : Bool :=
  let digits := unsignedPart text
  !digits.isEmpty && digits.count '.' ≤ 1 && digits.all (fun c => c.isDigit || c == '.') &&
    digits.any Char.isDigit

/-- A text between two characters, each a character of its own. -/
def enclosed (opening closing : Char) (text : Text) : Bool :=
  text.head? == some opening && text.getLast? == some closing && 2 ≤ text.length

/-- SQLite accepts a bare literal or keyword as a default. -/
def sqliteDefaultIsLiteral (expression : Text) : Bool :=
  let e := trim expression
  let upper := toAsciiUppercase e
  isIn upper ["NULL", "TRUE", "FALSE", "CURRENT_TIME", "CURRENT_DATE", "CURRENT_TIMESTAMP"] ||
    enclosed '(' ')' e || enclosed '\'' '\'' e ||
    (startsWith upper "X'" && e.getLast? == some '\'') || isNumber e

/-- What follows the word DEFAULT, or nothing for no clause. -/
def defaultValue (cx : Cx) (column : ColumnSpec) : Except AppError (Option Text) :=
  match column.default with
  | .none => .ok none
  | .null =>
    .ok (if (column.nullable && !column.primaryKey) = true then some "NULL".toList else none)
  | .now => .ok (some (nowSql cx.dialect))
  | .empty => .ok (some "''".toList)
  | .custom expression =>
    let expression := trim expression
    if expression = [] then
      .error (.invalidInput (columnMessage column "the custom default is empty.".toList))
    else if cx.dialect = .sqlite ∧ sqliteDefaultIsLiteral expression = false then
      .ok (some (inParens expression))
    else .ok (some expression)

end Default

section Column

/-- How a column definition is being used. -/
structure ColumnUse where
  /-- The table the column belongs to (DuckDB names its sequence after it). -/
  table : TableRef
  /-- The column is the table's only primary-key column. -/
  solePrimaryKey : Bool
  /-- ADD COLUMN: the primary key is added separately. -/
  adding : Bool

/-- The sequence DuckDB uses for an auto-increment column. -/
def duckdbSequence (table : TableRef) (column : Text) : TableRef :=
  ⟨schemaOf table, derivedName [table.name, column, "seq".toList]⟩

def postgresSerial (base : Text) : Text :=
  let lower := toAsciiLowercase (trim base)
  if isIn lower ["smallint"] then "smallserial".toList
  else if isIn lower ["bigint"] then "bigserial".toList
  else "serial".toList

/-- A word of a definition that is there under a condition. -/
def word (there : Bool) (text : String) : List Text := if there then [text.toList] else []

def defaultPart (default : Option Text) : List Text :=
  default.toList.map fun value => "DEFAULT ".toList ++ value

def notNullOf (column : ColumnSpec) : Bool := !(column.nullable && !column.primaryKey)

/-- UNIQUE beside a lone primary key is redundant. -/
def uniqueHere (column : ColumnSpec) (use : ColumnUse) : Bool :=
  column.unique && !(column.primaryKey && !use.adding && use.solePrimaryKey)

/-- What follows a column's name, from its type and its default. -/
def columnParts (cx : Cx) (column : ColumnSpec) (use : ColumnUse) (ty : Text)
    (default : Option Text) : List Text :=
  let notNull := notNullOf column
  let unique := word (uniqueHere column use) "UNIQUE"
  let auto := column.autoIncrement
  match cx.dialect with
  | .postgres =>
    [if auto then postgresSerial column.dataType else ty] ++ word (notNull && !auto) "NOT NULL" ++
      defaultPart default ++ unique
  | .mysql =>
    [ty] ++ [if notNull then "NOT NULL".toList else "NULL".toList] ++ defaultPart default ++
      word auto "AUTO_INCREMENT" ++ unique
  | .mssql =>
    [ty] ++ word auto "IDENTITY(1,1)" ++
      [if notNull then "NOT NULL".toList else "NULL".toList] ++ defaultPart default ++ unique
  | .oracle =>
    [ty] ++ defaultPart default ++ word auto "GENERATED BY DEFAULT AS IDENTITY" ++
      word (notNull && !auto) "NOT NULL" ++ unique
  | .sqlite =>
    [ty] ++ word auto "PRIMARY KEY AUTOINCREMENT" ++ word notNull "NOT NULL" ++
      defaultPart default ++ unique
  | .duckdb =>
    [ty] ++
      (if auto then ["DEFAULT nextval(".toList ++
          cx.lit (cx.table (duckdbSequence use.table column.name)) ++ [')']]
        else defaultPart default) ++
      word (notNull && !use.adding) "NOT NULL" ++
      word (uniqueHere column use && !use.adding) "UNIQUE"
  | .clickhouse => [ty] ++ defaultPart default
  | .snowflake =>
    [ty] ++ (if auto then ["AUTOINCREMENT".toList] else defaultPart default) ++
      word notNull "NOT NULL" ++ unique
  | .bigquery => [ty] ++ defaultPart default ++ word notNull "NOT NULL"
  | .cassandra | .mongo => [ty]

/-- The default of a column's definition; an auto-increment column has none, but on DuckDB. -/
def columnDefault (cx : Cx) (column : ColumnSpec) : Except AppError (Option Text) :=
  if column.autoIncrement = true ∧ cx.dialect ≠ .duckdb then .ok none
  else defaultValue cx column

def columnDefinition (cx : Cx) (column : ColumnSpec) (use : ColumnUse) :
    Except AppError Text := do
  let ty ← renderType cx.dialect column
  let default ← columnDefault cx column
  if cx.dialect = .mongo then
    .error (.invalidInput "MongoDB collections have no columns.".toList)
  else .ok (join [' '] (cx.q column.name :: columnParts cx column use ty default))

theorem columnDefinition_ok {cx : Cx} {column : ColumnSpec} {use : ColumnUse} {line : Text}
    (done : columnDefinition cx column use = .ok line) :
    ∃ ty default, line = join [' '] (cx.q column.name :: columnParts cx column use ty default) := by
  unfold columnDefinition at done
  have ⟨ty, _, done⟩ := bind_ok done
  have ⟨default, _, done⟩ := bind_ok done
  by_cases mongo : cx.dialect = .mongo
  · rw [if_pos mongo] at done
    cases done
  · rw [if_neg mongo] at done
    cases done
    exact ⟨ty, default, rfl⟩

end Column

section Keys

/-- The action a clause spells; nothing where it is the engine's own. -/
def fkActionOf (dialect : Dialect) (deleting : Bool) (action : FkAction) :
    Except AppError (Option FkAction) :=
  match dialect, action with
  | _, .noAction => .ok none
  | .mssql, .restrict => .ok none
  | .mysql, .setDefault =>
    .error (.invalidInput ("MySQL (InnoDB) rejects ON DELETE / ON UPDATE SET DEFAULT; " ++
      "use SET NULL, CASCADE, RESTRICT or NO ACTION.").toList)
  | .oracle, action =>
    if deleting ∧ action = .restrict then .ok none
    else if deleting ∧ (action = .cascade ∨ action = .setNull) then .ok (some action)
    else .error (.invalidInput ("Oracle supports only ON DELETE CASCADE and " ++
      "ON DELETE SET NULL, and has no ON UPDATE action.").toList)
  | .duckdb, .restrict => .ok none
  | .duckdb, _ =>
    .error (.invalidInput
      "DuckDB does not support ON DELETE / ON UPDATE actions on foreign keys.".toList)
  | .bigquery, _ =>
    .error (.invalidInput "BigQuery foreign keys have no ON DELETE / ON UPDATE actions.".toList)
  | _, action => .ok (some action)

def fkActionClause (cx : Cx) (deleting : Bool) (action : FkAction) : Except AppError Text := do
  match ← fkActionOf cx.dialect deleting action with
  | some action =>
    .ok ((if deleting then " ON DELETE ".toList else " ON UPDATE ".toList) ++ action.sql)
  | none => .ok []

/-- The generated name of a foreign key the form left unnamed. -/
def autoFkName (table : Text) (fk : ForeignKeySpec) : Text :=
  derivedName [table, join ['_'] fk.columns, "fkey".toList]

/-- The name a foreign key gets. -/
def fkName (table : Text) (fk : ForeignKeySpec) : Text :=
  (fk.name.filter fun name => !blank name).getD (autoFkName table fk)

/-- A foreign key's clause behind its name: SQLite takes a bare table name. -/
def foreignKeyBody (cx : Cx) (fk : ForeignKeySpec) : Text :=
  "FOREIGN KEY (".toList ++ cx.columns fk.columns ++ ") REFERENCES ".toList ++
    (if cx.dialect = .sqlite then cx.q fk.refTable.name else cx.table fk.refTable) ++
    " (".toList ++ cx.columns fk.refColumns ++ [')']

def foreignKeyClause (cx : Cx) (table : Text) (fk : ForeignKeySpec) (named : Bool) :
    Except AppError Text := do
  let onDelete ← fkActionClause cx true fk.onDelete
  let onUpdate ← fkActionClause cx false fk.onUpdate
  .ok ((if named then "CONSTRAINT ".toList ++ cx.q (fkName table fk) ++ [' '] else []) ++
    foreignKeyBody cx fk ++ onDelete ++ onUpdate ++
    (if cx.dialect = .bigquery then " NOT ENFORCED".toList else []))

theorem foreignKeyClause_ok {cx : Cx} {table line : Text} {fk : ForeignKeySpec}
    (done : foreignKeyClause cx table fk true = .ok line) :
    ∃ actions, line = "CONSTRAINT ".toList ++ cx.q (fkName table fk) ++ [' '] ++
      foreignKeyBody cx fk ++ actions := by
  unfold foreignKeyClause at done
  have ⟨onDelete, _, done⟩ := bind_ok done
  have ⟨onUpdate, _, done⟩ := bind_ok done
  cases done
  refine ⟨onDelete ++ (onUpdate ++
    (if cx.dialect = .bigquery then " NOT ENFORCED".toList else [])), ?_⟩
  simp only [↓reduceIte, List.append_assoc]

def primaryKeyClause (cx : Cx) (columns : List Text) : Text :=
  "PRIMARY KEY (".toList ++ cx.columns columns ++ [')'] ++
    (if cx.dialect = .bigquery then " NOT ENFORCED".toList else [])

/-- The dialects whose indexes are statements. -/
def hasIndexes : Dialect → Bool
  | .clickhouse | .bigquery | .cassandra | .snowflake | .mongo => false
  | _ => true

/-- PostgreSQL, SQLite, DuckDB and Oracle name an index in its table's schema. -/
def indexTarget (cx : Cx) (table : TableRef) (name : Text) : Text :=
  match cx.dialect with
  | .postgres | .sqlite | .duckdb | .oracle => cx.table ⟨schemaOf table, name⟩
  | _ => cx.q name

/-- `CREATE [UNIQUE] INDEX name ON table (columns)`; nothing on engines without them. -/
def indexStatement (cx : Cx) (table : TableRef) (index : IndexSpec) : Option Text :=
  if hasIndexes cx.dialect then
    some ("CREATE ".toList ++ (if index.unique then "UNIQUE ".toList else []) ++
      "INDEX ".toList ++ indexTarget cx table index.name ++ " ON ".toList ++ cx.table table ++
      " (".toList ++ cx.columns index.columns ++ [')'])
  else none

end Keys

section Statement

def sequenceStatement (cx : Cx) (ifNotExists : Bool) (sequence : TableRef) : Text :=
  "CREATE SEQUENCE ".toList ++ (if ifNotExists then "IF NOT EXISTS ".toList else []) ++
    cx.table sequence

/-- The sequences of the auto-increment columns. -/
def sequencesOf (cx : Cx) (spec : TableSpec) : List TableRef :=
  if cx.dialect = .duckdb then
    (autoColumns spec.columns).map fun column => duckdbSequence spec.table column.name
  else []

/-- The results of a step on every item, in order. -/
def collect {α β : Type} (step : α → Except AppError β) : List α → Except AppError (List β)
  | [] => .ok []
  | item :: items => do
    let first ← step item
    let others ← collect step items
    .ok (first :: others)

theorem collect_ok {α β : Type} {step : α → Except AppError β} {items : List α} {results : List β}
    (done : collect step items = .ok results) :
    List.Forall₂ (fun item result => step item = .ok result) items results := by
  induction items generalizing results with
  | nil =>
    cases done
    exact .nil
  | cons item items ih =>
    unfold collect at done
    have ⟨first, firstOk, done⟩ := bind_ok done
    have ⟨others, othersOk, done⟩ := bind_ok done
    cases done
    exact .cons firstOk (ih othersOk)

/-- SQLite's AUTOINCREMENT is spelled inside the column, so the key clause would repeat it. -/
def keyInline (cx : Cx) (pk : List ColumnSpec) : Bool :=
  cx.dialect = .sqlite ∧ pk.any (·.autoIncrement)

/-- The line of the primary key, where it has one of its own. -/
def keyLine (cx : Cx) (pk : List ColumnSpec) : List Text :=
  if pk ≠ [] ∧ keyInline cx pk = false ∧ cx.dialect ≠ .clickhouse then
    [primaryKeyClause cx (pk.map (·.name))]
  else []

/-- The table engine of a ClickHouse table. -/
def engineOf (spec : TableSpec) : Text :=
  ((spec.engine.map trim).filter fun engine => !engine.isEmpty).getD "MergeTree".toList

def isMergeTree (spec : TableSpec) : Bool :=
  "MergeTree".toList.isSuffixOf (engineName (engineOf spec))

/-- `ENGINE = … ORDER BY …` -/
def clickhouseSettings (cx : Cx) (spec : TableSpec) (pk : List ColumnSpec) : Text :=
  "\nENGINE = ".toList ++ engineOf spec ++
    (if isMergeTree spec then
      let order := if spec.orderBy = [] then pk.map (·.name) else spec.orderBy
      if order = [] then "\nORDER BY tuple()".toList
      else "\nORDER BY (".toList ++ cx.columns order ++ [')']
    else [])

/-- `ENGINE = … ORDER BY … PRIMARY KEY …` -/
def clickhouseTail (cx : Cx) (spec : TableSpec) (pk : List ColumnSpec) : Text :=
  clickhouseSettings cx spec pk ++
    (if isMergeTree spec = true ∧ pk ≠ [] then
      "\nPRIMARY KEY (".toList ++ cx.columns (pk.map (·.name)) ++ [')']
    else [])

/-- What stands before the definitions: the guard, and the table's name. -/
def createHead (cx : Cx) (spec : TableSpec) : Except AppError Text :=
  if spec.ifNotExists then
    match cx.dialect with
    | .mssql =>
      .ok ("IF OBJECT_ID(N".toList ++ cx.lit (cx.table spec.table) ++
        ", N'U') IS NULL\nCREATE TABLE ".toList ++ cx.table spec.table)
    | .oracle =>
      .error (.invalidInput ("Oracle before 23ai has no CREATE TABLE IF NOT EXISTS; " ++
        "untick \"if not exists\".").toList)
    | _ => .ok ("CREATE TABLE IF NOT EXISTS ".toList ++ cx.table spec.table)
  else .ok ("CREATE TABLE ".toList ++ cx.table spec.table)

/-- The definitions of a table, one a line. -/
def createBody (lines : List Text) : Text :=
  " (\n".toList ++ join ",\n".toList (lines.map fun line => "  ".toList ++ line) ++ "\n)".toList

def buildCreate (cx : Cx) (spec : TableSpec) : Except AppError Created := do
  validate cx spec
  let pk := primaryKeyColumns spec.columns
  let use : ColumnUse := ⟨spec.table, pk.length = 1, false⟩
  let columns ← collect (fun column => columnDefinition cx column use) spec.columns
  let constraints ←
    collect (fun fk => foreignKeyClause cx spec.table.name fk true) spec.foreignKeys
  let head ← createHead cx spec
  .ok {
    prelude := (sequencesOf cx spec).map (sequenceStatement cx spec.ifNotExists)
    table := head ++ createBody (columns ++ keyLine cx pk ++ constraints) ++
      (if cx.dialect = .clickhouse then clickhouseTail cx spec pk else [])
    indexes := spec.indexes.filterMap (indexStatement cx spec.table) }

theorem buildCreate_ok {cx : Cx} {spec : TableSpec} {created : Created}
    (done : buildCreate cx spec = .ok created) :
    ∃ columns constraints head,
      validate cx spec = .ok () ∧
      List.Forall₂ (fun column line => columnDefinition cx column
        ⟨spec.table, (primaryKeyColumns spec.columns).length = 1, false⟩ = .ok line)
        spec.columns columns ∧
      List.Forall₂ (fun fk line => foreignKeyClause cx spec.table.name fk true = .ok line)
        spec.foreignKeys constraints ∧
      createHead cx spec = .ok head ∧
      created = {
        prelude := (sequencesOf cx spec).map (sequenceStatement cx spec.ifNotExists)
        table := head ++ createBody
            (columns ++ keyLine cx (primaryKeyColumns spec.columns) ++ constraints) ++
          (if cx.dialect = .clickhouse then
            clickhouseTail cx spec (primaryKeyColumns spec.columns) else [])
        indexes := spec.indexes.filterMap (indexStatement cx spec.table) } := by
  unfold buildCreate at done
  have ⟨_, valid, done⟩ := bind_ok done
  have ⟨columns, columnsOk, done⟩ := bind_ok done
  have ⟨constraints, constraintsOk, done⟩ := bind_ok done
  have ⟨head, headOk, done⟩ := bind_ok done
  cases done
  exact ⟨columns, constraints, head, valid, collect_ok columnsOk, collect_ok constraintsOk,
    headOk, rfl⟩

def createTable (cx : Cx) (spec : TableSpec) : Except AppError (List Text) := do
  let created ← buildCreate cx spec
  .ok (created.prelude ++ created.table :: created.indexes)

end Statement

end DbFree.Ddl
