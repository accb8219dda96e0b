import DbFree.CreationOrder
import DbFree.FreshNames
import DbFree.SqlText

/- The SQL of a designed diagram (services/diagram_ddl.rs, model/diagrams.rs). -/
namespace DbFree.Diagram

open Texts SqlText CreationOrder

/-- `str::to_lowercase`; a count behind an underscore stays as it is written. -/
structure Lowercase where
  lower : Text → Text
  counted : ∀ (text : Text) (count : Nat), ∃ start,
    lower (text ++ '_' :: decimal count) = start ++ '_' :: decimal count

inductive ReferentialAction where
  | noAction | restrict | cascade | setNull | setDefault
deriving DecidableEq

def ReferentialAction.sql : ReferentialAction → Text
  | .noAction => "NO ACTION".toList
  | .restrict => "RESTRICT".toList
  | .cascade => "CASCADE".toList
  | .setNull => "SET NULL".toList
  | .setDefault => "SET DEFAULT".toList

structure DiagramColumn where
  name : Text
  dataType : Text
  primaryKey : Bool := false
  nullable : Bool := true
  unique : Bool := false
  autoIncrement : Bool := false
  defaultValue : Option Text := none
  comment : Option Text := none
deriving DecidableEq

structure DiagramTable where
  id : Text
  name : Text
  columns : List DiagramColumn
  schema : Option Text := none
  comment : Option Text := none
deriving DecidableEq

/-- A foreign key; the first pair of columns stands apart from the others. -/
structure DiagramRelation where
  fromTable : Text
  fromColumn : Text
  toTable : Text
  toColumn : Text
  extraColumns : List (Text × Text) := []
  name : Option Text := none
  onDelete : Option ReferentialAction := none
  onUpdate : Option ReferentialAction := none
deriving DecidableEq

def DiagramRelation.pairs (relation : DiagramRelation) : List (Text × Text) :=
  (relation.fromColumn, relation.toColumn) :: relation.extraColumns

structure DiagramBody where
  tables : List DiagramTable
  relations : List DiagramRelation
deriving DecidableEq

inductive Dialect where
  | postgres | mysql | mssql | oracle | sqlite | clickhouse | duckdb | snowflake | bigquery
  | generic
deriving DecidableEq

def dialectOf (engine : Engine) : Dialect :=
  match engine.family with
  | .postgres => .postgres
  | .mysql => .mysql
  | .mssql => .mssql
  | .oracle => .oracle
  | .sqlite | .libsql | .valTown | .cloudflareD1 => .sqlite
  | .clickhouse => .clickhouse
  | .duckdb => .duckdb
  | .snowflake => .snowflake
  | .bigquery => .bigquery
  | _ => .generic

/-- Where a foreign key can be written. -/
inductive FkMode where
  | alter | inline | unsupported
deriving DecidableEq

namespace Dialect

def fkMode : Dialect → FkMode
  | sqlite | duckdb => .inline
  | clickhouse => .unsupported
  | _ => .alter

/-- The longest identifier for a constraint. -/
def identMax : Dialect → Nat
  | postgres => 63
  | mysql => 64
  | mssql | oracle => 128
  | _ => 255

def fallbackType : Dialect → Text
  | sqlite => "TEXT".toList
  | clickhouse => "String".toList
  | bigquery => "STRING".toList
  | mssql => "nvarchar(255)".toList
  | oracle => "VARCHAR2(255)".toList
  | _ => "text".toList

end Dialect

/-- What a dialect does with one referential action. -/
inductive ActionSupport where
  | emit
  | replace (instead : ReferentialAction)
  | omit (warn : Bool)
deriving DecidableEq

def actionSupport (dialect : Dialect) (onDelete : Bool) (action : ReferentialAction) :
    ActionSupport :=
  match dialect with
  | .postgres | .sqlite | .generic => .emit
  | .mysql => if action = .setDefault then .omit true else .emit
  | .mssql => if action = .restrict then .replace .noAction else .emit
  | .oracle =>
    if onDelete && (action == .cascade || action == .setNull) then .emit
    else .omit (action != .noAction)
  | .duckdb => if action = .noAction ∨ action = .restrict then .emit else .omit true
  | .snowflake | .bigquery | .clickhouse => .omit (action != .noAction)

/-- A text with something in it besides white space, trimmed. -/
def given (text : Option Text) : Option Text := (text.map trim).filter fun text => !text.isEmpty

/-- A table that can be written: named, with at least one named column. -/
structure Usable where
  table : DiagramTable
  columns : List DiagramColumn
  columns_ne : columns ≠ []

def usable (table : DiagramTable) : Option Usable :=
  if (trim table.name).isEmpty then none
  else
    let columns := table.columns.filter fun column => !(trim column.name).isEmpty
    if some_column : columns = [] then none else some ⟨table, columns, some_column⟩

/-- A foreign key that survived validation. -/
structure Fk where
  child : Nat
  parent : Nat
  relation : DiagramRelation
  name : Text

namespace Fk

variable (fk : Fk)

def from_ : List Text := fk.relation.pairs.map (·.1)

def to_ : List Text := fk.relation.pairs.map (·.2)

end Fk

inductive Identity where
  | none
  | afterType (text : Text)
  | afterNull (text : Text)
deriving DecidableEq

structure Generator where
  lowercase : Lowercase
  engine : Option Engine
  body : DiagramBody
  only : Option Text

namespace Generator

variable (generator : Generator)

def dialect : Dialect := generator.engine.elim .generic dialectOf

def quote (raw : Text) : Text :=
  match generator.engine with
  | some engine => quoteIdentFor engine raw
  | none => quoteIdent raw

def quoteList (names : List Text) : Text := join ", ".toList (names.map generator.quote)

/-- The table's name in its schema, or bare where the dialect has no schemas. -/
def qualified (table : DiagramTable) : Text :=
  let name := generator.quote (trim table.name)
  match given table.schema with
  | some schema =>
    if generator.dialect ≠ .sqlite then generator.quote schema ++ '.' :: name else name
  | none => name

/-- Some dialects read a backslash as an escape, so it is doubled there. -/
def literal (raw : Text) : Text :=
  let escaped := replaceChar raw '\'' ['\'', '\'']
  match generator.dialect with
  | .mysql | .clickhouse | .bigquery =>
    '\'' :: replaceChar escaped '\\' ['\\', '\\'] ++ ['\'']
  | _ => '\'' :: escaped ++ ['\'']

def inScope (tableId : Text) : Bool :=
  match generator.only with
  | some only => only == tableId
  | none => true

def usables : List Usable := generator.body.tables.filterMap usable

/-- The last of the tables that have an id. -/
def byId (id : Text) : Option Nat :=
  (List.range generator.usables.length).reverse.find? fun index =>
    generator.usables[index]?.any (·.table.id = id)

/-- The child and the parent of a relation, when it can be written. -/
def endpoints (relation : DiagramRelation) : Option (Nat × Nat) :=
  match generator.byId relation.fromTable, generator.byId relation.toTable with
  | some child, some parent =>
    if generator.dialect.fkMode = .unsupported then none
    else if relation.pairs.any fun pair => blank pair.1 || blank pair.2 then none
    else
      match generator.usables[child]?, generator.usables[parent]? with
      | some childTable, some parentTable =>
        if relation.pairs.all fun pair => childTable.columns.any (·.name = pair.1) &&
            parentTable.columns.any (·.name = pair.2) then some (child, parent) else none
      | _, _ => none
  | _, _ => none

/-- The name a relation asks for. -/
def baseName (relation : DiagramRelation) (child : Nat) : Text :=
  match given relation.name with
  | some name => name
  | none =>
    "fk_".toList ++ (generator.usables[child]?.elim [] fun item => trim item.table.name) ++
      '_' :: join ['_'] (relation.pairs.map (·.1))

/-- The names tried for a constraint: the base cut to the dialect's longest, then with a
count that starts from two. -/
def candidate (base : Text) : Nat → Text
  | 0 => base.take generator.dialect.identMax
  | turn + 1 =>
    let suffix := '_' :: decimal (turn + 2)
    base.take (generator.dialect.identMax - suffix.length) ++ suffix

def constraintName (relation : DiagramRelation) (child : Nat) (used : List Text) : Text :=
  FreshNames.choose generator.lowercase.lower
    (generator.candidate (generator.baseName relation child)) used

/-- The foreign keys of the relations in scope, each with a name that is not used yet. -/
def planFrom : List DiagramRelation → List Text → List Fk
  | [], _ => []
  | relation :: rest, used =>
    if generator.inScope relation.fromTable then
      match generator.endpoints relation with
      | some (child, parent) =>
        let name := generator.constraintName relation child used
        ⟨child, parent, relation, name⟩ ::
          planFrom rest (generator.lowercase.lower name :: used)
      | none => planFrom rest used
    else planFrom rest used

def planForeignKeys : List Fk := generator.planFrom generator.body.relations []

def action (clause : Text) (isDelete : Bool) : Option ReferentialAction → Text
  | none => []
  | some action =>
    match actionSupport generator.dialect isDelete action with
    | .emit => ' ' :: clause ++ ' ' :: action.sql
    | .replace instead => ' ' :: clause ++ ' ' :: instead.sql
    | .omit _ => []

def actions (relation : DiagramRelation) : Text :=
  generator.action "ON DELETE".toList true relation.onDelete ++
    generator.action "ON UPDATE".toList false relation.onUpdate

def fkClause (fk : Fk) : Text :=
  let parent := generator.usables[fk.parent]?.elim [] fun item => generator.qualified item.table
  "FOREIGN KEY (".toList ++ generator.quoteList fk.from_ ++ ") REFERENCES ".toList ++ parent ++
    " (".toList ++ generator.quoteList fk.to_ ++ ")".toList ++ generator.actions fk.relation ++
    (if generator.dialect = .bigquery then " NOT ENFORCED".toList else [])

def alterStatement (fk : Fk) : Text :=
  let child := generator.usables[fk.child]?.elim [] fun item => generator.qualified item.table
  "ALTER TABLE ".toList ++ child ++ " ADD CONSTRAINT ".toList ++ generator.quote fk.name ++
    ' ' :: generator.fkClause fk ++ [';']

/-- Parents before children where foreign keys are written inline. -/
def creationOrder (fks : List Fk) : List Nat :=
  let count := generator.usables.length
  if generator.dialect.fkMode ≠ .inline then List.range count
  else kahn count ((fks.filter fun fk => fk.child ≠ fk.parent).map fun fk => (fk.child, fk.parent))

def baseType (raw : Text) : Text :=
  let head := (generator.lowercase.lower (trim raw)).takeWhile (· ≠ '(')
  join [' '] (splitWhitespace head)

def isIntegerType (raw : Text) : Bool :=
  let base := generator.baseType raw
  startsWith base "int" || "int".toList.isSuffixOf base || contains base "serial"

def takesIdentity (raw : Text) : Bool :=
  generator.isIntegerType raw || ((generator.dialect == .oracle || generator.dialect == .snowflake)
    && startsWith (generator.baseType raw) "number")

def isWrappedClickhouse (raw : Text) : Bool :=
  let lower := generator.lowercase.lower (trim raw)
  ["nullable(", "array(", "map(", "tuple(", "lowcardinality("].any (startsWith lower)

def identity (column : DiagramColumn) (dataType : Text) : Identity :=
  if !column.autoIncrement then .none
  else if !generator.takesIdentity dataType then .none
  else
    match generator.dialect with
    | .postgres | .oracle | .generic =>
      if contains (generator.lowercase.lower dataType) "serial" then .none
      else .afterType "GENERATED BY DEFAULT AS IDENTITY".toList
    | .mysql => .afterNull "AUTO_INCREMENT".toList
    | .mssql => .afterType "IDENTITY(1,1)".toList
    | .snowflake => .afterType "AUTOINCREMENT".toList
    | .sqlite | .duckdb | .clickhouse | .bigquery => .none

def columnDef (column : DiagramColumn) (inlineKey : Bool) : Text :=
  let name := generator.quote (trim column.name)
  let written := trim column.dataType
  let dataType := if written.isEmpty then generator.dialect.fallbackType else written
  if inlineKey then name ++ " INTEGER PRIMARY KEY AUTOINCREMENT".toList
  else
    let shownType :=
      if generator.dialect == .clickhouse && column.nullable && !column.primaryKey &&
          !generator.isWrappedClickhouse dataType then
        "Nullable(".toList ++ dataType ++ ")".toList
      else dataType
    let identity := generator.identity column dataType
    let afterType := match identity with
      | .afterType text => ' ' :: text
      | _ => []
    let default := match given column.defaultValue with
      | some default => if identity = .none then " DEFAULT ".toList ++ default else []
      | none => []
    let null := match generator.dialect with
      | .clickhouse => []
      | .mssql =>
        if column.nullable && !column.primaryKey then " NULL".toList else " NOT NULL".toList
      | _ => if !column.nullable || column.primaryKey then " NOT NULL".toList else []
    let afterNull := match identity with
      | .afterNull text => ' ' :: text
      | _ => []
    let unique :=
      if column.unique && !column.primaryKey && generator.dialect != .clickhouse &&
          generator.dialect != .bigquery then " UNIQUE".toList else []
    let comment := match given column.comment with
      | some comment => match generator.dialect with
        | .mysql | .clickhouse => " COMMENT ".toList ++ generator.literal comment
        | .bigquery => " OPTIONS(description=".toList ++ generator.literal comment ++ ")".toList
        | _ => []
      | none => []
    name ++ ' ' :: shownType ++ afterType ++ default ++ null ++ afterNull ++ unique ++ comment

def primary (item : Usable) : List DiagramColumn := item.columns.filter (·.primaryKey)

/-- SQLite counts up a single integer key only where its column says so. -/
def inlineKey (item : Usable) : Bool :=
  generator.dialect == .sqlite && (primary item).length == 1 &&
    (primary item).head?.any fun column =>
      column.autoIncrement && generator.isIntegerType column.dataType

/-- The columns and the primary key of a table. -/
def columnLines (item : Usable) : List Text :=
  let inlineKey := generator.inlineKey item
  let key :=
    if primary item ≠ [] ∧ !inlineKey ∧ generator.dialect ≠ .clickhouse then
      ["PRIMARY KEY (".toList ++ generator.quoteList ((primary item).map (·.name)) ++ ")".toList ++
        (if generator.dialect = .bigquery then " NOT ENFORCED".toList else [])]
    else []
  item.columns.map (generator.columnDef · inlineKey) ++ key

def constraintLine (fk : Fk) : Text :=
  "CONSTRAINT ".toList ++ generator.quote fk.name ++ ' ' :: generator.fkClause fk

/-- What stands behind the columns of a table. -/
def tableOptions (item : Usable) : Text :=
  let comment := given item.table.comment
  match generator.dialect with
  | .clickhouse =>
    let keys := (primary item).map fun column => generator.quote column.name
    let order := if keys.isEmpty then "tuple()".toList
      else "(".toList ++ join ", ".toList keys ++ ")".toList
    " ENGINE = MergeTree ORDER BY ".toList ++ order ++
      (comment.elim [] fun comment => " COMMENT ".toList ++ generator.literal comment)
  | .mysql => comment.elim [] fun comment => " COMMENT=".toList ++ generator.literal comment
  | .bigquery =>
    comment.elim [] fun comment =>
      " OPTIONS(description=".toList ++ generator.literal comment ++ ")".toList
  | _ => []

/-- The statements that comment a table and its columns. -/
def commentStatements (item : Usable) : List Text :=
  let qualified := generator.qualified item.table
  match generator.dialect with
  | .postgres | .oracle | .duckdb | .snowflake | .generic =>
    ((given item.table.comment).toList.map fun comment =>
      "COMMENT ON TABLE ".toList ++ qualified ++ " IS ".toList ++ generator.literal comment ++
        [';']) ++
    item.columns.filterMap fun column => (given column.comment).map fun comment =>
      "COMMENT ON COLUMN ".toList ++ qualified ++ '.' :: generator.quote column.name ++
        " IS ".toList ++ generator.literal comment ++ [';']
  | _ => []

def tableBlock (item : Usable) (index : Nat) (fks : List Fk) : Text :=
  let constraints :=
    if generator.dialect.fkMode = .inline then
      (fks.filter (·.child = index)).map generator.constraintLine
    else []
  let statement := "CREATE TABLE ".toList ++ generator.qualified item.table ++ " (\n  ".toList ++
    join ",\n  ".toList (generator.columnLines item ++ constraints) ++ "\n)".toList ++
    generator.tableOptions item ++ [';']
  join ['\n'] (statement :: generator.commentStatements item)

end Generator

/-- The statements of a script, each with the id of the table that it belongs to. -/
structure Script where
  tables : List (Text × Text)
  foreignKeys : List (Text × Text)
deriving DecidableEq

/-- What belongs to one table. -/
def Script.part (script : Script) (id : Text) : Script :=
  ⟨script.tables.filter (·.1 = id), script.foreignKeys.filter (·.1 = id)⟩

def Script.sql (script : Script) : Text :=
  let sections := join "\n\n".toList (script.tables.map (·.2))
  if script.foreignKeys.isEmpty then sections
  else
    sections ++ (if sections.isEmpty then [] else "\n\n".toList) ++
      "-- Foreign keys\n".toList ++ join ['\n'] (script.foreignKeys.map (·.2))

namespace Generator

variable (generator : Generator)

def tableStatements (fks : List Fk) : List (Text × Text) :=
  (generator.creationOrder fks).filterMap fun index =>
    match generator.usables[index]? with
    | some item =>
      if generator.inScope item.table.id then
        some (item.table.id, generator.tableBlock item index fks)
      else none
    | none => none

def foreignKeyStatements (fks : List Fk) : List (Text × Text) :=
  if generator.dialect.fkMode = .alter then
    fks.filterMap fun fk =>
      match generator.usables[fk.child]? with
      | some item =>
        if generator.inScope item.table.id then some (item.table.id, generator.alterStatement fk)
        else none
      | none => none
  else []

def run : Script :=
  let fks := generator.planForeignKeys
  ⟨generator.tableStatements fks, generator.foreignKeyStatements fks⟩

end Generator

/-- The script of a diagram, or of one table of it. -/
def generate (lowercase : Lowercase) (engine : Option Engine) (body : DiagramBody)
    (only : Option Text) : Text :=
  (Generator.run ⟨lowercase, engine, body, only⟩).sql

end DbFree.Diagram
