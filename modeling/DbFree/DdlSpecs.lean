import DbFree.Errors
import DbFree.SqlText

/- What the schema forms send and load, and the dialects they write
(model/ddl.rs, integrations/ddl/dialect.rs). -/
namespace DbFree.Ddl

open Texts SqlText

inductive ColumnDefault where
  | none
  | null
  /-- The current timestamp, spelled the way the dialect spells it. -/
  | now
  /-- The empty string. -/
  | empty
  | custom (expression : Text)
deriving DecidableEq

inductive FkAction where
  | noAction | restrict | cascade | setNull | setDefault
deriving DecidableEq

def FkAction.sql : FkAction → Text
  | .noAction => "NO ACTION".toList
  | .restrict => "RESTRICT".toList
  | .cascade => "CASCADE".toList
  | .setNull => "SET NULL".toList
  | .setDefault => "SET DEFAULT".toList

/-- Reads the spelling a catalogue reports. -/
def FkAction.parse (raw : Text) : FkAction :=
  let word := replaceChar (toAsciiUppercase (trim raw)) '_' [' ']
  if isIn word ["CASCADE", "C"] then .cascade
  else if isIn word ["RESTRICT", "R"] then .restrict
  else if isIn word ["SET NULL", "N"] then .setNull
  else if isIn word ["SET DEFAULT", "D"] then .setDefault
  else .noAction

structure ColumnSpec where
  name : Text
  /-- The name the column has in the live table, on an edit of an existing column. -/
  originalName : Option Text
  dataType : Text
  length : Option Nat
  precision : Option Nat
  scale : Option Nat
  /-- ClickHouse's `LowCardinality` or `Array` around the type. -/
  wrapper : Option Text
  enumValues : List Text
  nullable : Bool
  primaryKey : Bool
  unique : Bool
  /-- The live constraint or index that makes the column unique. -/
  uniqueName : Option Text
  autoIncrement : Bool
  /-- MySQL's `UNSIGNED`. -/
  unsigned : Bool
  default : ColumnDefault
deriving DecidableEq

structure ForeignKeySpec where
  name : Option Text
  /-- The live constraint's name, on an edit. -/
  originalName : Option Text
  columns : List Text
  refTable : TableRef
  refColumns : List Text
  onDelete : FkAction
  onUpdate : FkAction
deriving DecidableEq

structure IndexSpec where
  name : Text
  columns : List Text
  unique : Bool
deriving DecidableEq

structure TableSpec where
  table : TableRef
  columns : List ColumnSpec
  primaryKeyName : Option Text
  foreignKeys : List ForeignKeySpec
  indexes : List IndexSpec
  engine : Option Text
  orderBy : List Text
  ifNotExists : Bool
deriving DecidableEq

/-- The live table as loaded, and the table as the form leaves it. -/
structure AlterTableSpec where
  original : TableSpec
  desired : TableSpec

structure DuplicateSpec where
  source : TableRef
  target : TableRef
  includeData : Bool
  includeIndexes : Bool

inductive Dialect where
  | postgres | mysql | mssql | oracle | sqlite | duckdb | clickhouse | snowflake | bigquery
  | cassandra | mongo
deriving DecidableEq

def Dialect.label : Dialect → Text
  | .postgres => "PostgreSQL".toList
  | .mysql => "MySQL".toList
  | .mssql => "SQL Server".toList
  | .oracle => "Oracle".toList
  | .sqlite => "SQLite".toList
  | .duckdb => "DuckDB".toList
  | .clickhouse => "ClickHouse".toList
  | .snowflake => "Snowflake".toList
  | .bigquery => "BigQuery".toList
  | .cassandra => "Cassandra".toList
  | .mongo => "MongoDB".toList

/-- QuestDB rides the Postgres wire protocol without its statements. -/
def dialectOf (engine : Engine) : Option Dialect :=
  if engine = .questdb then none
  else
    match engine.family with
    | .postgres => some .postgres
    | .mysql => some .mysql
    | .mssql => some .mssql
    | .oracle => some .oracle
    | .sqlite | .libsql | .valTown | .cloudflareD1 => some .sqlite
    | .duckdb => some .duckdb
    | .clickhouse => some .clickhouse
    | .snowflake => some .snowflake
    | .bigquery => some .bigquery
    | .cassandra => some .cassandra
    | .mongodb => some .mongo
    | _ => none

/-- An engine with its dialect. -/
structure Cx where
  engine : Engine
  dialect : Dialect
  speaks : dialectOf engine = some dialect

def postgresCx : Cx := ⟨.postgres, .postgres, rfl⟩

def mssqlCx : Cx := ⟨.mssql, .mssql, rfl⟩

namespace Cx

variable (cx : Cx)

def q (ident : Text) : Text := quoteIdentFor cx.engine ident

def table (table : TableRef) : Text := qualifiedNameFor cx.engine table

def lit (_ : Cx) (text : Text) : Text := quoteLiteral text

def cannot (what : Text) : AppError :=
  .invalidInput (cx.dialect.label ++ " cannot ".toList ++ what ++ ['.'])

def columns (names : List Text) : Text := join ", ".toList (names.map cx.q)

end Cx

/-- A schema that is not empty. -/
def schemaOf (table : TableRef) : Option Text := table.schema.filter fun schema => !schema.isEmpty

/-- The table under another name. -/
def renamed (table : TableRef) (name : Text) : TableRef := ⟨schemaOf table, name⟩

/-- A generated name, kept inside the shortest identifier limit. -/
def derivedName (parts : List Text) : Text := (join ['_'] parts).take 60

/-- `eq_ignore_ascii_case`. -/
def sameName (first second : Text) : Bool := toAsciiLowercase first == toAsciiLowercase second

/-- A name with a quote on each side, as messages show it. -/
def shown (name : Text) : Text := '"' :: name ++ ['"']

/-- Refuses only what no engine accepts as a name. -/
def checkName (kind name : Text) : Except AppError Unit :=
  if blank name then
    .error (.invalidInput ("A ".toList ++ kind ++ " name is required.".toList))
  else if name ≠ trim name then
    .error (.invalidInput ("The ".toList ++ kind ++ " name ".toList ++ shown name ++
      " starts or ends with a space.".toList))
  else if name.any Chars.isControl then
    .error (.invalidInput ("The ".toList ++ kind ++ " name ".toList ++ shown name ++
      " contains a control character.".toList))
  else if name.length > 128 then
    .error (.invalidInput ("The ".toList ++ kind ++ " name \"".toList ++ name.take 20 ++
      "…\" is longer than 128 characters.".toList))
  else .ok ()

/-- What a dialect's ALTER statements can do. -/
structure DdlSupport where
  alterTable : Bool
  renameTable : Bool
  dropColumn : Bool
  renameColumn : Bool
  changeType : Bool
  changeNullability : Bool
  changeDefault : Bool
  changeUnique : Bool
  changePrimaryKey : Bool
  alterForeignKeys : Bool
  duplicateTable : Bool

def fullAlter : DdlSupport :=
  ⟨true, true, true, true, true, true, true, true, true, true, true⟩

def supportOf : Dialect → DdlSupport
  | .postgres | .mysql | .mssql | .oracle | .snowflake | .sqlite => fullAlter
  | .duckdb =>
    { fullAlter with changeUnique := false, changePrimaryKey := false, alterForeignKeys := false }
  | .clickhouse | .bigquery =>
    { fullAlter with changeUnique := false, changePrimaryKey := false, alterForeignKeys := false }
  | .cassandra => ⟨true, false, true, false, false, false, false, false, false, false, false⟩
  | .mongo => ⟨true, true, false, false, false, false, false, false, false, false, true⟩

end DbFree.Ddl
