import DbFree.Engine
import DbFree.Value

/- How names and values are written into SQL (integrations/mod.rs,
integrations/sql.rs, services/changes.rs). -/
namespace DbFree.SqlText

/-- `str::replace` of one character. -/
def replaceChar (text : Text) (c : Char) (by_ : Text) : Text :=
  text.flatMap fun d => if d = c then by_ else [d]

/-- `[T]::join`. -/
def join (separator : Text) (parts : List Text) : Text := separator.intercalate parts

theorem join_singleton (separator only : Text) : join separator [only] = only :=
  List.intercalate_singleton

theorem join_cons_cons (separator first second : Text) (rest : List Text) :
    join separator (first :: second :: rest) =
      first ++ (separator ++ join separator (second :: rest)) := by
  rw [join, join, List.intercalate_cons_cons, List.append_assoc]

def quoteIdent (raw : Text) : Text := '"' :: replaceChar raw '"' ['"', '"'] ++ ['"']

/-- Engine-aware identifier quoting; in BigQuery the backslash goes first. -/
def quoteIdentFor (engine : Engine) (raw : Text) : Text :=
  match engine.family with
  | .mysql => '`' :: replaceChar raw '`' ['`', '`'] ++ ['`']
  | .mssql => '[' :: replaceChar raw ']' [']', ']'] ++ [']']
  | .bigquery =>
    '`' :: replaceChar (replaceChar raw '\\' ['\\', '\\']) '`' ['\\', '`'] ++ ['`']
  | _ => quoteIdent raw

/-- A table, in its schema when it has one. -/
structure TableRef where
  schema : Option Text
  name : Text
deriving DecidableEq

def qualifiedNameFor (engine : Engine) (table : TableRef) : Text :=
  match table.schema with
  | some schema => quoteIdentFor engine schema ++ '.' :: quoteIdentFor engine table.name
  | none => quoteIdentFor engine table.name

def quoteLiteral (raw : Text) : Text := '\'' :: replaceChar raw '\'' ['\'', '\''] ++ ['\'']

/-- Engines whose string literals treat a backslash as an escape character. -/
def backslashEscapes (engine : Engine) : Bool :=
  match engine.family with
  | .mysql | .clickhouse | .bigquery | .snowflake => true
  | _ => false

/-- A string literal that cannot be broken out of on this engine. -/
def quoteLiteralFor (engine : Engine) (raw : Text) : Text :=
  if backslashEscapes engine then
    '\'' :: replaceChar (replaceChar raw '\\' ['\\', '\\']) '\'' ['\\', '\''] ++ ['\'']
  else quoteLiteral raw

/-- A byte as two lower case hexadecimal digits. -/
def hexByte (byte : UInt8) : Text :=
  [Nat.digitChar (byte.toNat / 16), Nat.digitChar (byte.toNat % 16)]

/-- The engine's spelling of a byte string, or `plain` where it has none. -/
def bytesLiteral (family : Family) (hex plain : Text) : Text :=
  match family with
  | .postgres => "'\\x".toList ++ hex ++ "'::bytea".toList
  | .mysql | .sqlite | .duckdb | .libsql | .valTown | .cloudflareD1 | .snowflake =>
    "X'".toList ++ hex ++ "'".toList
  | .mssql | .cassandra => "0x".toList ++ hex
  | .clickhouse => "unhex('".toList ++ hex ++ "')".toList
  | .oracle => "HEXTORAW('".toList ++ hex ++ "')".toList
  | .bigquery => "FROM_HEX('".toList ++ hex ++ "')".toList
  | _ => plain

def boolLiteral (family : Family) (value : Bool) : Text :=
  match family with
  | .sqlite | .libsql | .valTown | .cloudflareD1 | .mssql | .oracle =>
    if value then "1".toList else "0".toList
  | _ => if value then "TRUE".toList else "FALSE".toList

/-- A cell as an SQL literal of the engine. -/
def literal (crates : Crates) (engine : Engine) : Value → Text
  | .null => "NULL".toList
  | .bool value => boolLiteral engine.family value
  | .int number => integer number
  | .float number => if number.isFinite then number.display else "NULL".toList
  | .decimal text =>
    if (F64.parse text).isSome then text else quoteLiteralFor engine text
  | .text text | .dateTime text | .unsupported text => quoteLiteralFor engine text
  | .json document => quoteLiteralFor engine (crates.jsonText document)
  | .bytes base64 =>
    let hex := ((crates.base64Decode base64).getD []).flatMap hexByte
    bytesLiteral engine.family hex (quoteLiteralFor engine base64)

end DbFree.SqlText
