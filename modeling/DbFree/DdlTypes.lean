import DbFree.DdlSpecs

/- The column types of each dialect, how a type of the catalogue is read and how a column's type
is written (integrations/ddl/types.rs). -/
namespace DbFree.Ddl

open Texts SqlText

inductive TypeParams where
  | none | length | precision | precisionScale | values
deriving DecidableEq

section Catalog

def plainRows (names : List String) : List (String × TypeParams) :=
  names.map fun name => (name, .none)

def postgresRows : List (String × TypeParams) :=
  [("bigint", .none), ("bit", .length), ("boolean", .none), ("box", .none), ("bytea", .none),
    ("char", .length), ("cidr", .none), ("circle", .none), ("date", .none),
    ("decimal", .precisionScale), ("double precision", .none), ("inet", .none),
    ("integer", .none), ("interval", .none), ("json", .none), ("jsonb", .none), ("line", .none),
    ("lseg", .none), ("macaddr", .none), ("money", .none), ("numeric", .precisionScale),
    ("path", .none), ("point", .none), ("polygon", .none), ("real", .none), ("smallint", .none),
    ("text", .none), ("time", .precision), ("timestamp", .precision),
    ("timestamptz", .precision), ("timetz", .precision), ("tsvector", .none), ("uuid", .none),
    ("varchar", .length), ("xml", .none)]

def mysqlRows : List (String × TypeParams) :=
  [("bigint", .none), ("binary", .length), ("blob", .none), ("boolean", .none),
    ("char", .length), ("date", .none), ("datetime", .precision), ("decimal", .precisionScale),
    ("double", .none), ("enum", .values), ("float", .none), ("int", .none), ("json", .none),
    ("longblob", .none), ("longtext", .none), ("mediumblob", .none), ("mediumint", .none),
    ("mediumtext", .none), ("numeric", .precisionScale), ("set", .values), ("smallint", .none),
    ("text", .none), ("time", .precision), ("timestamp", .precision), ("tinyblob", .none),
    ("tinyint", .none), ("tinytext", .none), ("varbinary", .length), ("varchar", .length),
    ("year", .none)]

def sqliteRows : List (String × TypeParams) :=
  [("BLOB", .none), ("BOOLEAN", .none), ("DATE", .none), ("DATETIME", .none),
    ("DECIMAL", .precisionScale), ("INTEGER", .none), ("NUMERIC", .none), ("REAL", .none),
    ("TEXT", .none), ("VARCHAR", .length)]

def mssqlRows : List (String × TypeParams) :=
  [("bigint", .none), ("binary", .length), ("bit", .none), ("char", .length), ("date", .none),
    ("datetime", .none), ("datetime2", .precision), ("datetimeoffset", .precision),
    ("decimal", .precisionScale), ("float", .precision), ("geography", .none),
    ("geometry", .none), ("hierarchyid", .none), ("image", .none), ("int", .none),
    ("json", .none), ("money", .none), ("nchar", .length), ("ntext", .none),
    ("numeric", .precisionScale), ("nvarchar", .length), ("nvarchar(max)", .none),
    ("real", .none), ("smalldatetime", .none), ("smallint", .none), ("smallmoney", .none),
    ("sql_variant", .none), ("text", .none), ("time", .precision), ("timestamp", .none),
    ("tinyint", .none), ("uniqueidentifier", .none), ("varbinary", .length),
    ("varbinary(max)", .none), ("varchar", .length), ("varchar(max)", .none), ("xml", .none)]

def oracleRows : List (String × TypeParams) :=
  [("BINARY_DOUBLE", .none), ("BINARY_FLOAT", .none), ("BLOB", .none), ("CHAR", .length),
    ("CLOB", .none), ("DATE", .none), ("FLOAT", .precision), ("INTEGER", .none), ("JSON", .none),
    ("LONG", .none), ("NCHAR", .length), ("NCLOB", .none), ("NUMBER", .precisionScale),
    ("NVARCHAR2", .length), ("RAW", .length), ("ROWID", .none), ("SMALLINT", .none),
    ("TIMESTAMP", .precision), ("TIMESTAMP WITH LOCAL TIME ZONE", .precision),
    ("TIMESTAMP WITH TIME ZONE", .precision), ("UROWID", .length), ("VARCHAR2", .length),
    ("XMLTYPE", .none)]

def duckdbRows : List (String × TypeParams) :=
  plainRows ["BIGINT", "BLOB", "BOOLEAN", "DATE"] ++ [("DECIMAL", .precisionScale)] ++
    plainRows ["DOUBLE", "FLOAT", "HUGEINT", "INTEGER", "INTERVAL", "JSON", "REAL", "SMALLINT",
      "TEXT", "TIME", "TIMESTAMP", "TIMESTAMPTZ", "TINYINT", "UBIGINT", "UHUGEINT", "UINTEGER",
      "USMALLINT", "UTINYINT", "UUID"] ++ [("VARCHAR", .length)]

def clickhouseRows : List (String × TypeParams) :=
  plainRows ["BFloat16", "Bool", "Date", "Date32", "DateTime"] ++
    [("DateTime64", .precision), ("Decimal", .precisionScale), ("Decimal128", .precision),
      ("Decimal256", .precision), ("Decimal32", .precision), ("Decimal64", .precision),
      ("Enum16", .values), ("Enum8", .values), ("FixedString", .length)] ++
    plainRows ["Float32", "Float64", "Int128", "Int16", "Int256", "Int32", "Int64", "Int8", "IPv4",
      "IPv6", "JSON", "MultiPolygon", "Point", "Polygon", "Ring", "String", "UInt128", "UInt16",
      "UInt256", "UInt32", "UInt64", "UInt8", "UUID"]

def snowflakeRows : List (String × TypeParams) :=
  [("ARRAY", .none), ("BIGINT", .none), ("BINARY", .length), ("BOOLEAN", .none),
    ("CHAR", .length), ("DATE", .none), ("DECIMAL", .precisionScale), ("DOUBLE", .none),
    ("FLOAT", .none), ("GEOGRAPHY", .none), ("GEOMETRY", .none), ("INTEGER", .none),
    ("NUMBER", .precisionScale), ("NUMERIC", .precisionScale), ("OBJECT", .none),
    ("REAL", .none), ("SMALLINT", .none), ("STRING", .length), ("TEXT", .length),
    ("TIME", .precision), ("TIMESTAMP_LTZ", .precision), ("TIMESTAMP_NTZ", .precision),
    ("TIMESTAMP_TZ", .precision), ("TINYINT", .none), ("VARBINARY", .length),
    ("VARCHAR", .length), ("VARIANT", .none)]

def bigqueryRows : List (String × TypeParams) :=
  [("BIGNUMERIC", .precisionScale), ("BOOL", .none), ("BYTES", .length), ("DATE", .none),
    ("DATETIME", .none), ("FLOAT64", .none), ("GEOGRAPHY", .none), ("INT64", .none),
    ("INTERVAL", .none), ("JSON", .none), ("NUMERIC", .precisionScale), ("STRING", .length),
    ("TIME", .none), ("TIMESTAMP", .none)]

def cassandraRows : List (String × TypeParams) :=
  plainRows ["ascii", "bigint", "blob", "boolean", "counter", "date", "decimal", "double",
    "duration", "float", "inet", "int", "smallint", "text", "time", "timestamp", "timeuuid",
    "tinyint", "uuid", "varchar", "varint"]

def rows : Dialect → List (String × TypeParams)
  | .postgres => postgresRows
  | .mysql => mysqlRows
  | .mssql => mssqlRows
  | .oracle => oracleRows
  | .sqlite => sqliteRows
  | .duckdb => duckdbRows
  | .clickhouse => clickhouseRows
  | .snowflake => snowflakeRows
  | .bigquery => bigqueryRows
  | .cassandra => cassandraRows
  | .mongo => []

def lookup (dialect : Dialect) (name : Text) : Option (String × TypeParams) :=
  (rows dialect).find? fun row => sameName row.1.toList name

/-- Integer types an auto-increment column may have. -/
def autoIncrementTypes : Dialect → List String
  | .postgres => ["smallint", "integer", "bigint"]
  | .mysql => ["tinyint", "smallint", "mediumint", "int", "bigint"]
  | .mssql => ["tinyint", "smallint", "int", "bigint"]
  | .oracle => ["number", "integer", "smallint"]
  | .sqlite => ["integer"]
  | .duckdb => ["tinyint", "smallint", "integer", "bigint", "hugeint"]
  | .snowflake => ["number", "integer", "bigint", "smallint", "tinyint"]
  | .clickhouse | .bigquery | .cassandra | .mongo => []

/-- Other names of a type and the picker's name for it. -/
def aliases : Dialect → List (String × String)
  | .postgres =>
    [("character varying", "varchar"), ("character", "char"), ("bpchar", "char"),
      ("int", "integer"), ("int4", "integer"), ("int8", "bigint"), ("int2", "smallint"),
      ("float8", "double precision"), ("float4", "real"), ("bool", "boolean"),
      ("timestamp without time zone", "timestamp"), ("timestamp with time zone", "timestamptz"),
      ("time without time zone", "time"), ("time with time zone", "timetz")]
  | .mysql => [("integer", "int"), ("dec", "decimal"), ("fixed", "decimal"), ("bool", "boolean")]
  | .mssql => [("integer", "int"), ("double precision", "float")]
  | .duckdb =>
    [("int", "INTEGER"), ("int4", "INTEGER"), ("signed", "INTEGER"), ("int8", "BIGINT"),
      ("long", "BIGINT"), ("int2", "SMALLINT"), ("short", "SMALLINT"), ("bool", "BOOLEAN"),
      ("logical", "BOOLEAN"), ("string", "VARCHAR"), ("bpchar", "VARCHAR"), ("char", "VARCHAR"),
      ("float4", "REAL"), ("float8", "DOUBLE")]
  | .snowflake => [("fixed", "NUMBER")]
  | _ => []

/-- The picker's name of an alias in lower case. -/
def aliasOf (dialect : Dialect) (lower : Text) : Option String :=
  ((aliases dialect).find? fun entry => entry.1.toList == lower).map Prod.snd

def autoIncrementAllowed (dialect : Dialect) (base : Text) : Bool :=
  let lower := toAsciiLowercase (trim base)
  isIn lower (autoIncrementTypes dialect) ||
    (aliasOf dialect lower).any fun canonical =>
      isIn (toAsciiLowercase canonical.toList) (autoIncrementTypes dialect)

end Catalog

structure ParsedType where
  base : Text := []
  length : Option Nat := none
  precision : Option Nat := none
  scale : Option Nat := none
  unsigned : Bool := false
  enumValues : List Text := []
  wrapper : Option Text := none
  /-- ClickHouse's `Nullable(…)`. -/
  nullable : Bool := false
deriving DecidableEq

def ParsedType.verbatim (text : Text) : ParsedType := { base := text }

/-- What a name is looked up as. -/
def lookupName (dialect : Dialect) (name : Text) : Text :=
  let lower := toAsciiLowercase name
  (aliasOf dialect lower).elim lower fun picked => toAsciiLowercase picked.toList

/-- The catalogue's spelling of a name, or the name as given. -/
def canonical (dialect : Dialect) (name : Text) : Text :=
  match lookup dialect (lookupName dialect name) with
  | some row => row.1.toList
  | none =>
    match dialect with
    | .sqlite | .oracle => toAsciiUppercase name
    | _ => name

def isQuote (c : Char) : Bool := c == '\'' || c == '"' || c == '`'

/-- Behind an open parenthesis: what stands up to the one that closes it, and what follows.
Quoted strings are skipped; `depth` more parentheses are open. -/
def matchingParen : Nat → Option Char → Text → Option (Text × Text)
  | _, _, [] => none
  | depth, some quote, c :: rest =>
    (matchingParen depth (if c = quote then none else some quote) rest).map
      fun parts => (c :: parts.1, parts.2)
  | depth, none, c :: rest =>
    if isQuote c then
      (matchingParen depth (some c) rest).map fun parts => (c :: parts.1, parts.2)
    else if c = '(' then
      (matchingParen (depth + 1) none rest).map fun parts => (c :: parts.1, parts.2)
    else if c = ')' then
      match depth with
      | 0 => some ([], rest)
      | depth + 1 => (matchingParen depth none rest).map fun parts => (c :: parts.1, parts.2)
    else (matchingParen depth none rest).map fun parts => (c :: parts.1, parts.2)

/-- A text cut at its first open parenthesis: its start, and what follows. -/
def beforeParen (text : Text) : Text × Option Text :=
  match text.span (· ≠ '(') with
  | (start, _ :: rest) => (start, some rest)
  | (start, []) => (start, none)

/-- The wrappers around a ClickHouse type, the outer one first, and the type inside. -/
def layersOf : Nat → Text → Option (List Text × Text)
  | 0, text => some ([], text)
  | turns + 1, text =>
    match beforeParen text with
    | (start, some rest) =>
      if isIn (trim start) ["Nullable", "LowCardinality", "Array"] then
        match matchingParen 0 none rest with
        | some (inner, after) =>
          if blank after then
            (layersOf turns (trim inner)).map fun found => (trim start :: found.1, found.2)
          else some ([], text)
        | none => none
      else some ([], text)
    | (_, none) => some ([], text)

/-- The type inside the wrappers the form can express, its wrapper, and whether it is nullable. -/
def peelClickhouse (text : Text) : Option (Text × Option Text × Bool) :=
  match layersOf text.length (trim text) with
  | some ([], inner) => some (inner, none, false)
  | some ([outer], inner) =>
    if isIn outer ["Nullable"] then some (inner, none, true) else some (inner, some outer, false)
  | some ([outer, second], inner) =>
    if isIn outer ["LowCardinality", "Array"] && isIn second ["Nullable"] then
      some (inner, some outer, true)
    else none
  | _ => none

/-- The label of a list up to the quote that ends it; a doubled quote is one of the label's. -/
def labelText : Text → Option (Text × Text)
  | [] => none
  | '\'' :: '\'' :: rest => (labelText rest).map fun found => ('\'' :: found.1, found.2)
  | '\'' :: rest => some ([], rest)
  | c :: rest => (labelText rest).map fun found => (c :: found.1, found.2)

/-- A number of digits, as `str::parse` reads one. -/
def parseDigits (text : Text) : Option Nat :=
  if text ≠ [] ∧ text.all Char.isDigit = true then some (F64.digitsValue text) else none

/-- `str::parse::<u32>`. -/
def parseU32 (text : Text) : Option Nat :=
  (parseDigits (match text with
    | '+' :: digits => digits
    | digits => digits)).filter (· < 2 ^ 32)

/-- `str::parse::<i64>`. -/
def parseI64 (text : Text) : Option Int :=
  match text with
  | '-' :: digits => ((parseDigits digits).filter (· ≤ 2 ^ 63)).map fun value => -(value : Int)
  | '+' :: digits => ((parseDigits digits).filter (· < 2 ^ 63)).map Int.ofNat
  | digits => ((parseDigits digits).filter (· < 2 ^ 63)).map Int.ofNat

/-- The labels of an argument list and the numbers written behind them. -/
def labelsFrom : Nat → Text → Option (List Text × List Int)
  | 0, _ => some ([], [])
  | turns + 1, text =>
    match text.dropWhile fun c => Chars.isWhitespace c || c == ',' with
    | [] => some ([], [])
    | '\'' :: rest =>
      match labelText rest with
      | none => none
      | some (label, after) =>
        match after.dropWhile Chars.isWhitespace with
        | '=' :: behind =>
          let digits := behind.takeWhile fun c => Chars.isWhitespace c || c.isDigit || c == '-'
          match parseI64 (trim digits) with
          | none => none
          | some number =>
            (labelsFrom turns (behind.drop digits.length)).map
              fun found => (label :: found.1, number :: found.2)
        | behind => (labelsFrom turns behind).map fun found => (label :: found.1, found.2)
    | _ => none

/-- The labels of an `enum('a', 'b')`; numbers behind them must be 1, 2, 3 and so on. -/
def enumLabels (args : Text) : Option (List Text) :=
  match labelsFrom (args.length + 1) args with
  | none => none
  | some (labels, numbers) =>
    if numbers = [] ∨ numbers = (List.range labels.length).map fun n : Nat => (n : Int) + 1 then
      some labels
    else none

/-- One of the numbers of an argument list; Oracle's `255 CHAR` and `255 BYTE` are 255. -/
def numberOf (dialect : Dialect) (part : Text) : Option Nat :=
  let part := trim part
  parseU32 (if dialect = .oracle then part.rdropWhile fun c => c.isAlpha || Chars.isWhitespace c
    else part)

def numbersOf (dialect : Dialect) : List Text → Option (List Nat)
  | [] => some []
  | part :: parts =>
    (numberOf dialect part).bind fun value => (numbersOf dialect parts).map (value :: ·)

def numbers (args : Text) (dialect : Dialect) : Option (List Nat) :=
  numbersOf dialect (args.splitOn ',')

/-- Takes MySQL's attributes from the end of a type: what is left, and whether one of them was
`unsigned`. -/
def stripAttributes : Nat → Text → Text × Bool
  | 0, text => (text, false)
  | turns + 1, text =>
    let lower := toAsciiLowercase text
    if " unsigned".toList.isSuffixOf lower then
      ((stripAttributes turns (text.take (text.length - 9))).1, true)
    else if " zerofill".toList.isSuffixOf lower then
      stripAttributes turns (text.take (text.length - 9))
    else (text, false)

def isInteger (base : Text) : Bool :=
  isIn base ["tinyint", "smallint", "mediumint", "int", "bigint"]

/-- A type whose arguments the form does not know: it is kept as it is written. -/
def keptWhole (parsed : ParsedType) (text : Text) : ParsedType :=
  { ParsedType.verbatim text with wrapper := parsed.wrapper, nullable := parsed.nullable }

/-- What the arguments of a type say about a parsed type without them. -/
def parseArgs (dialect : Dialect) (parsed : ParsedType) (text args : Text) : ParsedType :=
  let params := (lookup dialect parsed.base).map Prod.snd
  if params = some .values ∨ isIn parsed.base ["Enum8", "Enum16", "enum", "set"] then
    match enumLabels args with
    | some labels => { parsed with enumValues := labels }
    | none => keptWhole parsed text
  else
    match numbers args dialect with
    | none => { keptWhole parsed text with unsigned := parsed.unsigned }
    | some values =>
      if dialect = .mysql ∧ isInteger parsed.base then
        if isIn parsed.base ["tinyint"] ∧ values = [1] then { parsed with length := some 1 }
        else parsed
      else
        match values with
        | [value] =>
          if params = some .length then { parsed with length := some value }
          else { parsed with precision := some value }
        | [precision, scale] => { parsed with precision := some precision, scale := some scale }
        | _ => keptWhole parsed text

/-- The name of a type with the zone words behind its arguments; nothing where other words
stand there. -/
def spelledName (dialect : Dialect) (name tail : Text) : Option Text :=
  let lower := toAsciiLowercase tail
  if dialect = .postgres then
    if isIn lower ["with time zone", "without time zone"] then some (name ++ ' ' :: lower)
    else if tail = [] then some name
    else none
  else if dialect = .oracle ∧ startsWith lower "with " then some (name ++ ' ' :: lower)
  else if tail = [] then some name
  else none

/-- Reads a type without its wrappers and attributes. -/
def parseInner (dialect : Dialect) (raw : Text) (parsed : ParsedType) (text : Text) : ParsedType :=
  if '[' ∈ text then { parsed with base := text }
  else
    match beforeParen text with
    | (_, none) => { parsed with base := canonical dialect (trim text) }
    | (start, some rest) =>
      match matchingParen 0 none rest with
      | none => .verbatim raw
      | some (args, after) =>
        match spelledName dialect (trim start) (trim after) with
        | none => .verbatim raw
        | some spelled =>
          parseArgs dialect { parsed with base := canonical dialect spelled } text args

def parseType (dialect : Dialect) (raw : Text) : ParsedType :=
  let raw := trim raw
  if raw = [] then {}
  else
    match dialect with
    | .clickhouse =>
      match peelClickhouse raw with
      | some (inner, wrapper, nullable) =>
        parseInner dialect raw { wrapper := wrapper, nullable := nullable } inner
      | none => .verbatim raw
    | .mysql =>
      let stripped := stripAttributes raw.length raw
      parseInner dialect raw { unsigned := stripped.2 } stripped.1
    | _ => parseInner dialect raw {} raw

/-- The length a type needs when the form left it blank. -/
def requiredLength (dialect : Dialect) (lower : Text) : Option Nat :=
  match dialect with
  | .mysql =>
    if isIn lower ["varchar", "varbinary"] then some 255
    else if isIn lower ["char", "binary"] then some 1
    else none
  | .mssql => if isIn lower ["varchar", "nvarchar", "varbinary"] then some 255 else none
  | .oracle => if isIn lower ["varchar2", "nvarchar2", "raw"] then some 255 else none
  | _ => none

def quoteLabel (label : Text) : Text := quoteLiteral label

/-- Oracle spells the parameters before the zone words. -/
def placeParams (dialect : Dialect) (base params : Text) : Text :=
  if dialect = .oracle ∧ startsWith base "TIMESTAMP " then
    "TIMESTAMP".toList ++ params ++ ' ' :: base.drop 10
  else base ++ params

def inParens (text : Text) : Text := '(' :: text ++ [')']

def ofColumn (column : ColumnSpec) (what : Text) : AppError :=
  .invalidInput ("Column ".toList ++ shown column.name ++ ": ".toList ++ what)

def labelList (dialect : Dialect) (values : List Text) : Text :=
  join ", ".toList (if dialect = .clickhouse then
    values.zipIdx.map fun entry => quoteLabel entry.1 ++ " = ".toList ++ decimal (entry.2 + 1)
  else values.map quoteLabel)

/-- What is written behind the base of a type. -/
def typeParams (dialect : Dialect) (column : ColumnSpec) (base : Text) : Except AppError Text :=
  let lower := toAsciiLowercase base
  if column.enumValues ≠ [] then .ok (inParens (labelList dialect column.enumValues))
  else if isIn lower ["enum", "set", "enum8", "enum16"] then
    .error (ofColumn column ("list the values of the ".toList ++ base ++ " type.".toList))
  else
    match column.length, column.precision, requiredLength dialect lower with
    | some length, _, _ => .ok (inParens (decimal length))
    | none, some precision, _ =>
      .ok (inParens (match column.scale with
        | some scale => decimal precision ++ ", ".toList ++ decimal scale
        | none => decimal precision))
    | none, none, some length => .ok (inParens (decimal length))
    | none, none, none =>
      if dialect = .clickhouse ∧ isIn lower ["fixedstring"] then
        .error (ofColumn column "FixedString needs a length.".toList)
      else .ok []

/-- The parameters of a type; a base that carries its own has none. -/
def writtenParams (dialect : Dialect) (column : ColumnSpec) (base : Text) : Except AppError Text :=
  if '(' ∈ base ∨ '[' ∈ base then .ok [] else typeParams dialect column base

/-- ClickHouse's `Nullable` and wrapper around a type. -/
def wrapType (column : ColumnSpec) (written : Text) : Except AppError Text :=
  let inner := if column.nullable then "Nullable".toList ++ inParens written else written
  match column.wrapper with
  | none => .ok inner
  | some wrapper =>
    if isIn wrapper ["LowCardinality", "Array"] then .ok (wrapper ++ inParens inner)
    else .error (ofColumn column
      ("ClickHouse wrappers are LowCardinality and Array, not ".toList ++ shown wrapper ++ ['.']))

/-- The type as it goes behind the column's name. -/
def renderType (dialect : Dialect) (column : ColumnSpec) : Except AppError Text := do
  let base := trim column.dataType
  if base = [] then
    .error (.invalidInput ("Pick a type for column ".toList ++ shown column.name ++ ['.']))
  else if column.wrapper ≠ none ∧ dialect ≠ .clickhouse then
    .error (ofColumn column
      "only ClickHouse columns can be wrapped in LowCardinality or Array.".toList)
  else do
    let params ← writtenParams dialect column base
    let written := placeParams dialect base params ++
      (if dialect = .mysql ∧ column.unsigned then " UNSIGNED".toList else [])
    if dialect = .clickhouse then wrapType column written else .ok written

end DbFree.Ddl
