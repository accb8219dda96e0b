import DbFree.DdlCreate

/- A live table read into the table an edit starts from: what the catalogue queries return, cell
by cell, and the description they are folded into (integrations/ddl/describe.rs). -/
namespace DbFree.Ddl

open Texts SqlText

abbrev Row := List Value

/-- What reading a cell leaves to other crates. -/
structure CellReaders where
  crates : Crates
  /-- `String::from_utf8_lossy`. -/
  utf8Lossy : List UInt8 → Text

section Cells

variable (readers : CellReaders)

def text : Value → Option Text
  | .null => none
  | .bool value => some (if value then "1".toList else "0".toList)
  | .int number => some (integer number)
  | .float number => some number.display
  | .decimal text | .text text | .dateTime text | .unsupported text => some text
  | .json (.string text) => some text
  | .json document => some (readers.crates.jsonText document)
  | .bytes base64 => (readers.crates.base64Decode base64).map readers.utf8Lossy

def cell (row : Row) (i : Nat) : Option Text := row[i]?.bind (text readers)

def cellOrEmpty (row : Row) (i : Nat) : Text := (cell readers row i).getD []

def flag (row : Row) (i : Nat) : Bool :=
  match row[i]? with
  | some (.bool value) => value
  | some (.int number) => number != 0
  | some other =>
    (text readers other).any fun text =>
      isIn (toAsciiLowercase (trim text)) ["1", "t", "true", "y", "yes"]
  | none => false

def number (row : Row) (i : Nat) : Option Int :=
  match row[i]? with
  | some (.int number) => some number
  | some other => (text readers other).bind fun text => parseI64 (trim text)
  | none => none

/-- `str::trim_matches` of some characters. -/
def trimMatches (strips : Char → Bool) (text : Text) : Text :=
  (text.dropWhile strips).rdropWhile strips

/-- A list cell: a JSON array, or text such as `[a, b]` or `{a,b}`. -/
def list (value : Value) : List Text :=
  match value with
  | .json (.array items) => items.filterMap Json.asStr
  | other =>
    ((text readers other).map fun text =>
      (((trimMatches (fun c => c == '[' || c == ']' || c == '{' || c == '}')
        (trim text)).splitOn ',').map fun part =>
          trimMatches (fun c => c == '\'' || c == '"') (trim part)).filter fun part =>
            !part.isEmpty).getD []

end Cells

section Defaults

/-- Whether the first parenthesis of a text is open to the text's end: behind some of the text,
with that many parentheses open. -/
def closesAtEnd : Nat → Text → Bool
  | _, [] => true
  | depth, c :: rest =>
    if c = '(' then closesAtEnd (depth + 1) rest
    else if c = ')' then
      if depth - 1 = 0 ∧ rest ≠ [] then false else closesAtEnd (depth - 1) rest
    else closesAtEnd depth rest

def stripOuter : Nat → Text → Text
  | 0, text => text
  | turns + 1, text =>
    if enclosed '(' ')' text = true ∧ closesAtEnd 0 text = true then
      stripOuter turns (trim (text.drop 1).dropLast)
    else text

def stripOuterParens (text : Text) : Text := stripOuter text.length (trim text)

/-- Behind the quote that opens a literal: the literal's text with the quote that ends it, and
what follows. -/
def literalEnd : Text → Option (Text × Text)
  | [] => none
  | '\'' :: '\'' :: rest =>
    (literalEnd rest).map fun found => ('\'' :: '\'' :: found.1, found.2)
  | '\'' :: rest => some (['\''], rest)
  | c :: rest => (literalEnd rest).map fun found => (c :: found.1, found.2)

/-- `'abc'::character varying` to `'abc'`. -/
def stripLiteralCast (text : Text) : Text :=
  let t := trim text
  match t with
  | '\'' :: behind =>
    match literalEnd behind with
    | some (literal, rest) => if startsWith rest "::" then '\'' :: literal else t
    | none => t
  | _ => t

def isNow (upper : Text) : Bool :=
  isIn upper ["NOW()", "CURRENT_TIMESTAMP", "CURRENT_TIMESTAMP()", "GETDATE()", "SYSDATE",
    "LOCALTIMESTAMP", "TRANSACTION_TIMESTAMP()", "STATEMENT_TIMESTAMP()"] ||
  (startsWith upper "CURRENT_TIMESTAMP(" && upper.getLast? == some ')' &&
    ((upper.drop 18).dropLast).all Char.isDigit)

/-- A default as the catalogue prints it, without what the dialect puts around it. -/
def bareDefault (dialect : Dialect) (raw : Text) : Text :=
  match dialect with
  | .mssql => stripOuterParens (trim raw)
  | .postgres => stripLiteralCast (trim raw)
  | _ => trim raw

def parseDefault (dialect : Dialect) (raw : Text) : ColumnDefault :=
  let t := bareDefault dialect raw
  if t = [] then .none
  else
    let upper := toAsciiUppercase t
    if isIn upper ["NULL"] || startsWith upper "NULL::" then .null
    else if isNow upper then .now
    else if isIn t ["''"] || (dialect = .mssql && isIn t ["N''"]) then .empty
    else .custom t

/-- MySQL 8 prints a literal default bare and an expression default unparenthesised; MariaDB
prints both the way they must be written back. -/
def mysqlDefault (engine : Engine) (raw extra : Text) : ColumnDefault :=
  if engine = .mariadb then parseDefault .mysql raw
  else if contains (toAsciiUppercase extra) "DEFAULT_GENERATED" then
    if isNow (toAsciiUppercase (trim raw)) then .now else .custom (inParens (trim raw))
  else if raw = [] then .empty
  else if isNumber raw then .custom raw
  else .custom (quoteLiteral raw)

end Defaults

section Rows

structure ColExtra where
  name : Text
  fullType : Option Text
  default : Option ColumnDefault
  auto : Bool

structure IndexRow where
  name : Text
  unique : Bool
  primary : Bool
  /-- Nothing for an expression column, which the form cannot represent. -/
  column : Option Text
  skip : Bool

structure Extras where
  columns : List ColExtra := []
  indexes : List IndexRow := []
  foreignKeys : Option (List ForeignKeySpec) := none
  primaryKeyName : Option Text := none
  engine : Option Text := none
  orderBy : List Text := []

variable (readers : CellReaders)

/-- A foreign key that a catalogue row starts. -/
def startedKey (row : Row) : ForeignKeySpec where
  name := some (cellOrEmpty readers row 0)
  originalName := some (cellOrEmpty readers row 0)
  columns := [cellOrEmpty readers row 1]
  refTable :=
    ⟨(cell readers row 3).filter fun schema => !schema.isEmpty, cellOrEmpty readers row 4⟩
  refColumns := [cellOrEmpty readers row 2]
  onUpdate := .parse (cellOrEmpty readers row 5)
  onDelete := .parse (cellOrEmpty readers row 6)

/-- Changes the first item of a list that a test picks. -/
def changeFirst {α : Type} (picks : α → Bool) (change : α → α) : List α → Option (List α)
  | [] => none
  | item :: items =>
    if picks item then some (change item :: items)
    else (changeFirst picks change items).map (item :: ·)

def moreColumns (source parent : Text) (fk : ForeignKeySpec) : ForeignKeySpec :=
  { fk with columns := fk.columns ++ [source], refColumns := fk.refColumns ++ [parent] }

/-- Rows ordered by constraint then position, as one foreign key a constraint. -/
def groupForeignKeys : List ForeignKeySpec → List Row → List ForeignKeySpec
  | keys, [] => keys
  | keys, row :: rows =>
    let constraint := cellOrEmpty readers row 0
    let keys :=
      (changeFirst (fun fk => fk.originalName == some constraint)
        (moreColumns (cellOrEmpty readers row 1) (cellOrEmpty readers row 2)) keys).getD
        (keys ++ [startedKey readers row])
    groupForeignKeys keys rows

def startsNextval (default : Option Text) : Bool :=
  default.any fun text => startsWith (toAsciiLowercase (trimStart text)) "nextval("

def pgColumns (rows : List Row) : List ColExtra :=
  rows.map fun row =>
    let default := cell readers row 2
    let auto := startsNextval default || isIn (trim (cellOrEmpty readers row 3)) ["a", "d"]
    { name := cellOrEmpty readers row 0
      fullType := cell readers row 1
      default := if auto then some .none else default.map (parseDefault .postgres)
      auto := auto }

/-- PostgreSQL's and SQL Server's index rows. -/
def flaggedIndexes (rows : List Row) : List IndexRow :=
  rows.map fun row =>
    { name := cellOrEmpty readers row 0
      unique := flag readers row 1
      primary := flag readers row 2
      column := cell readers row 3
      skip := flag readers row 5 }

def mysqlColumns (engine : Engine) (rows : List Row) : List ColExtra :=
  rows.map fun row =>
    let extra := cellOrEmpty readers row 3
    { name := cellOrEmpty readers row 0
      fullType := cell readers row 1
      default := some ((cell readers row 2).elim .none fun raw => mysqlDefault engine raw extra)
      auto := contains (toAsciiLowercase extra) "auto_increment" }

def mysqlIndexes (rows : List Row) : List IndexRow :=
  rows.map fun row =>
    { name := cellOrEmpty readers row 0
      unique := !flag readers row 1
      primary := isIn (cellOrEmpty readers row 0) ["PRIMARY"]
      column := cell readers row 2
      -- a prefix index cannot be written back without its length
      skip := (cell readers row 4).isSome }

def inPrimaryKey (row : Row) : Bool := 0 < (number readers row 5).getD 0

def sqliteColumns (rows : List Row) (createSql : Text) : List ColExtra :=
  let pkCount := rows.countP (inPrimaryKey readers)
  let autoincrement := contains (toAsciiUppercase createSql) "AUTOINCREMENT"
  rows.map fun row =>
    { name := cellOrEmpty readers row 1
      fullType := (cell readers row 2).filter fun text => !text.isEmpty
      default := some ((cell readers row 4).elim .none (parseDefault .sqlite))
      auto := autoincrement && pkCount == 1 && inPrimaryKey readers row }

/-- The parent column a foreign key names, from the adapter's own list. -/
def resolvedParentColumn (base : List ForeignKeySpec) (source : Text) : Option Text :=
  base.findSome? fun fk => (fk.columns.idxOf? source).bind fun i => fk.refColumns[i]?

def sqliteKey (id : Int) (source parent : Text) (row : Row) : ForeignKeySpec where
  name := none
  originalName := some ("fk_".toList ++ integer id)
  columns := [source]
  refTable := ⟨none, cellOrEmpty readers row 2⟩
  refColumns := [parent]
  onUpdate := .parse (cellOrEmpty readers row 5)
  onDelete := .parse (cellOrEmpty readers row 6)

def sqliteGroups (base : List ForeignKeySpec) :
    List (Int × ForeignKeySpec) → List Row → List (Int × ForeignKeySpec)
  | groups, [] => groups
  | groups, row :: rows =>
    let id := (number readers row 0).getD 0
    let source := cellOrEmpty readers row 3
    let parent := ((cell readers row 4).or (resolvedParentColumn base source)).getD []
    let groups :=
      (changeFirst (fun group => group.1 == id)
        (fun group => (group.1, moreColumns source parent group.2)) groups).getD
        (groups ++ [(id, sqliteKey readers id source parent row)])
    sqliteGroups base groups rows

/-- `foreign_key_list` rows; a key whose parent columns stay unknown is left out. -/
def sqliteForeignKeys (rows : List Row) (base : List ForeignKeySpec) : List ForeignKeySpec :=
  ((sqliteGroups readers base [] rows).map Prod.snd).filter fun fk =>
    fk.refColumns.all fun column => !column.isEmpty

def mssqlType (name : Text) (maxLength precision scale : Int) : Text :=
  let lower := toAsciiLowercase name
  if isIn lower ["varchar", "char", "varbinary", "binary"] then
    if maxLength < 0 then name ++ "(max)".toList else name ++ inParens (integer maxLength)
  else if isIn lower ["nvarchar", "nchar"] then
    if maxLength < 0 then name ++ "(max)".toList else name ++ inParens (integer (maxLength / 2))
  else if isIn lower ["decimal", "numeric"] then
    name ++ inParens (integer precision ++ ',' :: integer scale)
  else if isIn lower ["datetime2", "datetimeoffset", "time"] && scale != 7 then
    name ++ inParens (integer scale)
  else if isIn lower ["float"] && precision != 53 then
    "float".toList ++ inParens (integer precision)
  else name

def mssqlColumns (rows : List Row) : List ColExtra :=
  rows.map fun row =>
    { name := cellOrEmpty readers row 0
      fullType := some (mssqlType (cellOrEmpty readers row 1) ((number readers row 2).getD 0)
        ((number readers row 3).getD 0) ((number readers row 4).getD 0))
      default := some ((cell readers row 6).elim .none (parseDefault .mssql))
      auto := flag readers row 5 }

/-- Splits `a, b, f(x, y)` at the commas outside of parentheses; what was read of the current
part goes first. -/
def splitTopLevel : Int → Text → Text → List Text
  | _, current, [] => if blank current then [] else [trim current]
  | depth, current, c :: rest =>
    if c = '(' then splitTopLevel (depth + 1) (current ++ [c]) rest
    else if c = ')' then splitTopLevel (depth - 1) (current ++ [c]) rest
    else if c = ',' ∧ depth = 0 then trim current :: splitTopLevel depth [] rest
    else splitTopLevel depth (current ++ [c]) rest

def clickhouseColumns (rows : List Row) : List ColExtra :=
  rows.map fun row =>
    let default :=
      if sameName (cellOrEmpty readers row 2) "DEFAULT".toList then
        (cell readers row 3).map (parseDefault .clickhouse)
      else none
    { name := cellOrEmpty readers row 0
      fullType := cell readers row 1
      default := some (default.getD .none)
      auto := false }

def duckdbColumns (rows : List Row) : List ColExtra :=
  rows.map fun row =>
    let default := cell readers row 2
    let auto := startsNextval default
    { name := cellOrEmpty readers row 0
      fullType := cell readers row 1
      default := some (if auto then .none else default.elim .none (parseDefault .duckdb))
      auto := auto }

def snowflakeType (row : Row) : Text :=
  let ty := toAsciiUppercase (cellOrEmpty readers row 1)
  if isIn ty ["TEXT"] then
    match number readers row 2 with
    | some length =>
      if length < 16777216 then "VARCHAR".toList ++ inParens (integer length)
      else "VARCHAR".toList
    | none => "VARCHAR".toList
  else if isIn ty ["NUMBER"] then
    "NUMBER".toList ++ inParens (integer ((number readers row 3).getD 38) ++
      ',' :: integer ((number readers row 4).getD 0))
  else ty

def snowflakeColumns (rows : List Row) : List ColExtra :=
  rows.map fun row =>
    let identity := sameName (cellOrEmpty readers row 6) "YES".toList
    { name := cellOrEmpty readers row 0
      fullType := some (snowflakeType readers row)
      default := some (if identity then .none
        else (cell readers row 5).elim .none (parseDefault .snowflake))
      auto := identity }

def bigqueryColumns (rows : List Row) : List ColExtra :=
  rows.map fun row =>
    { name := cellOrEmpty readers row 0
      fullType := cell readers row 1
      default := some (((cell readers row 2).filter fun text =>
        !sameName text "NULL".toList).elim .none (parseDefault .bigquery))
      auto := false }

def oracleType (row : Row) : Text :=
  let ty := cellOrEmpty readers row 1
  let upper := toAsciiUppercase ty
  if isIn upper ["VARCHAR2", "NVARCHAR2", "CHAR", "NCHAR"] then
    upper ++ inParens (integer ((((number readers row 5).filter fun length => 0 < length).or
      (number readers row 2)).getD 1))
  else if isIn upper ["RAW"] then
    "RAW".toList ++ inParens (integer ((number readers row 2).getD 1))
  else if isIn upper ["NUMBER"] then
    match number readers row 3, number readers row 4 with
    | some precision, some scale =>
      if scale ≠ 0 then "NUMBER".toList ++ inParens (integer precision ++ ',' :: integer scale)
      else "NUMBER".toList ++ inParens (integer precision)
    | some precision, none => "NUMBER".toList ++ inParens (integer precision)
    | none, _ => "NUMBER".toList
  else ty

def oracleColumns (rows : List Row) : List ColExtra :=
  rows.map fun row =>
    let auto := sameName (cellOrEmpty readers row 7) "YES".toList
    { name := cellOrEmpty readers row 0
      fullType := some (oracleType readers row)
      default := some (if auto then .none
        else (((cell readers row 6).map trim).filter fun text => !text.isEmpty).elim .none
          (parseDefault .oracle))
      auto := auto }

def oracleIndexes (rows : List Row) : List IndexRow :=
  rows.map fun row =>
    { name := cellOrEmpty readers row 0
      unique := sameName (cellOrEmpty readers row 1) "UNIQUE".toList
      primary := false
      column := cell readers row 2
      skip := false }

end Rows

section Gathering

/-- The rows the catalogue queries of a dialect return, where they succeed. -/
structure Answers where
  columns : Option (List Row)
  indexes : Option (List Row)
  primaryKey : Option (List Row)
  foreignKeys : Option (List Row)
  /-- SQLite's `sqlite_master`, ClickHouse's `system.tables`, DuckDB's unique constraints. -/
  table : Option (List Row)
  /-- SQLite's `index_info` of an index. -/
  indexInfo : Text → Option (List Row)

variable (readers : CellReaders)

/-- The first cell of the first row of an answer. -/
def firstCell (answer : Option (List Row)) : Option Text :=
  (answer.bind List.head?).bind fun row => cell readers row 0

def sqliteIndexRows (answers : Answers) (row : Row) : List IndexRow :=
  let name := cellOrEmpty readers row 1
  ((answers.indexInfo name).getD []).map fun column =>
    { name := name
      unique := flag readers row 2
      primary := isIn (cellOrEmpty readers row 3) ["pk"]
      column := cell readers column 2
      skip := flag readers row 4 }

def duckdbUniqueRows (table : TableRef) (row : Row) : List IndexRow :=
  ((row.head?.map (list readers)).getD []).map fun column =>
    { name := table.name ++ '_' :: column ++ "_key".toList
      unique := true
      primary := false
      column := some column
      skip := false }

def duckdbIndexRows (row : Row) : List IndexRow :=
  let expressions := (row[2]?.map (list readers)).getD []
  expressions.map fun column =>
    { name := cellOrEmpty readers row 0
      unique := flag readers row 1
      primary := false
      column := some column
      skip := expressions.any fun expression => expression.any (· == '(') }

def gather (cx : Cx) (table : TableRef) (baseFks : List ForeignKeySpec) (answers : Answers) :
    Extras :=
  match cx.dialect with
  | .postgres =>
    { columns := (answers.columns.map (pgColumns readers)).getD []
      indexes := (answers.indexes.map (flaggedIndexes readers)).getD []
      primaryKeyName := firstCell readers answers.primaryKey
      foreignKeys := answers.foreignKeys.map (groupForeignKeys readers []) }
  | .mysql =>
    { columns := (answers.columns.map (mysqlColumns readers cx.engine)).getD []
      indexes := (answers.indexes.map (mysqlIndexes readers)).getD []
      foreignKeys := answers.foreignKeys.map (groupForeignKeys readers []) }
  | .sqlite =>
    let createSql := (firstCell readers answers.table).getD []
    { columns := (answers.columns.map fun rows => sqliteColumns readers rows createSql).getD []
      foreignKeys := answers.foreignKeys.map fun rows => sqliteForeignKeys readers rows baseFks
      indexes := (answers.indexes.getD []).flatMap (sqliteIndexRows readers answers) }
  | .mssql =>
    { columns := (answers.columns.map (mssqlColumns readers)).getD []
      indexes := (answers.indexes.map (flaggedIndexes readers)).getD []
      primaryKeyName := (answers.indexes.bind fun rows =>
        rows.find? fun row => flag readers row 2).bind fun row => cell readers row 0
      foreignKeys := answers.foreignKeys.map (groupForeignKeys readers []) }
  | .clickhouse =>
    let row := answers.table.bind List.head?
    let keys := row.elim [] fun row => splitTopLevel 0 [] (cellOrEmpty readers row 1)
    { columns := (answers.columns.map (clickhouseColumns readers)).getD []
      engine := row.bind fun row => (cell readers row 0).filter fun engine => !engine.isEmpty
      orderBy := if keys.all (fun key => key.all (· ≠ '(')) then keys else [] }
  | .duckdb =>
    { columns := (answers.columns.map (duckdbColumns readers)).getD []
      indexes := (answers.table.getD []).flatMap (duckdbUniqueRows readers table) ++
        (answers.indexes.getD []).flatMap (duckdbIndexRows readers) }
  | .snowflake => { columns := (answers.columns.map (snowflakeColumns readers)).getD [] }
  | .bigquery =>
    { columns := if (schemaOf table).isSome then
        (answers.columns.map (bigqueryColumns readers)).getD [] else [] }
  | .oracle =>
    { columns := (answers.columns.map (oracleColumns readers)).getD []
      indexes := (answers.indexes.map (oracleIndexes readers)).getD []
      primaryKeyName := firstCell readers answers.primaryKey }
  | .cassandra | .mongo => {}

end Gathering

section Assembling

/-- A column as the adapter lists it. -/
structure ColumnInfo where
  name : Text
  dataType : Text
  nullable : Bool
  primaryKey : Bool

/-- A foreign key as the adapter lists it. -/
structure ForeignKey where
  name : Text
  fromSchema : Option Text
  fromTable : Text
  fromColumns : List Text
  toSchema : Option Text
  toTable : Text
  toColumns : List Text

def applyParsed (column : ColumnSpec) (parsed : ParsedType) (dialect : Dialect)
    (reportedNullable : Bool) : ColumnSpec :=
  { column with
    dataType := parsed.base
    length := parsed.length
    precision := parsed.precision
    scale := parsed.scale
    unsigned := parsed.unsigned
    enumValues := parsed.enumValues
    wrapper := parsed.wrapper
    -- ClickHouse writes nullability into the type
    nullable := if dialect = .clickhouse then parsed.nullable else reportedNullable }

def baseColumn (dialect : Dialect) (info : ColumnInfo) : ColumnSpec :=
  applyParsed
    { name := info.name, originalName := some info.name, dataType := [], length := none,
      precision := none, scale := none, wrapper := none, enumValues := [],
      nullable := info.nullable, primaryKey := info.primaryKey, unique := false,
      uniqueName := none, autoIncrement := false, unsigned := false, default := .none }
    (parseType dialect info.dataType) dialect info.nullable

def baseForeignKeys (table : TableRef) (all : List ForeignKey) : List ForeignKeySpec :=
  (all.filter fun fk => sameName fk.fromTable table.name &&
    ((schemaOf table).isNone ||
      fk.fromSchema.filter (fun schema => !schema.isEmpty) == schemaOf table)).map fun fk =>
    { name := some fk.name
      originalName := some fk.name
      columns := fk.fromColumns
      refTable := ⟨fk.toSchema.filter fun schema => !schema.isEmpty, fk.toTable⟩
      refColumns := fk.toColumns
      onDelete := .noAction
      onUpdate := .noAction }

def mergeColumn (dialect : Dialect) (extras : List ColExtra) (column : ColumnSpec) :
    ColumnSpec :=
  match extras.find? fun extra => extra.name == column.name with
  | none => column
  | some extra =>
    let column := extra.fullType.elim column fun full =>
      applyParsed column (parseType dialect full) dialect column.nullable
    { column with
      default := extra.default.getD column.default
      autoIncrement := extra.auto }

/-- The names of the index rows, in the order they first appear. -/
def indexNames : List Text → List IndexRow → List Text
  | names, [] => names
  | names, row :: rows =>
    indexNames (if row.name ∈ names then names else names ++ [row.name]) rows

/-- Single-column unique indexes become the column's UNIQUE flag; every other index stays an
index. -/
def mergeIndex (rows : List IndexRow) (spec : TableSpec) (name : Text) : TableSpec :=
  let own := rows.filter fun row => row.name == name
  let columns := own.filterMap (·.column)
  if own.any (·.primary) then spec
  else if columns.length ≠ own.length ∨ own.any (·.skip) = true then spec
  else
    let unique := own.any (·.unique)
    let index : IndexSpec := ⟨name, columns, unique⟩
    let kept : TableSpec := { spec with indexes := spec.indexes ++ [index] }
    match unique, columns with
    | true, [column] =>
      match changeFirst (fun other => other.name == column && !other.unique)
          (fun other => { other with unique := true, uniqueName := some name })
          spec.columns with
      | some marked => { spec with columns := marked }
      | none => kept
    | _, _ => kept

/-- Folds the catalogue's extras into the base description. -/
def merge (cx : Cx) (spec : TableSpec) (extras : Extras) : TableSpec :=
  let spec := { spec with columns := spec.columns.map (mergeColumn cx.dialect extras.columns) }
  let spec := (indexNames [] extras.indexes).foldl (mergeIndex extras.indexes) spec
  { spec with
    foreignKeys := extras.foreignKeys.getD spec.foreignKeys
    primaryKeyName := extras.primaryKeyName
    engine := if cx.dialect = .clickhouse then extras.engine else spec.engine
    orderBy := if cx.dialect = .clickhouse then extras.orderBy else spec.orderBy }

def emptySpec (table : TableRef) : TableSpec := ⟨table, [], none, [], [], none, [], false⟩

/-- The description of a live table, from the adapter's columns, its foreign keys and the answers
of the catalogue; a collection has no columns to describe. -/
def describe (readers : CellReaders) (cx : Cx) (table : TableRef) (columns : List ColumnInfo)
    (foreignKeys : List ForeignKey) (answers : Answers) : TableSpec :=
  if cx.dialect = .mongo then emptySpec table
  else
    let base := baseForeignKeys table foreignKeys
    let adapterFirst := !(cx.dialect = .postgres || cx.dialect = .mysql || cx.dialect = .mssql)
    let extras := gather readers cx table (if adapterFirst then base else []) answers
    let spec := { emptySpec table with columns := columns.map (baseColumn cx.dialect) }
    let merged := merge cx spec extras
    if extras.foreignKeys.isSome then merged else { merged with foreignKeys := base }

end Assembling

end DbFree.Ddl
