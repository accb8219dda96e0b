import DbFree.DdlDescribe

/- The copy of a table: its structure, optionally its rows, optionally its indexes
(integrations/ddl/duplicate.rs, integrations/ddl/mongo.rs). -/
namespace DbFree.Ddl

open Texts SqlText

section Mongo

variable (crates : Crates)

/-- `serde_json::to_string` of a text. -/
def jsonString (text : Text) : Text := crates.jsonText (.string text)

/-- `{"key": value, …, "$db": "db"}` of ready-made values. -/
def command (fields : List (String × Text)) (db : Option Text) : Text :=
  let parts := fields.map (fun field => jsonString crates field.1.toList ++ ':' :: field.2) ++
    ((db.filter fun db => !db.isEmpty).map fun db =>
      "\"$db\":".toList ++ jsonString crates db).toList
  '{' :: join [','] parts ++ ['}']

def checkCollection (name : Text) : Except AppError Unit := do
  checkName "collection".toList name
  refuse ('$' ∈ name ∨ '\x00' ∈ name)
    ("The collection name ".toList ++ shown name ++ " may not contain \"$\".".toList)
  refuse (startsWith name "system." = true)
    "Collection names starting with \"system.\" are reserved by MongoDB.".toList

/-- A copy of a collection: its documents, or just an empty collection. -/
def duplicateCollection (spec : DuplicateSpec) : Except AppError (List Text) := do
  checkCollection spec.target.name
  refuse (spec.source = spec.target) "Pick a different name for the copy.".toList
  let db := schemaOf spec.source
  if spec.includeData then
    let out :=
      if schemaOf spec.target = db ∨ schemaOf spec.target = none then
        jsonString crates spec.target.name
      else
        "\x7b\"db\":".toList ++ jsonString crates ((schemaOf spec.target).getD []) ++
          ",\"coll\":".toList ++ jsonString crates spec.target.name ++ ['}']
    .ok [command crates [("aggregate", jsonString crates spec.source.name),
      ("pipeline", "[\x7b\"$out\":".toList ++ out ++ "\x7d]".toList),
      ("cursor", "\x7b\x7d".toList)] db]
  else
    .ok [command crates [("create", jsonString crates spec.target.name)]
      ((schemaOf spec.target).or db)]

end Mongo

def sameTable (first second : TableRef) : Bool :=
  sameName ((schemaOf first).getD []) ((schemaOf second).getD []) &&
    sameName first.name second.name

/-- What an index is called after its table. -/
def indexRest (source index : Text) : Text :=
  if (source ++ ['_']).isPrefixOf index then index.drop (source.length + 1) else index

/-- `<target>_<what the source index was called after its table>`. -/
def indexName (source target index : Text) : Text := derivedName [target, indexRest source index]

/-- The copy lands beside its source unless the form named another schema. -/
def copyTarget (spec : DuplicateSpec) : TableRef :=
  ⟨(schemaOf spec.target).or spec.source.schema, spec.target.name⟩

def copiedColumn (column : ColumnSpec) : ColumnSpec :=
  { column with originalName := none, uniqueName := none }

def copiedKey (spec : DuplicateSpec) (fk : ForeignKeySpec) : ForeignKeySpec :=
  { fk with
    originalName := none
    name := none
    refTable := if sameTable fk.refTable spec.source then copyTarget spec else fk.refTable }

def copiedIndex (spec : DuplicateSpec) (index : IndexSpec) : IndexSpec :=
  { index with name := indexName spec.source.name spec.target.name index.name }

/-- The source with its identities cleared and its references to itself pointed at the copy. -/
def copyShape (spec : DuplicateSpec) (source : TableSpec) : TableSpec :=
  { source with
    table := copyTarget spec
    ifNotExists := false
    primaryKeyName := none
    columns := source.columns.map copiedColumn
    foreignKeys := source.foreignKeys.map (copiedKey spec)
    indexes := if spec.includeIndexes then source.indexes.map (copiedIndex spec) else [] }

/-- The rows, and what moves the counters of auto-increment columns past them. -/
def copyRows (cx : Cx) (spec : DuplicateSpec) (source : TableSpec) : List Text :=
  let target := copyTarget spec
  let listed := cx.columns (source.columns.map (·.name))
  let insert := "INSERT INTO ".toList ++ cx.table target ++ " (".toList ++ listed ++
    ") SELECT ".toList ++ listed ++ " FROM ".toList ++ cx.table spec.source
  let auto := (autoColumns source.columns).map (·.name)
  match cx.dialect with
  | .mssql =>
    if auto = [] then [insert]
    else ["SET IDENTITY_INSERT ".toList ++ cx.table target ++ " ON".toList, insert,
      "SET IDENTITY_INSERT ".toList ++ cx.table target ++ " OFF".toList]
  | .postgres =>
    insert :: auto.map fun column =>
      "SELECT setval(pg_get_serial_sequence(".toList ++ cx.lit (cx.table target) ++
        ", ".toList ++ cx.lit column ++ "), COALESCE(MAX(".toList ++ cx.q column ++
        "), 0) + 1, false) FROM ".toList ++ cx.table target
  | .oracle =>
    insert :: auto.map fun column =>
      "ALTER TABLE ".toList ++ cx.table target ++ " MODIFY (".toList ++ cx.q column ++
        " GENERATED BY DEFAULT AS IDENTITY (START WITH LIMIT VALUE))".toList
  | .duckdb =>
    insert :: auto.map fun column =>
      "SELECT count(nextval(".toList ++ cx.lit (cx.table (duckdbSequence target column)) ++
        ")) FROM range(COALESCE((SELECT MAX(".toList ++ cx.q column ++ ") FROM ".toList ++
        cx.table target ++ "), 0))".toList
  | _ => [insert]

def duplicateTable (crates : Crates) (cx : Cx) (spec : DuplicateSpec) (source : TableSpec) :
    Except AppError (List Text) :=
  if cx.dialect = .mongo then duplicateCollection crates spec
  else if (supportOf cx.dialect).duplicateTable = false then
    .error (cx.cannot "copy a table (it has no INSERT … SELECT)".toList)
  else do
    checkName "table".toList spec.target.name
    refuse (sameTable spec.source (copyTarget spec) = true)
      "Pick a different name for the copy.".toList
    let created ← buildCreate cx (copyShape spec source)
    .ok (created.prelude ++ created.table ::
      ((if spec.includeData then copyRows cx spec source else []) ++ created.indexes))

end DbFree.Ddl
