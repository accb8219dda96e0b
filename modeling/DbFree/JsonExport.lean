import DbFree.JsonText
import DbFree.SqlText

/- The JSON writer of an export: it begins a table, takes its rows a page at a time, and
finishes it (services/export.rs). -/
namespace DbFree.JsonExport

open JsonText

section Cells

mutual

/-- A JSON cell as a document; no number of one is infinite or no number. -/
def docOf (float : F64 → Text) : Json → Doc
  | .null => .null
  | .bool value => .bool value
  | .number (.whole number) => .number (integer number)
  | .number (.float number) => if number.isFinite then .number (float number) else .null
  | .string text => .string text
  | .array items => .array (docsOf float items)
  | .object fields => .object (membersOf float fields)

def docsOf (float : F64 → Text) : List Json → List Doc
  | [] => []
  | item :: items => docOf float item :: docsOf float items

def membersOf (float : F64 → Text) : List (Text × Json) → List (Text × Doc)
  | [] => []
  | (name, value) :: fields => (name, docOf float value) :: membersOf float fields

end

/-- The serializer: how it writes strings, doubles and documents, which spell what they are
written for. -/
structure Serializer where
  /-- `serde_json::to_string` of a text. -/
  string : Text → Text
  /-- `serde_json::Number::from_f64(number).to_string()` of a number that is finite. -/
  float : F64 → Text
  /-- `serde_json::Value::to_string`. -/
  compact : Json → Text
  /-- `serde_json::to_string_pretty`. -/
  pretty : Json → Text
  string_spells : ∀ text, ∃ quotes, string text = '"' :: quotes ∧ Quoted text quotes
  float_spells : ∀ number : F64, number.isFinite = true → isNumber (float number) = true
  compact_spells : ∀ document, Spells (docOf float document) (compact document)
  pretty_spells : ∀ document, Spells (docOf float document) (pretty document)
  pretty_lines : ∀ document, '\r' ∉ pretty document

def spaces (count : Nat) : Text := List.replicate count ' '

def stripReturn (line : Text) : Text :=
  if line.getLast? = some '\r' then line.dropLast else line

/-- `str::lines`: a line loses the carriage return before its line feed, and there is no line
after the last line feed. -/
def strLines (text : Text) : List Text :=
  let pieces := text.splitOn '\n'
  let ended := pieces.dropLast.map stripReturn
  if pieces.getLast? = some [] then ended else ended ++ pieces.getLast?.toList

/-- The lines after the first are indented by `pad` spaces. -/
def indentTail (text : Text) (pad : Nat) : Text :=
  ['\n'].intercalate ((strLines text).mapIdx fun i line => if i = 0 then line else spaces pad ++ line)

variable (serializer : Serializer)

/-- A cell as JSON text. -/
def jsonCellText (value : Value) (pretty : Bool) (indent : Nat) : Text :=
  match value with
  | .null => "null".toList
  | .bool value => if value then "true".toList else "false".toList
  | .int number => integer number
  | .float number => if number.isFinite then serializer.float number else "null".toList
  | .decimal text | .text text | .bytes text | .dateTime text | .unsupported text =>
    serializer.string text
  | .json document =>
    if pretty then indentTail (serializer.pretty document) indent
    else serializer.compact document

/-- One row as a JSON object with its keys in column order. -/
def jsonObject (columns : List Text) (row : List Value) (pretty : Bool) (indent : Nat) : Text :=
  if columns = [] then "\x7b\x7d".toList
  else if ¬pretty then
    let fields := columns.mapIdx fun i name =>
      serializer.string name ++ ":".toList ++
        jsonCellText serializer (row[i]?.getD .null) false 0
    "\x7b".toList ++ ",".toList.intercalate fields ++ "\x7d".toList
  else
    let pad := spaces (indent + 2)
    let fields := columns.mapIdx fun i name =>
      pad ++ serializer.string name ++ ": ".toList ++
        jsonCellText serializer (row[i]?.getD .null) true (indent + 2)
    "\x7b\n".toList ++ ",\n".toList.intercalate fields ++ "\n".toList ++ spaces indent ++
      "\x7d".toList

end Cells

section Writer

inductive JsonShape where
  | array
  | envelope
deriving DecidableEq

/-- How a table's array sits in the file: it is the file, or a member of the combined object. -/
inductive JsonSlot where
  | standalone
  | member
deriving DecidableEq

structure ExportOptions where
  jsonShape : JsonShape
  pretty : Bool
deriving DecidableEq

def tableLabel (table : SqlText.TableRef) : Text :=
  match table.schema with
  | some schema => if schema = [] then table.name else schema ++ ".".toList ++ table.name
  | none => table.name

structure RowWriter where
  options : ExportOptions
  table : SqlText.TableRef
  columns : List Text
  slot : JsonSlot
  written : Nat
deriving DecidableEq

namespace RowWriter

variable (serializer : Serializer) (writer : RowWriter)

def envelope : Bool := writer.slot = .standalone && writer.options.jsonShape = .envelope

/-- Spaces before each array item. -/
def itemIndent : Nat :=
  match writer.slot, writer.envelope with
  | _, true => 4
  | .member, false => 4
  | .standalone, false => 2

/-- Spaces before the closing bracket. -/
def closeIndent : Nat := writer.itemIndent - 2

def begin : Text :=
  if writer.envelope then
    let table := serializer.string (tableLabel writer.table)
    if writer.options.pretty then
      "\x7b\n  \"table\": ".toList ++ table ++ ",\n  \"rows\": [".toList
    else "\x7b\"table\":".toList ++ table ++ ",\"rows\":[".toList
  else "[".toList

/-- A row behind its separator: every row after the file's first one follows a comma. -/
def rowText (i : Nat) (row : List Value) : Text :=
  let pretty := writer.options.pretty
  let indent := writer.itemIndent
  let object := jsonObject serializer writer.columns row pretty (if pretty then indent else 0)
  let separator := if writer.written = 0 ∧ i = 0 then [] else ",".toList
  if pretty then separator ++ "\n".toList ++ spaces indent ++ object
  else separator ++ "\n".toList ++ object

def rows (page : List (List Value)) : Text × RowWriter :=
  ((page.mapIdx (writer.rowText serializer)).flatten,
    { writer with written := writer.written + page.length })

def arrayEnd : Text :=
  if writer.written = 0 then "]".toList
  else if writer.options.pretty then "\n".toList ++ spaces writer.closeIndent ++ "]".toList
  else "\n]".toList

def finish : Text :=
  if writer.envelope then
    if writer.options.pretty then writer.arrayEnd ++ "\n\x7d\n".toList
    else writer.arrayEnd ++ "\x7d\n".toList
  else if writer.slot = .standalone then writer.arrayEnd ++ "\n".toList
  else writer.arrayEnd

/-- The pages in turn: their text, and the writer after them. -/
def pages (writer : RowWriter) : List (List (List Value)) → Text × RowWriter
  | [] => ([], writer)
  | page :: later =>
    let (text, writer) := writer.rows serializer page
    let (rest, writer) := pages writer later
    (text ++ rest, writer)

end RowWriter

/-- Everything that is written of a table. -/
def exported (serializer : Serializer) (options : ExportOptions) (table : SqlText.TableRef)
    (columns : List Text) (slot : JsonSlot) (pages : List (List (List Value))) : Text :=
  let writer : RowWriter := ⟨options, table, columns, slot, 0⟩
  let (body, done) := writer.pages serializer pages
  writer.begin serializer ++ body ++ done.finish

end Writer

end DbFree.JsonExport
