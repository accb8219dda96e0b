import DbFree.SqlText

/- The rows that flow between workflow nodes, and their cells as text and numbers
(services/workflows/data.rs, services/transfer.rs). -/
namespace DbFree

open Texts

/-- Named columns and typed cells. -/
structure Dataset where
  columns : List Text
  rows : List (List Value)

namespace Dataset

def indexOf (data : Dataset) (name : Text) : Option Nat := data.columns.findIdx? (· == name)

/-- A cell of the first row, by column name. -/
def firstCell (data : Dataset) (name : Text) : Option Value :=
  match data.indexOf name with
  | some index => data.rows.head?.bind fun row => row[index]?
  | none => none

end Dataset

/-- Whole numbers print without a fraction, the way JavaScript prints them. -/
def formatNumber (number : F64) : Text :=
  if !number.isFinite then []
  else if number.isWhole && number.absBelow (10 ^ 15) then
    (if number.negative then ['-'] else []) ++ decimal number.toInt.natAbs
  else number.display

/-- A cell as plain text: NULL is empty, JSON is compact, binary is its base64. -/
def cellText (crates : Crates) : Value → Text
  | .null => []
  | .bool value => if value then "true".toList else "false".toList
  | .int number => integer number
  | .float number => formatNumber number
  | .decimal text | .text text | .dateTime text | .unsupported text => text
  | .bytes base64 => base64
  | .json (.string text) => text
  | .json document => crates.jsonText document

/-- A cell as a number, for arithmetic. -/
def cellNumber (value : Value) : Option F64 :=
  let number :=
    match value with
    | .int number => some (F64.ofInt number)
    | .float number => some number
    | .bool value => some (F64.ofInt (if value then 1 else 0))
    | .decimal text | .text text => F64.parse (trim text)
    | _ => none
  number.filter (·.isFinite)

/-- A cell as JSON; a number that is not finite has none. -/
def jsonCell : Value → Json
  | .null => .null
  | .bool value => .bool value
  | .int number => .number (.whole number)
  | .float number => if number.isFinite then .number (.float number) else .null
  | .decimal text | .text text | .bytes text | .dateTime text | .unsupported text =>
    .string text
  | .json document => document

/-- `Map::insert`: a key that is there keeps its place. -/
def insertField (fields : List (Text × Json)) (name : Text) (value : Json) :
    List (Text × Json) :=
  if fields.any (·.1 == name) then
    fields.map fun field => if field.1 == name then (name, value) else field
  else fields ++ [(name, value)]

/-- The rows as JSON objects. -/
def Dataset.toJsonRows (data : Dataset) : List Json :=
  data.rows.map fun row =>
    .object ((data.columns.zip row).foldl
      (fun fields cell => insertField fields cell.1 (jsonCell cell.2)) [])

end DbFree
