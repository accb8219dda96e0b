import DbFree.ClipboardTables
import DbFree.ResultView

/- Typed text and cells: what an editor opens with, and what it makes of a text by the kind of
the column (lib/fields.ts, lib/datetime.ts). -/
namespace DbFree.Fields

open Texts (contains startsWith)
open Browser (trim toNumber)

inductive FieldKind where
  | bool | int | float | decimal | json | date | time | datetime | bytes | text | enum | array
  | vector
deriving DecidableEq

/-- A cell in the browser: all numbers are doubles there. -/
inductive Cell where
  | null
  | bool (value : Bool)
  | int (number : F64)
  | float (number : F64)
  | decimal (text : Text)
  | text (text : Text)
  | bytes (base64 : Text)
  | json (document : Json)
  | dateTime (text : Text)
  | unsupported (text : Text)

/-- `toLowerCase`, and `JSON.parse` where it does not throw. -/
structure Library where
  lower : Text → Text
  lower_plain : ∀ text : Text, (text.all fun c => 'a' ≤ c && c ≤ 'z') = true → lower text = text
  parseJson : Text → Option Json

section Temporal

def isWordChar (c : Char) : Bool := c.isAlphanum || c = '_'

/-- `\bpart\b`, for a part of word characters. -/
def hasWord (text : Text) (part : String) : Bool :=
  (List.range text.length).any fun i =>
    part.toList.isPrefixOf (text.drop i) && !(text.take i).getLast?.any isWordChar &&
      !(text.drop (i + part.toList.length)).head?.any isWordChar

/-- `\d{count}`, and what is behind it. -/
def digits (count : Nat) (text : Text) : Option Text :=
  if (text.take count).length = count ∧ (text.take count).all Char.isDigit then
    some (text.drop count)
  else none

def oneOf (marks : String) : Text → Option Text
  | [] => none
  | c :: rest => if c ∈ marks.toList then some rest else none

def dateAt (text : Text) : Option Text := do
  let month ← digits 4 text >>= oneOf "-"
  let day ← digits 2 month >>= oneOf "-"
  digits 2 day

/-- `(?:\.\d+)?` -/
def fractionAt (text : Text) : Option Text :=
  match text with
  | '.' :: rest =>
    if rest.takeWhile Char.isDigit = [] then none else some (rest.dropWhile Char.isDigit)
  | other => some other

def timeAt (text : Text) : Option Text := do
  let minutes ← digits 2 text >>= oneOf ":"
  match ← digits 2 minutes with
  | ':' :: seconds => digits 2 seconds >>= fractionAt
  | behind => some behind

/-- `(?:Z|[+-]\d{2}(?::?\d{2})?)`, in either case. -/
def zoneAt (text : Text) : Option Text :=
  match text with
  | [] => none
  | c :: rest =>
    if c = 'Z' ∨ c = 'z' then some rest
    else if c = '+' ∨ c = '-' then do
      match ← digits 2 rest with
      | [] => some []
      | ':' :: minutes => digits 2 minutes
      | minutes => digits 2 minutes
    else none

def kindOfText (text : Text) : Option FieldKind :=
  let s := trim text
  if dateAt s = some [] then some .date
  else if timeAt s = some [] then some .time
  else if (dateAt s >>= oneOf " T" >>= timeAt) = some [] ∨
      (dateAt s >>= oneOf " Tt" >>= timeAt >>= zoneAt) = some [] then some .datetime
  else none

variable (library : Library)

def temporalKind (typeName : Text) (sample : Option Text) : Option FieldKind :=
  let t := library.lower typeName
  if contains t "timestamp" || contains t "datetime" then some .datetime
  else if hasWord t "date" || startsWith t "date" then some .date
  else if hasWord t "time" || startsWith t "time" then some .time
  else sample.bind kindOfText

end Temporal

section Kinds

variable (library : Library)

/-- `vector` or `halfvec`, with a dimension or without. -/
def isVector (text : Text) : Bool :=
  ["vector".toList, "halfvec".toList].any fun name =>
    text = name ||
      (name ++ ['(']).isPrefixOf text &&
        (let rest := text.drop (name.length + 1)
         rest.getLast? = some ')' && rest.dropLast ≠ [] && rest.dropLast.all Char.isDigit)

/-- `integer[]` or `_int4`. -/
def isArrayType (typeName : Text) : Bool :=
  let t := library.lower (trim typeName)
  ['[', ']'].isSuffixOf t || (t.head? = some '_' && 1 < t.length)

/-- The editor for a column: its type first, then the shape of a sample. -/
def fieldKind (typeName : Text) (sample : Option Cell) (enumValues : List Text) : FieldKind :=
  let t := library.lower typeName
  if enumValues ≠ [] then .enum
  else if isVector (trim t) then .vector
  else if isArrayType library t then
    match sample with
    | some (.json _) => .json
    | none | some (.text _) | some .null => .array
    | _ => .text
  else if contains t "bool" then .bool
  else if contains t "json" then .json
  else if contains t "bytea" || contains t "blob" || contains t "binary" then .bytes
  else
    let shown := match sample with
      | some (.dateTime text) => some text
      | _ => none
    match temporalKind library t shown with
    | some kind => kind
    | none =>
      if !contains t "interval" && (contains t "int" || contains t "serial") then .int
      else if contains t "numeric" || contains t "decimal" || contains t "money" then .decimal
      else if contains t "real" || contains t "float" || contains t "double" then .float
      else
        match sample with
        | some (.bool _) => .bool
        | some (.int _) => .int
        | some (.float _) => .float
        | some (.decimal _) => .decimal
        | some (.json _) => .json
        | some (.bytes _) => .bytes
        | some (.dateTime _) => .datetime
        | _ => .text

end Kinds

section Editing

variable (library : Library)

/-- `Number.isInteger`. -/
def isInteger (number : F64) : Bool := number.isWhole

/-- A cell from a typed text; what no reading fits stays text. -/
def parseEdited (text typeName : Text) (original : Option Cell) (enumValues : List Text) : Cell :=
  if text = "NULL".toList then .null
  else
    let trimmed := trim text
    match fieldKind library typeName original enumValues with
    | .bool =>
      let lower := library.lower trimmed
      if lower ∈ ["true".toList, "1".toList, "t".toList] then .bool true
      else if lower ∈ ["false".toList, "0".toList, "f".toList] then .bool false
      else .text text
    | .int =>
      match toNumber trimmed with
      | some n => if trimmed ≠ [] ∧ isInteger n then .int n else .text text
      | none => .text text
    | .decimal =>
      if trimmed ≠ [] ∧ (toNumber trimmed).isSome then .decimal trimmed else .text text
    | .float =>
      match toNumber trimmed with
      | some n => if trimmed ≠ [] then .float n else .text text
      | none => .text text
    | .json =>
      match library.parseJson text with
      | some document => .json document
      | none => .text text
    | .date | .time | .datetime => .dateTime trimmed
    | .bytes | .text | .enum | .array | .vector => .text text

/-- What an inline editor opens with. -/
def editText : Cell → Text
  | .null => []
  | .json document => Javascript.stringify document
  | .bool value => if value then "true".toList else "false".toList
  | .int number | .float number => Javascript.numberToString number
  | .decimal text | .text text | .bytes text | .dateTime text | .unsupported text => text

/-- Clipboard text for one cell. -/
def clipboardText : Cell → Text
  | .null => "NULL".toList
  | cell => editText cell

end Editing

end DbFree.Fields
