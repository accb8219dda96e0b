import DbFree.Javascript
import DbFree.StableSort

/- The filters and sort rules of a result grid, as the server's fallback applies them to
rows (integrations/http.rs) and as the browser orders the rows it holds
(features/grid/clientRows.ts, lib/format.ts). -/
namespace DbFree

/-- `f64::partial_cmp`. -/
def F64.partialCmp (first second : F64) : Option Ordering :=
  if first.isNan || second.isNan then none
  else if first.isZero && second.isZero then some .eq
  else some (compare first.place second.place)

inductive FilterOp where
  | eq | ne | gt | gte | lt | lte | contains | notContains | startsWith | endsWith | isIn | isNull
  | isNotNull
deriving DecidableEq

structure FilterRule where
  column : Text
  op : FilterOp
  value : Text
deriving DecidableEq

inductive FilterMode where
  | all | any
deriving DecidableEq

structure SortRule where
  column : Text
  desc : Bool
deriving DecidableEq

abbrev Row := List Value

/-- Whether a row passes the rules that hit it. -/
def FilterMode.passes (mode : FilterMode) (filters : List FilterRule) (hit : FilterRule → Bool) :
    Bool :=
  match mode with
  | .any => filters.any hit
  | .all => filters.all hit

namespace Server

open Texts

variable (crates : Crates)

def cellText : Value → Text
  | .null => []
  | .bool value => if value then "true".toList else "false".toList
  | .int number => integer number
  | .float number => number.display
  | .decimal text | .text text | .bytes text | .dateTime text | .unsupported text => text
  | .json document => crates.jsonText document

def compareCells : Value → Value → Ordering
  | .null, .null => .eq
  | .null, _ => .lt
  | _, .null => .gt
  | .int first, .int second => compare first second
  | .float first, .float second => (first.partialCmp second).getD .eq
  | .int first, .float second => ((F64.ofInt first).partialCmp second).getD .eq
  | .float first, .int second => (first.partialCmp (F64.ofInt second)).getD .eq
  | .bool first, .bool second => compare first second
  | first, second => compare (cellText crates first) (cellText crates second)

def matches_ (rule : FilterRule) (value : Value) : Bool :=
  let text := cellText crates value
  let needle := trim rule.value
  let cmp :=
    match F64.parse text, F64.parse needle with
    | some first, some second => (first.partialCmp second).getD .eq
    | _, _ => compare text needle
  let lower := crates.toLowercase
  match rule.op with
  | .eq => text == needle
  | .ne => text != needle
  | .gt => cmp == .gt
  | .gte => cmp != .lt
  | .lt => cmp == .lt
  | .lte => cmp != .gt
  | .contains => decide (lower needle <:+: lower text)
  | .notContains => !decide (lower needle <:+: lower text)
  | .startsWith => decide (lower needle <+: lower text)
  | .endsWith => decide (lower needle <:+ lower text)
  | .isIn => (needle.splitOn ',').any fun part => trim part == text
  | .isNull => match value with | .null => true | _ => false
  | .isNotNull => match value with | .null => false | _ => true

def hit (columns : List Text) (row : Row) (rule : FilterRule) : Bool :=
  ((columns.findIdx? (· = rule.column)).bind fun index => row[index]?).any
    (matches_ crates rule)

/-- Whether a row stays. -/
def keeps (columns : List Text) (filters : List FilterRule) (mode : FilterMode) (row : Row) :
    Bool :=
  mode.passes filters (hit crates columns row)

def applyFilters (columns : List Text) (rows : List Row) (filters : List FilterRule)
    (mode : FilterMode) : List Row :=
  if filters.isEmpty then rows else rows.filter (keeps crates columns filters mode)

/-- The sort columns that the rows have. -/
def sortKeys (columns : List Text) (sort : List SortRule) : List (Nat × Bool) :=
  sort.filterMap fun rule =>
    (columns.findIdx? (· = rule.column)).map fun index => (index, rule.desc)

def compareRows (first second : Row) : List (Nat × Bool) → Ordering
  | [] => .eq
  | (index, desc) :: rest =>
    match compareCells crates (first[index]?.getD .null) (second[index]?.getD .null) with
    | .eq => compareRows first second rest
    | order => if desc then order.swap else order

/-- The first row may stand before the second. -/
def InOrder (columns : List Text) (sort : List SortRule) (first second : Row) : Prop :=
  compareRows crates first second (sortKeys columns sort) ≠ .gt

instance (columns : List Text) (sort : List SortRule) :
    DecidableRel (InOrder crates columns sort) := fun _ _ => inferInstanceAs (Decidable (_ ≠ _))

def applySort (columns : List Text) (rows : List Row) (sort : List SortRule) : List Row :=
  if sort.isEmpty then rows else rows.insertionSort (InOrder crates columns sort)

end Server

namespace Browser

open Texts Javascript

/-- What `String.prototype.trim` takes away. -/
def isSpace (c : Char) : Bool :=
  c.toNat = 0xfeff || (Chars.isWhitespace c && c.toNat ≠ 0x85)

def trim (text : Text) : Text := (text.dropWhile isSpace).rdropWhile isSpace

/-- The digits behind `0x`, `0o` or `0b`. -/
def radixNumber (base : Nat) (digits : Text) : Option F64 :=
  let value := fun c : Char =>
    if c.isDigit then c.toNat - '0'.toNat else c.toLower.toNat - 'a'.toNat + 10
  if digits ≠ [] ∧ digits.all (fun c => c.isAlphanum && decide (value c < base)) then
    some (F64.ofInt (digits.foldl (fun sum c => base * sum + value c) 0))
  else none

/-- `Number(text)`, where it is a number at all. -/
def toNumber (text : Text) : Option F64 :=
  match trim text with
  | [] => some (F64.zero false)
  | '0' :: mark :: digits =>
    if mark.toLower = 'x' then radixNumber 16 digits
    else if mark.toLower = 'o' then radixNumber 8 digits
    else if mark.toLower = 'b' then radixNumber 2 digits
    else F64.numberOf false ('0' :: mark :: digits)
  | trimmed =>
    let (negative, body) := F64.splitSign trimmed
    if body = "Infinity".toList then some (F64.infinite negative) else F64.numberOf negative body

def numberOf (text : Text) : Option F64 :=
  if trim text = [] then none else (toNumber text).filter F64.isFinite

/-- The UTF-16 code units of a text, by which JavaScript orders texts. -/
def codeUnits (text : Text) : List Nat :=
  text.flatMap fun c =>
    if c.toNat < 0x10000 then [c.toNat]
    else [0xd800 + (c.toNat - 0x10000) / 0x400, 0xdc00 + (c.toNat - 0x10000) % 0x400]

def compareText (first second : Text) : F64 :=
  match numberOf first, numberOf second with
  | some x, some y => x.sub y
  | _, _ =>
    match compare (codeUnits first) (codeUnits second) with
    | .lt => F64.ofInt (-1)
    | .gt => F64.ofInt 1
    | .eq => F64.zero false

def bytesLength (base64 : Text) : Nat :=
  let padding := if ['=', '='] <:+ base64 then 2 else if ['='] <:+ base64 then 1 else 0
  base64.length * 3 / 4 - padding

/-- The text `formatCell` shows. -/
def cellText : Value → Text
  | .null => "NULL".toList
  | .bool value => if value then "true".toList else "false".toList
  | .int number => numberToString (F64.ofInt number)
  | .float number => if number.isFinite then numberToString number else "NaN".toList
  | .decimal text | .text text | .dateTime text | .unsupported text => text
  | .bytes base64 => "0x… (".toList ++ decimal (bytesLength base64) ++ " B)".toList
  | .json document => stringify document

/-- Text a filter compares against: what the grid shows, with NULL as empty. -/
def valueText : Option Value → Text
  | none | some .null => []
  | some value => cellText value

def isNull : Option Value → Bool
  | none | some .null => true
  | some _ => false

def above (number : F64) : Bool := !number.isNan && !number.isZero && !number.negative

def below (number : F64) : Bool := !number.isNan && !number.isZero && number.negative

variable (toLowerCase : Text → Text)

def matchesRule (rule : FilterRule) (value : Option Value) : Bool :=
  let text := valueText value
  let needle := trim rule.value
  let cmp := compareText text needle
  match rule.op with
  | .eq => text == needle
  | .ne => text != needle
  | .gt => above cmp
  | .gte => above cmp || cmp.isZero
  | .lt => below cmp
  | .lte => below cmp || cmp.isZero
  | .contains => decide (toLowerCase needle <:+: toLowerCase text)
  | .notContains => !decide (toLowerCase needle <:+: toLowerCase text)
  | .startsWith => decide (toLowerCase needle <+: toLowerCase text)
  | .endsWith => decide (toLowerCase needle <:+ toLowerCase text)
  | .isIn => (needle.splitOn ',').any fun part => trim part == text
  | .isNull => isNull value
  | .isNotNull => !isNull value

/-- A number of the grid as JavaScript has it. -/
def asNumber : Value → Option F64
  | .int number => some (F64.ofInt number)
  | .float number => some number
  | _ => none

def fromBool (value : Bool) : F64 := F64.ofInt (if value then 1 else 0)

/-- Orders two cells: NULL first, numbers and booleans by value, the rest by text. -/
def compareValues (first second : Option Value) : F64 :=
  if isNull first || isNull second then
    if isNull first == isNull second then F64.zero false
    else if isNull first then F64.ofInt (-1) else F64.ofInt 1
  else
    match first.bind asNumber, second.bind asNumber with
    | some x, some y => x.sub y
    | _, _ =>
      match first, second with
      | some (.bool x), some (.bool y) => (fromBool x).sub (fromBool y)
      | some (.decimal x), some (.decimal y) => compareText x y
      | _, _ => compareText (valueText first) (valueText second)

structure RowView where
  search : Text
  filters : List FilterRule
  mode : FilterMode
  sort : List SortRule

def hit (columns : List Text) (row : Row) (rule : FilterRule) : Bool :=
  (columns.findIdx? (· = rule.column)).any fun index => matchesRule toLowerCase rule row[index]?

/-- Whether a row passes the rules and the quick search. -/
def keeps (columns : List Text) (view : RowView) (row : Row) : Bool :=
  let needle := toLowerCase (trim view.search)
  (view.filters.isEmpty || view.mode.passes view.filters (hit toLowerCase columns row)) &&
    (needle.isEmpty || row.any fun value => decide (needle <:+: toLowerCase (valueText (some value))))

def sortKeys (columns : List Text) (sort : List SortRule) : List (Nat × Bool) :=
  sort.filterMap fun rule =>
    (columns.findIdx? (· = rule.column)).map fun index => (index, rule.desc)

/-- The comparison of two rows by the sort keys; zero where no key tells them apart. -/
def compareRows (first second : Row) : List (Nat × Bool) → F64
  | [] => F64.zero false
  | (index, desc) :: rest =>
    let c := compareValues first[index]? second[index]?
    if c.isZero then compareRows first second rest else if desc then c.neg else c

/-- The first row may stand before the second, as far as the sort keys go. -/
def InOrder (columns : List Text) (sort : List SortRule) (first second : Row) : Prop :=
  above (compareRows first second (sortKeys columns sort)) = false

instance (columns : List Text) (sort : List SortRule) :
    DecidableRel (InOrder columns sort) := fun _ _ => inferInstanceAs (Decidable (_ = _))

/-- The order of two places of the result, the earlier one first where the keys are equal. -/
def PlaceInOrder (columns : List Text) (rows : List Row) (sort : List SortRule)
    (first second : Nat × Nat) : Prop :=
  let c := compareRows (rows.getD first.1 []) (rows.getD second.1 []) (sortKeys columns sort)
  (if c.isZero then decide (first.2 ≤ second.2) else !above c) = true

instance (columns : List Text) (rows : List Row) (sort : List SortRule) :
    DecidableRel (PlaceInOrder columns rows sort) := fun _ _ =>
  inferInstanceAs (Decidable (_ = true))

/-- Indexes of the rows to show, in display order. -/
def viewIndexes (columns : List Text) (rows : List Row) (view : RowView) : List Nat :=
  let out := (rows.zipIdx.filter fun entry => keeps toLowerCase columns view entry.1).map (·.2)
  if (sortKeys columns view.sort).isEmpty then out
  else (out.zipIdx.insertionSort (PlaceInOrder columns rows view.sort)).map (·.1)

end Browser

end DbFree
