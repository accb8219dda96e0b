import DbFree.SqlText

/- JavaScript's spelling of numbers, and `JSON.stringify` of plain data. -/
namespace DbFree.Javascript

open SqlText

/-- `Number::toString` in base ten. -/
def numberToString (number : F64) : Text :=
  let sign := if number.negative then ['-'] else []
  if number.isNan then "NaN".toList
  else if !number.isFinite then sign ++ "Infinity".toList
  else if number.isZero then ['0']
  else
    let (digits, exponent) := number.shortest
    let point := (decimal digits).length + exponent
    if -6 < point ∧ point ≤ 21 then sign ++ F64.plain digits exponent
    else
      let spelled := (decimal digits).rdropWhile (· == '0')
      let mantissa := if spelled.length = 1 then spelled else spelled.take 1 ++ '.' :: spelled.drop 1
      let mark := if point - 1 < 0 then '-' else '+'
      sign ++ mantissa ++ 'e' :: mark :: decimal (point - 1).natAbs

/-- A character of a JSON string. -/
def quotedChar (c : Char) : Text :=
  if c = '"' then ['\\', '"']
  else if c = '\\' then ['\\', '\\']
  else if c = '\n' then ['\\', 'n']
  else if c = '\r' then ['\\', 'r']
  else if c = '\t' then ['\\', 't']
  else if c.toNat = 0x08 then ['\\', 'b']
  else if c.toNat = 0x0c then ['\\', 'f']
  else if c.toNat < 0x20 then "\\u00".toList ++ hexByte (UInt8.ofNat c.toNat)
  else [c]

def quoteJson (text : Text) : Text := '"' :: text.flatMap quotedChar ++ ['"']

/-- A number that is not finite has no JSON. -/
def numberJson (number : F64) : Text :=
  if number.isFinite then numberToString number else "null".toList

mutual

/-- `JSON.stringify`. Every number of JavaScript is a double. -/
def stringify : Json → Text
  | .null => "null".toList
  | .bool value => if value then "true".toList else "false".toList
  | .number (.whole number) => numberJson (F64.ofInt number)
  | .number (.float number) => numberJson number
  | .string text => quoteJson text
  | .array items => '[' :: join [','] (stringifyItems items) ++ [']']
  | .object fields => '\x7b' :: join [','] (stringifyFields fields) ++ ['\x7d']

def stringifyItems : List Json → List Text
  | [] => []
  | item :: rest => stringify item :: stringifyItems rest

def stringifyFields : List (Text × Json) → List Text
  | [] => []
  | field :: rest => stringifyField field :: stringifyFields rest

def stringifyField : Text × Json → Text
  | (name, item) => quoteJson name ++ ':' :: stringify item

end

/-- A cell as the front end holds it. -/
def valueJson : Value → Json
  | .null => .object [("t".toList, .string "null".toList)]
  | .bool value => tagged "bool" (.bool value)
  | .int number => tagged "int" (.number (.whole number))
  | .float number => tagged "float" (.number (.float number))
  | .decimal text => tagged "decimal" (.string text)
  | .text text => tagged "text" (.string text)
  | .bytes base64 => tagged "bytes" (.string base64)
  | .json document => tagged "json" document
  | .dateTime text => tagged "date_time" (.string text)
  | .unsupported text => tagged "unsupported" (.string text)
where
  tagged (tag : String) (value : Json) : Json :=
    .object [("t".toList, .string tag.toList), ("v".toList, value)]

example : stringify (valueJson (.int 42)) = "\x7b\"t\":\"int\",\"v\":42\x7d".toList := by
  decide +kernel


end DbFree.Javascript
