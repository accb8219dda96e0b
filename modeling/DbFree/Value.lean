import DbFree.F64

/- The cells of a result, the JSON they may hold, and what the program calls in
the crates it is built with. -/
namespace DbFree

/-- A number of a JSON document, whole where it is written so. -/
inductive JsonNumber where
  | whole (number : Int)
  | float (number : F64)
deriving DecidableEq

/-- `serde_json::Value`. An object's keys are distinct, in the order
they were written. -/
inductive Json where
  | null
  | bool (value : Bool)
  | number (value : JsonNumber)
  | string (text : Text)
  | array (items : List Json)
  | object (fields : List (Text × Json))

/-- Engine-agnostic cell value; exact numerics stay as text. -/
inductive Value where
  | null
  | bool (value : Bool)
  | int (number : Int)
  | float (number : F64)
  | decimal (text : Text)
  | text (text : Text)
  | bytes (base64 : Text)
  | json (document : Json)
  | dateTime (text : Text)
  | unsupported (text : Text)

/-- The functions of other crates, and of Rust's Unicode tables, that the model
leaves open. -/
structure Crates where
  /-- `serde_json::Value::to_string`. -/
  jsonText : Json → Text
  /-- `serde_json::to_string_pretty` of an array. -/
  jsonPretty : List Json → Text
  /-- `base64::engine::general_purpose::STANDARD.decode`. -/
  base64Decode : Text → Option (List UInt8)
  /-- `str::to_lowercase`. -/
  toLowercase : Text → Text

namespace Json

def asObject : Json → Option (List (Text × Json))
  | object fields => some fields
  | _ => none

def asArray : Json → Option (List Json)
  | array items => some items
  | _ => none

def asStr : Json → Option Text
  | string text => some text
  | _ => none

def asBool : Json → Option Bool
  | bool value => some value
  | _ => none

/-- `Value::get` with a key: nothing when the value is no object. -/
def get (document : Json) (key : String) : Option Json :=
  document.asObject.bind fun fields => fields.lookup key.toList

end Json

/-- `serde_json::from_str`. A text that a document holds is shorter than the document. -/
structure JsonReader where
  fromStr : Text → Option Json
  shorter : ∀ (text : Text) (document : Json) (key : String) (inner : Text),
    fromStr text = some document → (document.get key).bind Json.asStr = some inner →
    inner.length < text.length

end DbFree
