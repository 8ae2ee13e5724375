import Mustache.Data

/-! # JSON values
The data for a template may come as JSON text. Its numbers are integers of 64 bits where they fit
and doubles otherwise. -/

namespace Mustache

/-- A JSON value. -/
inductive Json where
  /-- The value `null`. -/
  | null
  /-- A truth value. -/
  | bool (b : Bool)
  /-- An integer from zero up. -/
  | natural (n : UInt64)
  /-- An integer below zero. -/
  | negative (n : Int64)
  /-- Any other number. -/
  | double (x : Float)
  /-- A text. -/
  | text (s : String)
  /-- Values in a row. -/
  | array (items : List Json)
  /-- Values under keys; of equal keys the last one counts. -/
  | object (members : List (String × Json))

namespace Json

mutual

/-- The data that a JSON value describes. -/
def toData : Json → Data
  | null => .unit
  | bool b => .bool b
  | natural n => .unsigned n
  | negative n => .signed n
  | double x => .float x
  | text s => .text s
  | array items => .sequence (itemData items)
  | object members => .ofEntries (memberData members)

/-- The data of values in a row. -/
def itemData : List Json → List Data
  | [] => []
  | j :: js => toData j :: itemData js

/-- The data of the members of an object: texts as keys, and values. -/
def memberData : List (String × Json) → List (Data × Data)
  | [] => []
  | (key, j) :: members => (.text key, toData j) :: memberData members

end

end Json

end Mustache
