import Mustache.Json

/-! # The values of JSON
Every JSON value, however deep, has a value as data for a template: no integer is too wide, and the
keys of an object are texts. `Json.value` is what `Value.ofData` makes of its description. -/

namespace Mustache

namespace Json

mutual

/-- The value of a JSON value, part by part. -/
def value : Json → Value
  | null => .null
  | bool b => .bool b
  | natural n => .nat n
  | negative n => .int n
  | double x => .float x
  | text s => .str s
  | array items => .list (itemValues items)
  | object members => .ofEntries (memberValues members)

/-- The values of JSON values in a row. -/
def itemValues : List Json → List Value
  | [] => []
  | j :: js => value j :: itemValues js

/-- The entries of an object, in the order in which they come. -/
def memberValues : List (String × Json) → List (String × Value)
  | [] => []
  | (key, j) :: members => (key, value j) :: memberValues members

end

end Json

namespace Value

/-- A key and its value add an entry. -/
theorem ofParts_text {d : Data} {v : Value} (h : ofData d = .ok v) (key : String)
    (pending : Option String) (entries : Entries Value) (parts : List (MapPart Data)) :
    ofParts pending entries (.key (.text key) :: .value d :: parts) =
      ofParts none (entries.put key v) parts := by
  rw [ofParts, ofData]
  show ofParts (some key) entries (.value d :: parts) = _
  rw [ofParts, h]
  rfl

mutual

/-- **Every JSON value has a value.** -/
theorem ofData_toData : (j : Json) → ofData j.toData = .ok j.value
  | .null | .bool _ | .natural _ | .negative _ | .double _ | .text _ => rfl
  | .array items => by
    rw [Json.toData, ofData, ofItems_itemData items]
    rfl
  | .object members => by
    -- the object is described by its parts, and begins without entries
    rw [Json.toData, Data.ofEntries, ofData, ofParts_memberData members []]
    rfl

/-- The items of an array have values. -/
theorem ofItems_itemData : (items : List Json) →
    ofItems (Json.itemData items) = .ok (Json.itemValues items)
  | [] => rfl
  | j :: js => by
    rw [Json.itemData, ofItems, ofData_toData j, ofItems_itemData js]
    rfl

/-- The members of an object are added one after the other. -/
theorem ofParts_memberData : (members : List (String × Json)) → (entries : Entries Value) →
    ofParts none entries ((Json.memberData members).flatMap fun (k, d) => [.key k, .value d]) =
      .ok ((Json.memberValues members).foldl (fun map (key, v) => map.put key v) entries)
  | [], _ => rfl
  | (key, j) :: members, entries =>
    (ofParts_text (ofData_toData j) key none entries _).trans
      (ofParts_memberData members (entries.put key j.value))

end

end Value

end Mustache
