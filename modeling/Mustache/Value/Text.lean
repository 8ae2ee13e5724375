import Mustache.Decimal.Layout
import Mustache.Text.Quoted
import Mustache.Text.Utf8
import Mustache.Value

/-! # The text of a value
What a tag writes for a value. A text stands for itself and bytes for the text that they encode; a
composite value is written with brackets around the texts of its parts. The entries of a map have no
order of their own, so the text has them in that of their keys. -/

namespace Mustache.Value

/-- Puts commas between texts. -/
def commas (texts : List String) : String := String.intercalate ", " texts

/-- The texts of members, each behind its name and a colon. -/
def labelled (members : Entries String) : List String := members.map fun (k, t) => k ++ ": " ++ t

mutual

/-- The text of a value. -/
def text : Value → String
  | null => ""
  | bool b => if b then "true" else "false"
  | int n => Decimal.integerText n.toInt
  | nat n => Decimal.integerText n.toNat
  | float x => Decimal.Layout.plain.text x
  | str s => s
  | bytes b => Utf8.decodeLossy b
  | list items => "[" ++ commas (itemTexts items) ++ "]"
  | map entries => "\x7b" ++ commas (labelled (memberTexts entries).sorted) ++ "\x7d"
  | record name fields =>
    if fields.isEmpty then name ++ " \x7b\x7d"
    else name ++ " \x7b " ++ commas (labelled (memberTexts fields)) ++ " \x7d"

/-- The texts of the items of a list. -/
def itemTexts : List Value → List String
  | [] => []
  | v :: vs => text v :: itemTexts vs

/-- The texts of the values of members. -/
def memberTexts : List (String × Value) → Entries String
  | [] => []
  | (k, v) :: vs => (k, text v) :: memberTexts vs

end

@[simp] theorem itemTexts_eq_map (items : List Value) : itemTexts items = items.map text := by
  induction items with
  | nil => rfl
  | cons v vs ih => simp [itemTexts, ih]

@[simp] theorem memberTexts_eq_map (members : List (String × Value)) :
    memberTexts members = members.map fun (k, v) => (k, text v) := by
  induction members with
  | nil => rfl
  | cons e members ih => simp [memberTexts, ih]

/-! ## Descriptions of values -/

mutual

/-- A description of a value that also tells its shape, for messages. -/
def describe : Value → String
  | null => "Null"
  | bool b => "Bool(" ++ (if b then "true" else "false") ++ ")"
  | int n => "I64(" ++ Decimal.integerText n.toInt ++ ")"
  | nat n => "U64(" ++ Decimal.integerText n.toNat ++ ")"
  | float x => "F64(" ++ Decimal.Layout.message.text x ++ ")"
  | str s => "Str(" ++ Text.quoted s ++ ")"
  | bytes b => "Bytes([" ++ commas (b.toList.map fun x => Decimal.integerText x.toNat) ++ "])"
  | list items => "List([" ++ commas (itemDescriptions items) ++ "])"
  | map entries => "Map(\x7b" ++ commas (entryDescriptions entries) ++ "\x7d)"
  | record name fields =>
    "Record \x7b name: " ++ Text.quoted name ++ ", fields: [" ++
      commas (fieldDescriptions fields) ++ "] \x7d"

/-- The descriptions of the items of a list. -/
def itemDescriptions : List Value → List String
  | [] => []
  | v :: vs => describe v :: itemDescriptions vs

/-- The descriptions of the entries of a map, in the order in which they happen to come. -/
def entryDescriptions : List (String × Value) → List String
  | [] => []
  | (k, v) :: vs => (Text.quoted k ++ ": " ++ describe v) :: entryDescriptions vs

/-- The descriptions of the fields of a record. -/
def fieldDescriptions : List (String × Value) → List String
  | [] => []
  | (k, v) :: vs => ("(" ++ Text.quoted k ++ ", " ++ describe v ++ ")") :: fieldDescriptions vs

end

end Mustache.Value
