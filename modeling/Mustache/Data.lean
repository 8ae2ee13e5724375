import Mustache.Value.Text

/-! # Data of a host program
A host program describes its data by shapes of its own, which `Value.ofData` brings into the closed
set of values: integers of any width become one of two kinds, wrappers vanish, and a map, which the
host describes by single keys and single values, gets its entries under the texts of its keys. Not
every description has a value; a `ValueFault` says why not. -/

namespace Mustache

/-! ## Shapes -/

/-- A part of the description of a map. -/
inductive MapPart (α : Type) where
  /-- The key for the next value. -/
  | key (a : α)
  /-- The value for the latest key. -/
  | value (a : α)
  deriving Repr

/-- The data of a host program. -/
inductive Data where
  /-- Nothing, or a type with a single value. -/
  | unit
  /-- A truth value. -/
  | bool (b : Bool)
  /-- A signed integer of at most 64 bits. -/
  | signed (n : Int64)
  /-- An unsigned integer of at most 64 bits. -/
  | unsigned (n : UInt64)
  /-- An integer of 128 bits, signed or not. -/
  | wide (isSigned : Bool)
  /-- A floating-point number. -/
  | float (x : Float)
  /-- A text, a character or the name of a case without data. -/
  | text (s : String)
  /-- Bytes. -/
  | bytes (b : ByteArray)
  /-- A thin wrapper around other data. -/
  | wrapped (d : Data)
  /-- Data in a row. -/
  | sequence (items : List Data)
  /-- A map, described part by part. -/
  | map (parts : List (MapPart Data))
  /-- A named group of named data. -/
  | record (name : String) (fields : List (String × Data))
  /-- Data that the host program fails to describe, with its message. -/
  | failing (message : String)

namespace Data

instance : Inhabited Data := ⟨unit⟩

/-- The map with the given entries, each described by its key and then its value. -/
def ofEntries (entries : List (Data × Data)) : Data :=
  map (entries.flatMap fun (k, d) => [.key k, .value d])

end Data

/-! ## Faults -/

/-- The reasons for which data or output has no value. -/
inductive ValueFault where
  /-- The key of a map is neither a text nor a truth value nor an integer. -/
  | keyShape (key : Value)
  /-- A map has a value without a key before it. -/
  | missingKey
  /-- An integer of 128 bits, signed or not. -/
  | wideInteger (isSigned : Bool)
  /-- A message of the host program. -/
  | reported (message : String)
  /-- Output that should be text is not. -/
  | notText (fault : Utf8.Fault)

/-- The message of a fault. -/
def ValueFault.message : ValueFault → String
  | keyShape key => "map key must be a string or scalar, got " ++ key.describe
  | missingKey => "missing key for map value"
  | wideInteger true => "i128 is not supported"
  | wideInteger false => "u128 is not supported"
  | reported message => message
  | notText fault => fault.message

/-! ## Values of data -/

namespace Value

/-- The key under which a map holds what the host program put under `key`: its text, if it is a
text, a truth value or an integer. -/
def keyText (key : Value) : Except ValueFault String :=
  match key with
  | str s => .ok s
  | bool _ | int _ | nat _ => .ok key.text
  | _ => .error (.keyShape key)

mutual

/-- The value of some data. -/
def ofData : Data → Except ValueFault Value
  | .unit => .ok null
  | .bool b => .ok (bool b)
  | .signed n => .ok (int n)
  | .unsigned n => .ok (nat n)
  | .wide isSigned => .error (.wideInteger isSigned)
  | .float x => .ok (float x)
  | .text s => .ok (str s)
  | .bytes b => .ok (bytes b)
  | .wrapped d => ofData d
  | .sequence items => (ofItems items).map list
  | .map parts => (ofParts none [] parts).map map
  | .record name fields => (ofFields fields).map (record name)
  | .failing message => .error (.reported message)

/-- The values of data in a row. -/
def ofItems : List Data → Except ValueFault (List Value)
  | [] => .ok []
  | d :: ds => do
    let v ← ofData d
    let vs ← ofItems ds
    return v :: vs

/-- The entries of a map after the remaining parts of its description, when `entries` came before
them and `pending` is the latest key without a value. -/
def ofParts (pending : Option String) (entries : Entries Value) :
    List (MapPart Data) → Except ValueFault (Entries Value)
  | [] => .ok entries
  | .key d :: parts => do
    let v ← ofData d
    let key ← v.keyText
    ofParts (some key) entries parts
  | .value d :: parts => do
    let v ← ofData d
    match pending with
    | some key => ofParts none (entries.put key v) parts
    | none => throw .missingKey

/-- The values of the fields of a record. -/
def ofFields : List (String × Data) → Except ValueFault (List (String × Value))
  | [] => .ok []
  | (name, d) :: fields => do
    let v ← ofData d
    let rest ← ofFields fields
    return (name, v) :: rest

end

end Value

end Mustache
