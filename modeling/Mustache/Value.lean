/-! # Values
A template is rendered with values: a closed set of shapes into which all data is brought first.
Maps are lists of entries in no particular order, one for each key; `Entries.put` adds one and
`Value.ofEntries` adds many. Where an order is needed, entries are kept ascending by key
(`Entries.insert`) or brought into that order (`Entries.sorted`). Maps and records have named
members (`Value.get?`), lists have items (`Value.asList?`), and every value counts as true or false
(`Value.isTruthy`). -/

namespace Mustache

/-! ## Entries -/

/-- Names with what they stand for. -/
abbrev Entries (α : Type) : Type := List (String × α)

namespace Entries

variable {α : Type}

/-- What the first entry with this key holds. -/
def get? (entries : Entries α) (key : String) : Option α := List.lookup key entries

@[simp] theorem get?_nil (key : String) : get? ([] : Entries α) key = none := rfl

theorem get?_cons (k : String) (a : α) (entries : Entries α) (key : String) :
    get? ((k, a) :: entries) key = if key = k then some a else get? entries key := by
  by_cases h : key = k
  · subst h
    simp [get?]
  · simp [get?, List.lookup_cons, beq_eq_false_iff_ne.2 h, h]

/-- Puts an entry in its place among entries with ascending keys, instead of one with the same
key. -/
def insert (key : String) (a : α) : Entries α → Entries α
  | [] => [(key, a)]
  | (k, b) :: entries =>
    if key < k then (key, a) :: (k, b) :: entries
    else if key = k then (key, a) :: entries
    else (k, b) :: insert key a entries

/-- After an insertion the key stands for what was inserted, and all other keys for what they stood
for before. -/
theorem get?_insert (key : String) (a : α) (entries : Entries α) (k : String) :
    get? (insert key a entries) k = if k = key then some a else get? entries k := by
  induction entries with
  | nil => simp [insert, get?_cons]
  | cons e entries ih =>
    obtain ⟨k', b⟩ := e
    unfold insert
    split
    · simp [get?_cons]
    · split
      · rename_i h
        subst h
        by_cases hk : k = key <;> simp [get?_cons, hk]
      · rename_i h
        rw [get?_cons, ih, get?_cons]
        by_cases hk : k = k'
        · subst hk
          simp [Ne.symm h]
        · simp [hk]

/-- Takes all entries with the given key away. -/
def erase (key : String) (entries : Entries α) : Entries α :=
  entries.filter fun (k, _) => k != key

/-- After an erasure the key stands for nothing, and all other keys for what they stood for before.
-/
theorem get?_erase (key : String) (entries : Entries α) (k : String) :
    get? (erase key entries) k = if k = key then none else get? entries k := by
  induction entries with
  | nil => simp [erase]
  | cons e entries ih =>
    obtain ⟨k', b⟩ := e
    rw [erase] at ih ⊢
    by_cases h : k' = key
    · subst h
      rw [List.filter_cons_of_neg (by simp), ih, get?_cons]
      by_cases hk : k = k' <;> simp [hk]
    · rw [List.filter_cons_of_pos (by simpa using h), get?_cons, ih, get?_cons]
      by_cases hk : k = k'
      · subst hk
        simp [h]
      · simp [hk]

/-- Adds an entry to entries in no particular order, instead of those with the same key. -/
def put (key : String) (a : α) (entries : Entries α) : Entries α := (key, a) :: erase key entries

/-- After an addition the key stands for what was added, and all other keys for what they stood for
before. -/
theorem get?_put (key : String) (a : α) (entries : Entries α) (k : String) :
    get? (put key a entries) k = if k = key then some a else get? entries k := by
  rw [put, get?_cons, get?_erase]
  split <;> rfl

/-- The entries of a list; of equal keys the last one counts. -/
def ofList (entries : List (String × α)) : Entries α :=
  entries.foldl (fun map (key, a) => put key a map) []

/-- The entries in ascending order of their keys; of equal keys the first one counts. -/
def sorted (entries : Entries α) : Entries α :=
  entries.foldr (fun (key, a) ascending => insert key a ascending) []

/-- In order the keys stand for what they stood for before. -/
@[simp] theorem get?_sorted (entries : Entries α) (key : String) :
    get? (sorted entries) key = get? entries key := by
  induction entries with
  | nil => rfl
  | cons e entries ih =>
    obtain ⟨k, a⟩ := e
    rw [sorted, List.foldr_cons, ← sorted, get?_insert, get?_cons, ih]

end Entries

/-! ## The shapes of values -/

/-- The data of a template. -/
inductive Value where
  /-- No value. -/
  | null
  /-- A truth value. -/
  | bool (b : Bool)
  /-- A signed integer of 64 bits. -/
  | int (n : Int64)
  /-- An unsigned integer of 64 bits. -/
  | nat (n : UInt64)
  /-- A double. -/
  | float (x : Float)
  /-- A text. -/
  | str (s : String)
  /-- Bytes of any content. -/
  | bytes (b : ByteArray)
  /-- Values in a row. -/
  | list (items : List Value)
  /-- Values under keys, in no particular order. -/
  | map (entries : List (String × Value))
  /-- A named group of named values, in a fixed order. -/
  | record (name : String) (fields : List (String × Value))

namespace Value

instance : Inhabited Value := ⟨null⟩

/-- The map with the given entries; of equal keys the last one counts. -/
def ofEntries (entries : List (String × Value)) : Value := map (Entries.ofList entries)

/-! ## Members, items and truth -/

/-- The member of a map or a record called `key`. Other values have no members. -/
def get? (v : Value) (key : String) : Option Value :=
  match v with
  | map entries => Entries.get? entries key
  | record _ fields => Entries.get? fields key
  | _ => none

@[simp] theorem get?_map (entries : List (String × Value)) (key : String) :
    (map entries).get? key = Entries.get? entries key := rfl

@[simp] theorem get?_record (name : String) (fields : List (String × Value)) (key : String) :
    (record name fields).get? key = Entries.get? fields key := rfl

/-- The items of a list. -/
def asList? : Value → Option (List Value)
  | list items => some items
  | _ => none

@[simp] theorem asList?_list (items : List Value) : (list items).asList? = some items := rfl

/-- Whether a section is written for a value: zero and what is empty count as false, and a record
always counts as true. -/
def isTruthy : Value → Bool
  | null => false
  | bool b => b
  | int n => n != 0
  | nat n => n != 0
  | float x => x != 0.0
  | str s => !s.isEmpty
  | bytes b => b.size != 0
  | list items => !items.isEmpty
  | map entries => !entries.isEmpty
  | record _ _ => true

/-! ## Equality -/

mutual

/-- Whether two values are equal. Doubles are compared as numbers, so that no value with a NaN in it
equals itself, and maps without regard to the order of their entries. -/
def eq : Value → Value → Bool
  | null, null => true
  | bool a, bool b => a == b
  | int a, int b => a == b
  | nat a, nat b => a == b
  | float x, float y => x == y
  | str s, str t => s == t
  | bytes b, bytes c => b == c
  | list xs, list ys => eqItems xs ys
  | map xs, map ys => xs.length == ys.length && eqMembers xs ys
  | record n xs, record m ys => n == m && eqFields xs ys
  | _, _ => false

/-- Whether two lists of values are equal. -/
def eqItems : List Value → List Value → Bool
  | [], [] => true
  | v :: vs, w :: ws => eq v w && eqItems vs ws
  | _, _ => false

/-- Whether all entries stand among the entries of another map as well. -/
def eqMembers : List (String × Value) → List (String × Value) → Bool
  | [], _ => true
  | (k, v) :: vs, ws =>
    match Entries.get? ws k with
    | some w => eq v w && eqMembers vs ws
    | none => false

/-- Whether two lists of fields are equal. -/
def eqFields : List (String × Value) → List (String × Value) → Bool
  | [], [] => true
  | (k, v) :: vs, (l, w) :: ws => k == l && eq v w && eqFields vs ws
  | _, _ => false

end

instance : BEq Value := ⟨eq⟩

end Value

end Mustache
