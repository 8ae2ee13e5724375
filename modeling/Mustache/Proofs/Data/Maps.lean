import Mathlib.Data.List.DropRight
import Mustache.Data
import Mustache.Proofs.Entries
import Mustache.Proofs.FirstFault

/-! # Maps described part by part
A host program describes a map by keys and values in any order. Each part is accepted or refused by
what came before it (`MapPart.Refused`), and the first one that is refused ends the description with
its fault. If all are accepted, the map holds under each text the value of the last pair with this
text (`Value.ofData_map`): a pair is a value with the latest key before it. -/

namespace Mustache

/-! ## The texts of keys -/

/-- **The texts of keys**: a text is its own, and truth values and integers have the text that a tag
would write. -/
inductive Value.IsKeyText : Value → String → Prop where
  /-- A text. -/
  | str (s : String) : IsKeyText (.str s) s
  /-- A truth value. -/
  | bool (b : Bool) : IsKeyText (.bool b) (Value.bool b).text
  /-- A signed integer. -/
  | int (n : Int64) : IsKeyText (.int n) (Value.int n).text
  /-- An unsigned integer. -/
  | nat (n : UInt64) : IsKeyText (.nat n) (Value.nat n).text

namespace Value

theorem keyText_eq_ok_iff {v : Value} {t : String} : v.keyText = .ok t ↔ v.IsKeyText t := by
  constructor
  · intro h
    cases v <;> cases h <;> constructor
  · intro h
    cases h <;> rfl

theorem keyText_eq_error_iff {v : Value} {fault : ValueFault} :
    v.keyText = .error fault ↔ fault = .keyShape v ∧ ∀ t, ¬ v.IsKeyText t := by
  constructor
  · intro h
    have hnone : ∀ t, ¬ v.IsKeyText t := by
      intro t ht
      rw [keyText_eq_ok_iff.2 ht] at h
      cases h
    refine ⟨?_, hnone⟩
    cases v <;> cases h <;> rfl
  · rintro ⟨rfl, h⟩
    cases hv : v.keyText with
    | ok t => exact absurd (keyText_eq_ok_iff.1 hv) (h t)
    | error fault => cases v <;> cases hv <;> rfl

end Value

namespace Data

/-- The value of some data, if it has one. -/
def value? (d : Data) : Option Value := (Value.ofData d).toOption

/-- The text under which a map holds what has this key, if there is one. -/
def keyText? (d : Data) : Option String := ((Value.ofData d).bind Value.keyText).toOption

theorem value?_eq_some_iff {d : Data} {v : Value} : d.value? = some v ↔ Value.ofData d = .ok v := by
  unfold value?
  cases Value.ofData d <;> simp [Except.toOption]

theorem keyText?_eq_some_iff {d : Data} {t : String} :
    d.keyText? = some t ↔ ∃ v, Value.ofData d = .ok v ∧ v.IsKeyText t := by
  unfold keyText?
  cases Value.ofData d with
  | error fault => simp [Except.bind, Except.toOption]
  | ok v =>
    simp only [Except.bind, Except.ok.injEq, exists_eq_left', ← Value.keyText_eq_ok_iff]
    cases v.keyText <;> simp [Except.toOption]

end Data

/-! ## What a description says -/

namespace MapPart

/-- Whether a part is a key. -/
def isKey {α : Type} : MapPart α → Bool
  | key _ => true
  | value _ => false

/-- The keys behind the last value. -/
def unused (parts : List (MapPart Data)) : List (MapPart Data) := parts.rtakeWhile isKey

theorem unused_concat_key (parts : List (MapPart Data)) (k : Data) :
    unused (parts ++ [.key k]) ≠ [] := by
  rw [unused, List.rtakeWhile_concat_pos _ _ _ rfl]
  exact List.concat_ne_nil _ _

theorem unused_concat_value (parts : List (MapPart Data)) (d : Data) :
    unused (parts ++ [.value d]) = [] :=
  List.rtakeWhile_concat_neg _ _ _ Bool.false_ne_true

/-- **A part that is refused** behind some others, and why: a key without a value of its own or
without a text, and a value without a value of its own or without a key since the value before
it. -/
inductive Refused (before : List (MapPart Data)) : MapPart Data → ValueFault → Prop where
  /-- The key has no value. -/
  | keyFault {d : Data} {fault : ValueFault} (h : Value.ofData d = .error fault) :
      Refused before (.key d) fault
  /-- The key has no text. -/
  | keyShape {d : Data} {v : Value} (h : Value.ofData d = .ok v) (hv : ∀ t, ¬ v.IsKeyText t) :
      Refused before (.key d) (.keyShape v)
  /-- The value has none. -/
  | valueFault {d : Data} {fault : ValueFault} (h : Value.ofData d = .error fault) :
      Refused before (.value d) fault
  /-- There is no key for the value. -/
  | missingKey {d : Data} {v : Value} (h : Value.ofData d = .ok v) (hkey : unused before = []) :
      Refused before (.value d) .missingKey

section Refused

variable {before : List (MapPart Data)}

/-- A key with a text is not refused. -/
theorem not_refused_key {k : Data} {t : String} (h : k.keyText? = some t) (fault : ValueFault) :
    ¬ (key k).Refused before fault := by
  obtain ⟨v, hv, ht⟩ := Data.keyText?_eq_some_iff.1 h
  rintro (hv' | ⟨hv', hnone⟩)
  · cases hv.symm.trans hv'
  · cases hv.symm.trans hv'
    exact hnone t ht

/-- A value that has one, and a key, is not refused. -/
theorem not_refused_value {d : Data} {v : Value} (h : d.value? = some v) (hkey : unused before ≠ [])
    (fault : ValueFault) : ¬ (value d).Refused before fault := by
  have hv := Data.value?_eq_some_iff.1 h
  rintro (_ | _ | hv' | ⟨-, hnone⟩)
  · cases hv.symm.trans hv'
  · exact hkey hnone

/-- There is one reason only for which a part is refused. -/
theorem Refused.unique {part : MapPart Data} {fault fault' : ValueFault}
    (h : part.Refused before fault) (h' : part.Refused before fault') : fault = fault' := by
  cases h with
  | keyFault hd =>
    cases h' with
    | keyFault hd' => exact Except.error.inj (hd.symm.trans hd')
    | keyShape hd' => cases hd.symm.trans hd'
  | keyShape hd =>
    cases h' with
    | keyFault hd' => cases hd.symm.trans hd'
    | keyShape hd' => rw [Except.ok.inj (hd.symm.trans hd')]
  | valueFault hd =>
    cases h' with
    | valueFault hd' => exact Except.error.inj (hd.symm.trans hd')
    | missingKey hd' => cases hd.symm.trans hd'
  | missingKey hd =>
    cases h' with
    | valueFault hd' => cases hd.symm.trans hd'
    | missingKey => rfl

end Refused

/-- The latest key of some parts; `latest` is the one before them. -/
def latestFrom (latest : Option Data) : List (MapPart Data) → Option Data
  | [] => latest
  | .key k :: parts => latestFrom (some k) parts
  | .value _ :: parts => latestFrom latest parts

/-- The pairs of some parts: each value with the latest key before it. -/
def pairsFrom (latest : Option Data) : List (MapPart Data) → List (Data × Data)
  | [] => []
  | .key k :: parts => pairsFrom (some k) parts
  | .value d :: parts => (latest.map fun k => (k, d)).toList ++ pairsFrom latest parts

/-- **The pairs of a description**: each value with the latest key before it. -/
def pairs (parts : List (MapPart Data)) : List (Data × Data) := pairsFrom none parts

theorem latestFrom_append (latest : Option Data) (parts parts' : List (MapPart Data)) :
    latestFrom latest (parts ++ parts') = latestFrom (latestFrom latest parts) parts' := by
  induction parts generalizing latest with
  | nil => rfl
  | cons part parts ih => cases part <;> exact ih _

theorem pairsFrom_append (latest : Option Data) (parts parts' : List (MapPart Data)) :
    pairsFrom latest (parts ++ parts') =
      pairsFrom latest parts ++ pairsFrom (latestFrom latest parts) parts' := by
  induction parts generalizing latest with
  | nil => rfl
  | cons part parts ih =>
    cases part with
    | key k => exact ih _
    | value d => simp only [List.cons_append, pairsFrom, latestFrom, ih, List.append_assoc]

@[simp] theorem latestFrom_concat_key (parts : List (MapPart Data)) (k : Data) :
    latestFrom none (parts ++ [.key k]) = some k := by
  rw [latestFrom_append]
  rfl

@[simp] theorem pairs_concat_key (parts : List (MapPart Data)) (k : Data) :
    pairs (parts ++ [.key k]) = pairs parts := by
  rw [pairs, pairsFrom_append]
  exact List.append_nil _

@[simp] theorem pairs_concat_value (parts : List (MapPart Data)) (d : Data) :
    pairs (parts ++ [.value d]) =
      pairs parts ++ ((latestFrom none parts).map fun k => (k, d)).toList := by
  rw [pairs, pairsFrom_append]
  exact congrArg _ (List.append_nil _)

end MapPart

/-- What a text is bound to by pairs: the value of the last one that has it. -/
def Data.bound? (pairs : List (Data × Data)) (t : String) : Option Value :=
  (pairs.filter fun (k, _) => k.keyText? = some t).getLast?.bind fun (_, d) => d.value?

/-- One more pair binds its text, and no other. -/
theorem Data.bound?_concat {pairs : List (Data × Data)} {k d : Data} {t : String} {v : Value}
    (hk : k.keyText? = some t) (hd : d.value? = some v) (t' : String) :
    bound? (pairs ++ [(k, d)]) t' = if t' = t then some v else bound? pairs t' := by
  unfold bound?
  rw [List.filter_append]
  by_cases ht : t' = t
  · subst ht
    simp [hk, hd]
  · simp [hk, ht, Ne.symm ht]

/-! ## Taking parts in -/

/-- What is known of a map while it is described. -/
structure MapState where
  /-- The text of the latest key, if it has no value yet. -/
  pending : Option String
  /-- The entries so far. -/
  entries : Entries Value

namespace MapState

/-- Nothing is known before the first part. -/
def start : MapState := ⟨none, []⟩

/-- Takes one part in. -/
def take (s : MapState) : MapPart Data → Except ValueFault MapState
  | .key d => do
    let v ← Value.ofData d
    let key ← v.keyText
    return { s with pending := some key }
  | .value d => do
    let v ← Value.ofData d
    match s.pending with
    | some key => return ⟨none, s.entries.put key v⟩
    | none => throw .missingKey

/-- Takes parts in, as far as they are accepted. -/
def run (parts : List (MapPart Data)) : Except ValueFault MapState := parts.foldlM take start

/-- The entries of a map are found by taking its parts in. -/
theorem ofParts_eq_foldlM (s : MapState) (parts : List (MapPart Data)) :
    Value.ofParts s.pending s.entries parts = (parts.foldlM take s).map (·.entries) := by
  induction parts generalizing s with
  | nil => rfl
  | cons part parts ih =>
    rw [List.foldlM_cons]
    cases part with
    | key d =>
      rw [Value.ofParts, take]
      cases Value.ofData d with
      | error fault => rfl
      | ok v =>
        show (v.keyText >>= _) = ((v.keyText >>= _) >>= _).map _
        cases v.keyText with
        | error fault => rfl
        | ok key => exact ih ⟨some key, s.entries⟩
    | value d =>
      rw [Value.ofParts, take]
      cases Value.ofData d with
      | error fault => rfl
      | ok v =>
        cases hs : s.pending with
        | none => rfl
        | some key => exact ih ⟨none, s.entries.put key v⟩

/-- The value of a map. -/
theorem ofData_map_eq_run (parts : List (MapPart Data)) :
    Value.ofData (.map parts) = (run parts).map fun s => .map s.entries := by
  have h : Value.ofParts none [] parts = (run parts).map (·.entries) :=
    ofParts_eq_foldlM start parts
  rw [Value.ofData, h]
  cases run parts <;> rfl

theorem run_append (parts parts' : List (MapPart Data)) :
    run (parts ++ parts') = (run parts).bind fun s => parts'.foldlM take s :=
  List.foldlM_append

section Steps

variable {d : Data} {v : Value} {fault : ValueFault}

theorem take_key_of_error (h : Value.ofData d = .error fault) (s : MapState) :
    s.take (.key d) = .error fault := by
  rw [take, h]
  rfl

theorem take_key_of_ok (h : Value.ofData d = .ok v) (s : MapState) :
    s.take (.key d) = v.keyText.map fun t => ⟨some t, s.entries⟩ := by
  rw [take, h]
  show (v.keyText >>= _) = _
  cases v.keyText <;> rfl

theorem take_value_of_error (h : Value.ofData d = .error fault) (s : MapState) :
    s.take (.value d) = .error fault := by
  rw [take, h]
  rfl

theorem take_value_of_none (h : Value.ofData d = .ok v) {s : MapState} (hs : s.pending = none) :
    s.take (.value d) = .error .missingKey := by
  rw [take, h, hs]
  rfl

theorem take_value_of_some (h : Value.ofData d = .ok v) {s : MapState} {t : String}
    (hs : s.pending = some t) : s.take (.value d) = .ok ⟨none, s.entries.put t v⟩ := by
  rw [take, h, hs]
  rfl

end Steps

/-- **What is known behind some parts**: whether the last part is a key, its text, and what the
pairs so far have bound. -/
structure Knows (parts : List (MapPart Data)) (s : MapState) : Prop where
  /-- Without a pending key there is none behind the last value. -/
  unused_eq_nil (h : s.pending = none) : MapPart.unused parts = []
  /-- A pending key is the latest one, and stands behind the last value. -/
  latest {t : String} (h : s.pending = some t) :
    MapPart.unused parts ≠ [] ∧
      ∃ k, MapPart.latestFrom none parts = some k ∧ k.keyText? = some t
  /-- No two entries have the same key. -/
  distinct : s.entries.Distinct
  /-- The entries are what the pairs bind. -/
  get?_eq (t : String) : s.entries.get? t = Data.bound? (MapPart.pairs parts) t

theorem knows_start : Knows [] start where
  unused_eq_nil _ := rfl
  latest h := nomatch h
  distinct := Entries.distinct_nil
  get?_eq _ := rfl

variable {parts : List (MapPart Data)} {s s' : MapState}

/-- A key that is taken in is what is known to be pending. -/
theorem Knows.key (h : Knows parts s) {k : Data} {t : String} (hk : k.keyText? = some t) :
    Knows (parts ++ [.key k]) ⟨some t, s.entries⟩ where
  unused_eq_nil h := nomatch h
  latest {t'} ht := by
    cases ht
    exact ⟨MapPart.unused_concat_key parts k, k, MapPart.latestFrom_concat_key parts k, hk⟩
  distinct := h.distinct
  get?_eq t' := by
    rw [MapPart.pairs_concat_key]
    exact h.get?_eq t'

/-- A value that is taken in makes a pair with the latest key, whose text was pending. -/
theorem Knows.value (h : Knows parts s) {d : Data} {v : Value} {t : String}
    (hs : s.pending = some t) (hd : d.value? = some v) :
    Knows (parts ++ [.value d]) ⟨none, s.entries.put t v⟩ where
  unused_eq_nil _ := MapPart.unused_concat_value parts d
  latest h := nomatch h
  distinct := h.distinct.put t v
  get?_eq t' := by
    obtain ⟨-, k, hlatest, hk⟩ := h.latest hs
    rw [MapPart.pairs_concat_value, hlatest, Entries.get?_put, h.get?_eq]
    exact (Data.bound?_concat hk hd t').symm

/-- **The next part** is refused and ends the description with its fault, or it is not refused and
adds to what is known. -/
theorem Knows.next (h : Knows parts s) (part : MapPart Data) :
    (∃ fault, s.take part = .error fault ∧ part.Refused parts fault) ∨
      ∃ s', s.take part = .ok s' ∧ Knows (parts ++ [part]) s' ∧
        ∀ fault, ¬ part.Refused parts fault := by
  cases part with
  | key d =>
    cases hd : Value.ofData d with
    | error fault => exact .inl ⟨fault, take_key_of_error hd s, .keyFault hd⟩
    | ok v =>
      cases hv : v.keyText with
      | error fault =>
        obtain ⟨rfl, hnone⟩ := Value.keyText_eq_error_iff.1 hv
        refine .inl ⟨_, ?_, .keyShape hd hnone⟩
        rw [take_key_of_ok hd, hv]
        rfl
      | ok t =>
        have ht := Data.keyText?_eq_some_iff.2 ⟨v, hd, Value.keyText_eq_ok_iff.1 hv⟩
        refine .inr ⟨⟨some t, s.entries⟩, ?_, h.key ht, MapPart.not_refused_key ht⟩
        rw [take_key_of_ok hd, hv]
        rfl
  | value d =>
    cases hd : Value.ofData d with
    | error fault => exact .inl ⟨fault, take_value_of_error hd s, .valueFault hd⟩
    | ok v =>
      cases hs : s.pending with
      | none =>
        exact .inl ⟨_, take_value_of_none hd hs, .missingKey hd (h.unused_eq_nil hs)⟩
      | some t =>
        have hv := Data.value?_eq_some_iff.2 hd
        exact .inr ⟨_, take_value_of_some hd hs, h.value hs hv,
          MapPart.not_refused_value hv (h.latest hs).1⟩

/-- **Parts that are all accepted** are taken in. -/
theorem run_of_accepted (h : Accepted MapPart.Refused parts) :
    ∃ s, run parts = .ok s ∧ Knows parts s := by
  induction h with
  | nil => exact ⟨start, rfl, knows_start⟩
  | @concat parts part _ hpart ih =>
    obtain ⟨s, hrun, hs⟩ := ih
    rcases hs.next part with ⟨fault, -, hrefused⟩ | ⟨s', htake, hs', -⟩
    · exact absurd hrefused (hpart fault)
    · refine ⟨s', ?_, hs'⟩
      rw [run_append, hrun]
      show (s.take part >>= pure) = _
      rw [htake]
      rfl

/-- **The first part that is refused** ends the description. -/
theorem run_of_refused (h : Accepted MapPart.Refused parts) {part : MapPart Data}
    {fault : ValueFault} (hpart : part.Refused parts fault) (after : List (MapPart Data)) :
    run (parts ++ part :: after) = .error fault := by
  obtain ⟨s, hrun, hs⟩ := run_of_accepted h
  rcases hs.next part with ⟨fault', htake, hrefused⟩ | ⟨-, -, -, hnone⟩
  · rw [run_append, hrun, hpart.unique hrefused]
    show (s.take part >>= _) = _
    rw [htake]
    rfl
  · exact absurd hpart (hnone fault)

/-- A map all of whose parts are accepted has a value: under each text it holds what the pairs
bind. -/
theorem ofData_map_of_accepted (h : Accepted MapPart.Refused parts) :
    ∃ entries : Entries Value, Value.ofData (.map parts) = .ok (.map entries) ∧
      entries.Distinct ∧ ∀ t, entries.get? t = Data.bound? (MapPart.pairs parts) t := by
  obtain ⟨s, hrun, hs⟩ := run_of_accepted h
  refine ⟨s.entries, ?_, hs.distinct, hs.get?_eq⟩
  rw [ofData_map_eq_run, hrun]
  rfl

/-- A map with a part that is refused has no value. -/
theorem ofData_map_of_refused (h : Accepted MapPart.Refused parts) {part : MapPart Data}
    {fault : ValueFault} (hpart : part.Refused parts fault) (after : List (MapPart Data)) :
    Value.ofData (.map (parts ++ part :: after)) = .error fault := by
  rw [ofData_map_eq_run, run_of_refused h hpart]
  rfl

/-- A map has a value exactly if all its parts are accepted. -/
theorem exists_ofData_map_iff :
    (∃ v, Value.ofData (.map parts) = .ok v) ↔ Accepted MapPart.Refused parts := by
  constructor
  · rintro ⟨v, hv⟩
    rcases accepted_or_refused MapPart.Refused parts with
      h | ⟨before, part, after, fault, rfl, hbefore, hpart⟩
    · exact h
    · rw [ofData_map_of_refused hbefore hpart] at hv
      cases hv
  · intro h
    obtain ⟨entries, hv, -⟩ := ofData_map_of_accepted h
    exact ⟨_, hv⟩

end MapState

/-- **The value of a map that is described part by part.**

* There is none exactly if some part is refused, and then the first such part gives the fault: a key
  without a value or without a text, a value without a value of its own, or else one without a key
  since the value before it.
* If all parts are accepted, the value is the map, with distinct keys, in which each text stands for
  the value of the last pair that has it. A pair is a value with the latest key before it, so a key
  that another one replaces, or that no value follows, is in none. -/
theorem Value.ofData_map (parts : List (MapPart Data)) :
    (∀ fault, ofData (.map parts) = .error fault ↔
      ∃ before part after, parts = before ++ part :: after ∧ Accepted MapPart.Refused before ∧
        part.Refused before fault) ∧
    (Accepted MapPart.Refused parts →
      ∃ entries : Entries Value, ofData (.map parts) = .ok (.map entries) ∧ entries.Distinct ∧
        ∀ t, entries.get? t = Data.bound? (MapPart.pairs parts) t) := by
  refine ⟨fun fault => ⟨fun h => ?_, ?_⟩, MapState.ofData_map_of_accepted⟩
  · rcases accepted_or_refused MapPart.Refused parts with
      haccepted | ⟨before, part, after, fault', rfl, hbefore, hpart⟩
    · obtain ⟨v, hv⟩ := MapState.exists_ofData_map_iff.2 haccepted
      rw [hv] at h
      cases h
    · rw [MapState.ofData_map_of_refused hbefore hpart] at h
      cases h
      exact ⟨before, part, after, rfl, hbefore, hpart⟩
  · rintro ⟨before, part, after, rfl, hbefore, hpart⟩
    exact MapState.ofData_map_of_refused hbefore hpart after

example : Value.ofData (.map [.key (.signed 1), .value (.text "a"), .key (.bool true),
    .key (.text "1"), .value (.text "b"), .key (.unsigned 1), .value .unit, .key .unit]) =
    .error (.keyShape .null) := rfl

example : Value.ofData (.map [.key (.signed 1), .value (.text "a"), .key (.bool true),
    .key (.text "1"), .value (.text "b"), .key (.unsigned 1), .value .unit, .key (.bool true)]) =
    .ok (.map [("1", .null)]) := rfl

end Mustache
