/-! # Searching a text
Two ways to take a text apart. `cutAt` splits it at the first occurrence of a mark (`eq_of_cutAt`),
and `fields` gives its longest stretches without a separating character (`fields_append_cons`). -/

namespace Mustache.Text

/-! ## The first occurrence of a mark -/

/-- What follows `mark` in a text that begins with it. -/
def dropMark? : (mark text : List Char) → Option (List Char)
  | [], text => some text
  | _ :: _, [] => none
  | m :: mark, c :: text => if m = c then dropMark? mark text else none

/-- The text begins with the mark and goes on with what is left exactly when the two make it up. -/
theorem dropMark?_eq_some_iff {mark text rest : List Char} :
    dropMark? mark text = some rest ↔ text = mark ++ rest := by
  induction mark generalizing text with
  | nil => simp [dropMark?]
  | cons m mark ih =>
    cases text with
    | nil => simp [dropMark?]
    | cons c text =>
      by_cases h : m = c
      · simp [dropMark?, h, ih]
      · simp [dropMark?, h, Ne.symm h]

theorem dropMark?_append (mark rest : List Char) : dropMark? mark (mark ++ rest) = some rest :=
  dropMark?_eq_some_iff.2 rfl

/-- The text before the first occurrence of `mark`, and the text behind that occurrence. -/
def cutAt (mark : List Char) : (text : List Char) → Option (List Char × List Char)
  | [] => (dropMark? mark []).map fun rest => ([], rest)
  | c :: text =>
    match dropMark? mark (c :: text) with
    | some rest => some ([], rest)
    | none => (cutAt mark text).map fun (before, rest) => (c :: before, rest)

/-- A cut takes nothing away but the mark. -/
theorem eq_of_cutAt {mark text before rest : List Char}
    (h : cutAt mark text = some (before, rest)) : text = before ++ mark ++ rest := by
  induction text generalizing before with
  | nil =>
    rw [cutAt, Option.map_eq_some_iff] at h
    obtain ⟨_, h, hr⟩ := h
    cases hr
    exact dropMark?_eq_some_iff.1 h
  | cons c text ih =>
    rw [cutAt] at h
    split at h
    · rename_i hd
      cases h
      exact dropMark?_eq_some_iff.1 hd
    · rw [Option.map_eq_some_iff] at h
      obtain ⟨⟨b, r⟩, h, hr⟩ := h
      cases hr
      rw [ih h]
      rfl

/-! ## Fields -/

/-- The fields of a text: its longest nonempty stretches of characters for which `isSep` fails, in
order. -/
def fields (isSep : Char → Bool) (text : List Char) : List (List Char) :=
  (text.splitOnP isSep).filter fun field => !field.isEmpty

@[simp] theorem fields_nil (isSep : Char → Bool) : fields isSep [] = [] := by
  simp [fields]

/-- No field is empty. -/
theorem ne_nil_of_mem_fields {isSep : Char → Bool} {text field : List Char}
    (h : field ∈ fields isSep text) : field ≠ [] := by
  simpa using (List.mem_filter.1 h).2

/-- A text without separators is its own only field, if it is not empty. -/
theorem fields_of_forall_not {isSep : Char → Bool} {text : List Char} (hne : text ≠ [])
    (h : ∀ c ∈ text, isSep c = false) : fields isSep text = [text] := by
  simp [fields, List.splitOnP_eq_singleton h, hne]

/-- A separator ends a field: what stands on its two sides is taken apart separately. -/
theorem fields_append_cons {isSep : Char → Bool} (before rest : List Char) {c : Char}
    (h : isSep c = true) :
    fields isSep (before ++ c :: rest) = fields isSep before ++ fields isSep rest := by
  simp [fields, List.splitOnP_append_cons before rest h]

end Mustache.Text
