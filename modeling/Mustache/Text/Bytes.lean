/-! # Texts by their bytes
A text takes up so many bytes in UTF-8 (`byteLength`), and an offset into it counts bytes. At an
offset inside a character, or beyond the end, a text cannot be split (`splitAtByte?`), so a slice of
it (`slice?`) begins and ends at offsets between characters. -/

namespace Mustache.Text

/-- The number of bytes that a text takes up in UTF-8. -/
def byteLength : List Char → Nat
  | [] => 0
  | c :: text => c.utf8Size + byteLength text

@[simp] theorem byteLength_nil : byteLength [] = 0 := rfl

@[simp] theorem byteLength_cons (c : Char) (text : List Char) :
    byteLength (c :: text) = c.utf8Size + byteLength text := rfl

@[simp] theorem byteLength_append (text text' : List Char) :
    byteLength (text ++ text') = byteLength text + byteLength text' := by
  induction text with
  | nil => simp
  | cons c text ih =>
    rw [List.cons_append, byteLength_cons, byteLength_cons, ih]
    omega

/-- A text takes up a byte at least for each of its characters. -/
theorem length_le_byteLength (text : List Char) : text.length ≤ byteLength text := by
  induction text with
  | nil => exact Nat.le_refl 0
  | cons c text ih =>
    have hc := c.utf8Size_pos
    rw [List.length_cons, byteLength_cons]
    omega

/-- The texts before and behind an offset, if it lies between two characters or at either end. -/
def splitAtByte? : (offset : Nat) → (text : List Char) → Option (List Char × List Char)
  | 0, text => some ([], text)
  | _ + 1, [] => none
  | n + 1, c :: text =>
    if c.utf8Size ≤ n + 1 then
      (splitAtByte? (n + 1 - c.utf8Size) text).map fun (before, behind) => (c :: before, behind)
    else none

/-- Behind its first part a text is split into its two parts. -/
theorem splitAtByte?_append (before behind : List Char) :
    splitAtByte? (byteLength before) (before ++ behind) = some (before, behind) := by
  induction before with
  | nil => cases behind <;> rfl
  | cons c before ih =>
    -- every character takes up a byte at least
    have hc := c.utf8Size_pos
    obtain ⟨n, hn⟩ : ∃ n, byteLength (c :: before) = n + 1 :=
      ⟨byteLength (c :: before) - 1, by rw [byteLength_cons]; omega⟩
    have hrest : n + 1 - c.utf8Size = byteLength before := by
      rw [← hn, byteLength_cons, Nat.add_sub_cancel_left]
    have hle : c.utf8Size ≤ n + 1 := by
      rw [← hn, byteLength_cons]
      exact Nat.le_add_right _ _
    rw [hn, List.cons_append, splitAtByte?, if_pos hle, hrest, ih]
    rfl

/-- The two parts of a text make it up, and the first one takes up as many bytes as it should. -/
theorem eq_of_splitAtByte? {offset : Nat} {text before behind : List Char}
    (h : splitAtByte? offset text = some (before, behind)) :
    text = before ++ behind ∧ byteLength before = offset := by
  induction text generalizing offset before with
  | nil =>
    cases offset with
    | zero =>
      cases h
      exact ⟨rfl, rfl⟩
    | succ n => cases h
  | cons c text ih =>
    cases offset with
    | zero =>
      cases h
      exact ⟨rfl, rfl⟩
    | succ n =>
      rw [splitAtByte?] at h
      split at h
      · rename_i hle
        rw [Option.map_eq_some_iff] at h
        obtain ⟨⟨before', behind'⟩, h, heq⟩ := h
        cases heq
        obtain ⟨rfl, hlength⟩ := ih h
        refine ⟨rfl, ?_⟩
        rw [byteLength_cons, hlength]
        omega
      · cases h

/-- The text between two offsets, if both lie between characters and the second is not before the
first. -/
def slice? (start stop : Nat) (text : List Char) : Option (List Char) :=
  if start ≤ stop then do
    let (_, behind) ← splitAtByte? start text
    let (slice, _) ← splitAtByte? (stop - start) behind
    return slice
  else none

/-- A slice takes up the bytes between its offsets. -/
theorem add_byteLength_of_slice? {start stop : Nat} {text slice : List Char}
    (h : slice? start stop text = some slice) : start + byteLength slice = stop := by
  unfold slice? at h
  split at h
  · rename_i hle
    obtain ⟨⟨before, behind⟩, -, h⟩ := Option.bind_eq_some_iff.1 h
    obtain ⟨⟨slice', behind'⟩, hsplit, h⟩ := Option.bind_eq_some_iff.1 h
    cases h
    have hlength := (eq_of_splitAtByte? hsplit).2
    omega
  · cases h

end Mustache.Text
