import Mathlib.Data.List.Induction
import Mustache.Position
import Mustache.Text.Bytes

/-! # Slices of a text
A `Slice` of a text is what stands between two offsets in bytes, and what `slice?` cuts out there
(`slice?_eq_some_iff`). An offset of a slice lies between two characters, and no two places between
characters have the same offset (`eq_of_byteLength_eq`), so slices that touch make up one slice
(`Slice.append`). The place at an offset is counted from the text before it (`Position.behind`). -/

namespace Mustache

namespace Text

variable {source text text' : List Char} {start middle stop : Nat}

/-! ## Bytes -/

/-- The bytes of a text are those of the string with its characters. -/
theorem byteLength_toList (s : String) : byteLength s.toList = s.utf8ByteSize := by
  suffices h : ∀ text, byteLength text = (String.ofList text).utf8ByteSize by
    rw [h, String.ofList_toList]
  intro text
  induction text with
  | nil => rfl
  | cons c text ih =>
    rw [byteLength_cons, ih, String.ofList_cons, String.utf8ByteSize_append,
      String.utf8ByteSize_singleton]

/-- **An offset tells the place**: two beginnings of a text with as many bytes are the same. -/
theorem eq_of_byteLength_eq {before before' behind behind' : List Char}
    (h : before ++ behind = before' ++ behind')
    (hlen : byteLength before = byteLength before') : before = before' := by
  -- the text is split at this offset, which gives both of them
  have hsplit := splitAtByte?_append before behind
  rw [h, hlen, splitAtByte?_append] at hsplit
  cases hsplit
  rfl

/-! ## Slices -/

/-- **A slice**: between these two offsets the source has this text, and both offsets lie between
characters. -/
def Slice (source : List Char) (start stop : Nat) (text : List Char) : Prop :=
  ∃ before behind, source = before ++ text ++ behind ∧ byteLength before = start ∧
    byteLength (before ++ text) = stop

theorem Slice.start_le_stop (h : Slice source start stop text) : start ≤ stop := by
  obtain ⟨before, behind, -, rfl, rfl⟩ := h
  rw [byteLength_append]
  omega

/-- **What is cut out of a text** between two offsets is the slice there; without one nothing is. -/
theorem slice?_eq_some_iff :
    slice? start stop source = some text ↔ Slice source start stop text := by
  constructor
  · intro h
    unfold slice? at h
    split at h
    · rename_i hle
      obtain ⟨⟨before, behind⟩, hstart, h⟩ := Option.bind_eq_some_iff.1 h
      obtain ⟨⟨text', behind'⟩, hstop, h⟩ := Option.bind_eq_some_iff.1 h
      cases h
      obtain ⟨rfl, rfl⟩ := eq_of_splitAtByte? hstart
      obtain ⟨rfl, hlength⟩ := eq_of_splitAtByte? hstop
      refine ⟨before, behind', (List.append_assoc ..).symm, rfl, ?_⟩
      rw [byteLength_append, hlength]
      omega
    · cases h
  · rintro ⟨before, behind, rfl, rfl, rfl⟩
    have hlength : byteLength (before ++ text) - byteLength before = byteLength text := by
      rw [byteLength_append, Nat.add_sub_cancel_left]
    rw [slice?, if_pos (by simp), List.append_assoc, splitAtByte?_append, hlength]
    simp [splitAtByte?_append]

/-- Slices that touch make up one slice. -/
theorem Slice.append (h : Slice source start middle text) (h' : Slice source middle stop text') :
    Slice source start stop (text ++ text') := by
  obtain ⟨before, behind, rfl, rfl, hmiddle⟩ := h
  obtain ⟨before', behind', heq, hmiddle', rfl⟩ := h'
  rw [List.append_assoc before'] at heq
  have hbefore : before ++ text = before' :=
    eq_of_byteLength_eq heq (hmiddle.trans hmiddle'.symm)
  subst hbefore
  refine ⟨before, behind', ?_, rfl, ?_⟩
  · rw [heq]
    simp
  · rw [List.append_assoc]

end Text

/-! ## Places -/

/-- Behind a text stands the line that its line feeds count. -/
theorem Position.line_after (p : Position) (text : List Char) :
    (p.after text).line = p.line + text.count '\n' := by
  induction text generalizing p with
  | nil => rfl
  | cons c text ih =>
    rw [after_cons, ih]
    by_cases hc : c = '\n'
    · rw [hc, next_newline, List.count_cons_self]
      exact Nat.add_right_comm p.line 1 _
    · rw [next_of_ne p hc, List.count_cons_of_ne hc]

/-- **The place behind some text is on the same line** exactly if no line feed stands in it. -/
theorem Position.after_eq_iff_not_mem (p : Position) (text : List Char) :
    p.after text = ⟨p.line, p.column + text.length⟩ ↔ '\n' ∉ text := by
  constructor
  · intro h
    have hline := congrArg Position.line h
    rw [line_after] at hline
    exact List.count_eq_zero.1 (Nat.add_eq_left.1 hline)
  · exact after_of_not_mem p

/-- Only no text at all leads back to the place before it. -/
theorem Position.after_eq_self_iff (p : Position) (text : List Char) :
    p.after text = p ↔ text = [] := by
  constructor
  · intro h
    have hline := congrArg Position.line h
    rw [line_after] at hline
    -- no line feed, so the text moves the column by its length
    have hmem := List.count_eq_zero.1 (Nat.add_eq_left.1 hline)
    have hcolumn := congrArg Position.column h
    rw [after_of_not_mem p hmem] at hcolumn
    exact List.length_eq_zero_iff.1 (Nat.add_eq_left.1 hcolumn)
  · rintro rfl
    rfl

/-- The place behind a text at the start of a template, counted from the text: its line is one more
than the number of line feeds, and its column one more than the number of characters behind the last
of these. -/
def Position.behind (text : List Char) : Position :=
  ⟨text.count '\n' + 1, (text.reverse.takeWhile (· != '\n')).length + 1⟩

/-- Going on from the start character by character leads to the place that is counted. -/
theorem Position.after_start (text : List Char) : start.after text = behind text := by
  induction text using List.reverseRecOn with
  | nil => rfl
  | append_singleton text c ih =>
    rw [after_append, ih, after_cons, after_nil]
    by_cases hc : c = '\n'
    · subst hc
      simp [behind]
    · rw [next_of_ne _ hc]
      have hcount : (text ++ [c]).count '\n' = text.count '\n' := by
        simp [List.count_append, hc]
      simp [behind, hcount, hc]

/-- Behind more text the place is counted on from the place before it. -/
theorem Position.behind_append (text text' : List Char) :
    behind (text ++ text') = (behind text).after text' := by
  rw [← after_start, ← after_start, after_append]

/-- Behind one more character stands the next place. -/
theorem Position.behind_singleton (text : List Char) (c : Char) :
    behind (text ++ [c]) = (behind text).next c := behind_append text [c]

/-- **A place tells what stands before it**: two beginnings of a text with the same place behind
them are the same. -/
theorem Position.eq_of_behind_eq {source before before' : List Char} (h : before <+: source)
    (h' : before' <+: source) (hpos : behind before = behind before') : before = before' := by
  -- one of them is the other with more text, which leads to the same place
  rcases List.prefix_or_prefix_of_prefix h h' with ⟨more, rfl⟩ | ⟨more, rfl⟩
  · rw [behind_append] at hpos
    rw [(after_eq_self_iff _ more).1 hpos.symm, List.append_nil]
  · rw [behind_append] at hpos
    rw [(after_eq_self_iff _ more).1 hpos, List.append_nil]

end Mustache
