/-! # Delimiters
A tag stands between an opening and a closing delimiter, which are texts of any length but zero. The
default pair is two braces on either side. -/

namespace Mustache

/-- The pair of texts between which a tag stands. -/
structure Delimiters where
  /-- The text that opens a tag. -/
  opening : List Char
  /-- The text that closes a tag. -/
  closing : List Char
  /-- The opening text is not empty. -/
  opening_ne_nil : opening ≠ [] := by decide
  /-- The closing text is not empty. -/
  closing_ne_nil : closing ≠ [] := by decide
  deriving DecidableEq

namespace Delimiters

/-- Two braces on either side. -/
def braces : Delimiters := { opening := ['\x7b', '\x7b'], closing := ['\x7d', '\x7d'] }

instance : Inhabited Delimiters := ⟨braces⟩

/-- The pair of two texts, unless one of them is empty. -/
def ofTexts? (opening closing : String) : Option Delimiters :=
  if h : opening.toList ≠ [] ∧ closing.toList ≠ [] then
    some ⟨opening.toList, closing.toList, h.1, h.2⟩
  else none

/-- There is no pair exactly when one of the texts is empty. -/
theorem ofTexts?_eq_none_iff {opening closing : String} :
    ofTexts? opening closing = none ↔ opening.toList = [] ∨ closing.toList = [] := by
  simp [ofTexts?, Classical.or_iff_not_imp_left]

/-- The pair of two texts has these texts. -/
theorem texts_of_ofTexts? {opening closing : String} {d : Delimiters}
    (h : ofTexts? opening closing = some d) :
    d.opening = opening.toList ∧ d.closing = closing.toList := by
  unfold ofTexts? at h
  split at h
  · cases h
    exact ⟨rfl, rfl⟩
  · cases h

@[simp] theorem length_opening_pos (d : Delimiters) : 0 < d.opening.length :=
  List.length_pos_iff.2 d.opening_ne_nil

@[simp] theorem length_closing_pos (d : Delimiters) : 0 < d.closing.length :=
  List.length_pos_iff.2 d.closing_ne_nil

end Delimiters

end Mustache
