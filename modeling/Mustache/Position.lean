/-! # Positions in a text
A `Position` names a place in a text by line and column, both counted from one. A line ends at a
line feed and nowhere else, and a column counts characters, so the position after a stretch of text
is a fold over its characters (`Position.after`); in particular it depends only on the stretch and
not on how the stretch was cut into pieces (`Position.after_append`). -/

namespace Mustache

/-- A place in a text, counted from line one and column one. -/
structure Position where
  /-- One more than the number of line feeds before the place. -/
  line : Nat
  /-- One more than the number of characters between the last line feed and the place. -/
  column : Nat
  deriving DecidableEq, Repr

namespace Position

/-- The place before the first character of a text. -/
def start : Position := ⟨1, 1⟩

instance : Inhabited Position := ⟨start⟩

/-- The place just behind the character `c`, when `p` is the place just before it. -/
def next (p : Position) (c : Char) : Position :=
  if c = '\n' then ⟨p.line + 1, 1⟩ else ⟨p.line, p.column + 1⟩

/-- The place just behind the characters `cs`, when `p` is the place just before them. -/
def after (p : Position) (cs : List Char) : Position := cs.foldl next p

@[simp] theorem after_nil (p : Position) : p.after [] = p := rfl

@[simp] theorem after_cons (p : Position) (c : Char) (cs : List Char) :
    p.after (c :: cs) = (p.next c).after cs := rfl

@[simp] theorem after_append (p : Position) (cs ds : List Char) :
    p.after (cs ++ ds) = (p.after cs).after ds := List.foldl_append

@[simp] theorem next_newline (p : Position) : p.next '\n' = ⟨p.line + 1, 1⟩ := rfl

theorem next_of_ne (p : Position) {c : Char} (h : c ≠ '\n') :
    p.next c = ⟨p.line, p.column + 1⟩ := if_neg h

/-- A stretch without line feeds moves the column only. -/
theorem after_of_not_mem (p : Position) {cs : List Char} (h : '\n' ∉ cs) :
    p.after cs = ⟨p.line, p.column + cs.length⟩ := by
  induction cs generalizing p with
  | nil => rfl
  | cons c cs ih =>
    rw [List.mem_cons, not_or] at h
    rw [after_cons, next_of_ne p (Ne.symm h.1), ih _ h.2, List.length_cons]
    simp only [Position.mk.injEq, true_and]
    omega

/-- The written form of a place: line and column with a colon between them. -/
def text (p : Position) : String := s!"{p.line}:{p.column}"

end Position

end Mustache
