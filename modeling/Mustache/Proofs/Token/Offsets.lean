import Mustache.Proofs.Text.Occurrence
import Mustache.Proofs.Text.Slice
import Mustache.Token.Cursor

/-! # What a cursor cuts out of a template
A cursor that has read one text and has another one ahead (`Cursor.HasRead`) finds what it asks for:
the text ahead, the offset of a mark, the text of a token and its place. The place comes from the
count of lines, which is right behind all that it has counted (`LineCount.UpTo.place`). -/

namespace Mustache

open Text

/-! ## Lines -/

namespace LineCount

variable {l : LineCount} {text before : List Char}

/-- **A count is right behind a text**: the text is made of full lines, which lead to the line of
the count and to where it begins, and of a part of this line. -/
def Counts (l : LineCount) (text : List Char) : Prop :=
  ∃ lines line, text = lines ++ line ∧ '\n' ∉ line ∧ Position.behind lines = ⟨l.line, 1⟩ ∧
    byteLength lines = l.lineStart ∧ byteLength text = l.counted

/-- A count that is right has reached the end of the text. -/
theorem Counts.byteLength_eq (h : l.Counts text) : byteLength text = l.counted := by
  obtain ⟨_, _, _, _, _, _, hcounted⟩ := h
  exact hcounted

/-- A count that is right has the line of the place behind the text. -/
theorem Counts.behind_eq (h : l.Counts text) : ∃ lines line, text = lines ++ line ∧
    byteLength lines = l.lineStart ∧ Position.behind text = ⟨l.line, line.length + 1⟩ := by
  obtain ⟨lines, line, rfl, hline, hlines, hstart, -⟩ := h
  refine ⟨lines, line, rfl, hstart, ?_⟩
  rw [Position.behind_append, hlines, Position.after_of_not_mem _ hline, Nat.add_comm 1]

/-- One more character keeps a count right. -/
theorem Counts.next (h : l.Counts text) (c : Char) : (l.next c).Counts (text ++ [c]) := by
  obtain ⟨lines, line, rfl, hline, hlines, hstart, hcounted⟩ := h
  have hbytes : byteLength (lines ++ line ++ [c]) = l.counted + c.utf8Size := by
    rw [byteLength_append, hcounted]
    simp
  unfold LineCount.next
  split
  · -- a new line begins behind a line feed
    rename_i hc
    subst hc
    refine ⟨lines ++ line ++ ['\n'], [], by simp, by simp, ?_, hbytes, hbytes⟩
    rw [Position.behind_append, Position.behind_append, hlines,
      Position.after_of_not_mem _ hline]
    rfl
  · rename_i hc
    refine ⟨lines, line ++ [c], by simp, ?_, hlines, hstart, hbytes⟩
    simp [hline, Ne.symm hc]

/-- Any more text keeps a count right. -/
theorem Counts.foldl (h : l.Counts before) (passed : List Char) :
    (passed.foldl LineCount.next l).Counts (before ++ passed) := by
  induction passed generalizing l before with
  | nil => simpa using h
  | cons c passed ih =>
    have hnext := ih (h.next c)
    rwa [List.append_assoc, List.singleton_append] at hnext

/-- **A count that has not passed** the place behind a text is right behind some beginning of it. -/
def UpTo (l : LineCount) (text : List Char) : Prop := ∃ before, before <+: text ∧ l.Counts before

/-- Nothing has been counted at the start. -/
theorem upTo_nil : UpTo {} [] := ⟨[], List.prefix_rfl, [], [], rfl, by simp, rfl, rfl, rfl⟩

theorem UpTo.append (h : l.UpTo text) (more : List Char) : l.UpTo (text ++ more) := by
  obtain ⟨before, hprefix, h⟩ := h
  exact ⟨before, hprefix.trans (List.prefix_append text more), h⟩

/-- **The place at an offset** that has not been passed is the one behind the text before it. -/
theorem UpTo.place (h : l.UpTo text) (behind : List Char) :
    ∃ l', l'.UpTo text ∧
      l.place (text ++ behind) (byteLength text) = some (Position.behind text, l') := by
  obtain ⟨before, ⟨passed, hpassed⟩, h⟩ := h
  have htext := h.foldl passed
  rw [hpassed] at htext
  refine ⟨passed.foldl LineCount.next l, ⟨text, List.prefix_rfl, htext⟩, ?_⟩
  have hcounted : byteLength before = l.counted := h.byteLength_eq
  have hmax : max (byteLength text) l.counted = byteLength text := by
    rw [← hpassed, ← hcounted, byteLength_append]
    omega
  have hslice : slice? l.counted (byteLength text) (text ++ behind) = some passed :=
    slice?_eq_some_iff.2 ⟨before, behind, by rw [hpassed], hcounted, by rw [hpassed]⟩
  obtain ⟨lines, line, heq, hstart, hplace⟩ := htext.behind_eq
  have hline : slice? (passed.foldl LineCount.next l).lineStart (byteLength text)
      (text ++ behind) = some line :=
    slice?_eq_some_iff.2 ⟨lines, behind, by rw [heq], hstart, by rw [heq]⟩
  rw [hplace]
  simp only [LineCount.place, hmax, hslice, hline, Option.bind_eq_bind, Option.bind_some,
    Option.pure_def]

end LineCount

namespace Cursor

/-! ## Reading -/

/-- **A cursor has read** the one text, and the other one is left. -/
structure HasRead (k : Cursor) (before ahead : List Char) : Prop where
  /-- The two make up the template. -/
  source : k.source = before ++ ahead
  /-- The offset of the cursor lies between them. -/
  pos : k.pos = byteLength before

section Reading

variable {k : Cursor} {d : Delimiters} {before ahead : List Char}

theorem HasRead.rest (h : k.HasRead before ahead) : k.rest = some ahead := by
  unfold Cursor.rest
  exact slice?_eq_some_iff.2 ⟨before, [], by rw [h.source, List.append_nil], h.pos.symm, by
    rw [h.source]⟩

theorem HasRead.peek (h : k.HasRead before ahead) : k.peek = some ahead.head? := by
  rw [Cursor.peek, h.rest]
  rfl

/-- Whether a mark comes next is the same question as what follows it. -/
theorem isPrefixOf_eq_isSome_dropMark? (mark text : List Char) :
    mark.isPrefixOf text = (dropMark? mark text).isSome := by
  rw [Bool.eq_iff_iff, List.isPrefixOf_iff_prefix, ← not_iff_not, ← dropMark?_eq_none_iff]
  simp

theorem HasRead.atClose (h : k.HasRead before ahead) (hclosing : k.closing = d.closing) :
    k.atClose = some (d.dropClosing? ahead).isSome := by
  rw [Cursor.atClose, h.rest, Option.map_some, isPrefixOf_eq_isSome_dropMark?, hclosing]
  rfl

theorem HasRead.atRawClose (h : k.HasRead before ahead) (hclosing : k.closing = d.closing) :
    k.atRawClose = some (d.dropRawClosing? ahead).isSome := by
  rw [Cursor.atRawClose, h.rest, hclosing]
  cases ahead with
  | nil => rfl
  | cons c ahead =>
    by_cases hc : '\x7d' = c
    · -- behind the brace the question is the one of the closing delimiter
      subst hc
      have hslice : slice? 1 (byteLength ('\x7d' :: ahead)) ('\x7d' :: ahead) = some ahead :=
        slice?_eq_some_iff.2 ⟨['\x7d'], [], by simp, rfl, rfl⟩
      simp only [Option.bind_eq_bind, Option.bind_some, hslice, isPrefixOf_eq_isSome_dropMark?]
      simp [Delimiters.dropRawClosing?, dropMark?]
    · simp [Delimiters.dropRawClosing?, dropMark?, hc]

theorem HasRead.find (h : k.HasRead before ahead) (mark : List Char) :
    k.find mark = some ((cutAt mark ahead).map fun cut => byteLength cut.1) := by
  rw [Cursor.find, h.rest]
  rfl

end Reading

/-! ## Tokens -/

section Tokens

variable {k : Cursor} {before text behind : List Char}

/-- **A token** has the text that has been read since the last one, and the place before it. -/
theorem emit_eq (kind : Token.Kind) (hsource : k.source = before ++ text ++ behind)
    (hstart : k.start = byteLength before) (hpos : k.pos = byteLength (before ++ text))
    (hl : k.lines.UpTo before) : ∃ l, l.UpTo before ∧
      let token : Token := ⟨kind, String.ofList text, Position.behind before⟩
      k.emit kind = some { k with
        pending := k.pending ++ [token], last := if kind.isTerminal then some token else k.last,
        start := k.pos, lines := l } := by
  obtain ⟨l, hl', hplace⟩ := hl.place (text ++ behind)
  have htext : slice? k.start k.pos k.source = some text :=
    slice?_eq_some_iff.2 ⟨before, behind, hsource, hstart.symm, hpos.symm⟩
  rw [← List.append_assoc, ← hsource, ← hstart] at hplace
  refine ⟨l, hl', ?_⟩
  simp only [emit, hplace, htext, Option.bind_eq_bind, Option.bind_some, Option.pure_def]

/-- **An error** has the place behind what has been read. -/
theorem fail_eq (message : String) (hk : k.HasRead before behind) (hl : k.lines.UpTo before) :
    ∃ l, let token : Token := ⟨.error, message, Position.behind before⟩
      k.fail message = some { k with
        pending := k.pending ++ [token], last := some token, lines := l, mode := .done } := by
  obtain ⟨l, -, hplace⟩ := hl.place behind
  rw [← hk.source, ← hk.pos] at hplace
  refine ⟨l, ?_⟩
  simp only [fail, hplace, Option.bind_eq_bind, Option.bind_some, Option.pure_def]

end Tokens

end Cursor

end Mustache
