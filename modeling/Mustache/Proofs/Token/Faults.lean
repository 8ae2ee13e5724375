import Mustache.Proofs.Token.Tiling

/-! # Where a scanner stops inside a tag
Inside a tag a scanner stops where the input ends, at a line feed, or at a character that can stand
nowhere in a tag (`Scanner.StopsAt`). Such a character is read before the error is placed, so the
error stands just behind it: in the next column, or at the start of the next line. It stands at the
place of the fault itself only where the input ends (`Scanner.position_of_stop`). -/

namespace Mustache

open Text

namespace Scanner

/-- **What stops a scanner inside a tag**: the text that is ahead, and what is read of it before the
error is placed. -/
inductive StopsAt (d : Delimiters) : (rest read : List Char) → ScanFault → Prop where
  /-- Nothing is ahead. -/
  | endOfInput : StopsAt d [] [] .unclosedTag
  /-- The line ends. -/
  | lineEnd {behind : List Char} (h : d.GoesOn ('\n' :: behind)) :
      StopsAt d ('\n' :: behind) ['\n'] .unclosedTag
  /-- The next character is neither blank nor a sign, and no name begins with it. -/
  | unrecognized {c : Char} {behind : List Char} (h : d.GoesOn (c :: behind))
      (hb : isTagBlank c = false) (hs : Sigil.ofChar? c = none) (hc : isNameStart c = false) :
      StopsAt d (c :: behind) [c] (.unrecognized c)

variable {d d' : Delimiters} {pos : Position} {rest read consumed : List Char}
  {source : String} {ts : List Token} {e : Token} {fault : ScanFault} {last : Terminal}

/-- Nothing is read exactly where nothing is ahead; otherwise it is the next character. -/
theorem StopsAt.read_eq (h : StopsAt d rest read fault) : read = rest.take 1 := by
  cases h <;> rfl

/-- **A move that stops inside a tag** hands out the error of its fault, behind what was read. -/
theorem exists_stopsAt_of_move (h : Move (tag d pos rest) (some e) (.finished last)) :
    ∃ read fault, StopsAt d rest read fault ∧
      e = ⟨.error, fault.message, pos.after read⟩ := by
  cases h with
  | endInTag => exact ⟨_, _, .endOfInput, rfl⟩
  | lineEnd hgo => exact ⟨_, _, .lineEnd hgo, rfl⟩
  | unrecognized hgo hb hs hc => exact ⟨_, _, .unrecognized hgo hb hs hc, rfl⟩

/-- A place is that behind what was read of the text ahead exactly if nothing is ahead. -/
theorem StopsAt.position_eq_iff (h : StopsAt d rest read fault) (consumed : List Char) :
    Position.behind (consumed ++ read) = Position.behind consumed ↔ rest = [] := by
  rw [Position.behind_append, Position.after_eq_self_iff, h.read_eq]
  simp

/-- **An error inside a tag stands behind what the scanner has read.** Whenever a scan comes to a
place in a tag and stops there, the text before this place and the text ahead are the source, and
the error is the last token. It stands behind the character at which the scanner stops, so its
position is the place of the fault exactly if the input ends there. -/
theorem position_of_stop
    (hrun : Run (ofTexts (String.ofList d.opening) (String.ofList d.closing) source) ts
      (tag d' pos rest))
    (hmove : Move (tag d' pos rest) (some e) (.finished last)) :
    (ofTexts (String.ofList d.opening) (String.ofList d.closing) source).tokens = ts ++ [e] ∧
    ∃ consumed read fault, source.toList = consumed ++ rest ∧ pos = Position.behind consumed ∧
      StopsAt d' rest read fault ∧
      e = ⟨.error, fault.message, Position.behind (consumed ++ read)⟩ ∧
      (e.pos = Position.behind consumed ↔ rest = []) := by
  obtain ⟨read, fault, hstop, rfl⟩ := exists_stopsAt_of_move hmove
  refine ⟨?_, ?_⟩
  · rw [hrun.tokens_eq, tokens_of_move_terminal hmove rfl]
  · -- a run keeps the place of the scanner behind what it has read
    rw [ofTexts_eq_text] at hrun
    have hstart : (text d Position.start source.toList).StandsBehind source.toList [] := ⟨rfl, rfl⟩
    obtain ⟨consumed, hsource, hplace⟩ := standsBehind_of_run hrun rfl hstart
    have hpos : pos = Position.behind consumed := hplace
    subst hpos
    rw [← Position.behind_append]
    exact ⟨consumed, read, fault, hsource, rfl, hstop, rfl, hstop.position_eq_iff consumed⟩

/-- Behind a letter with an accent, a tag and a name, a scan stops at an asterisk in the seventh
column, and the error stands in the eighth. -/
theorem position_of_stop_asterisk :
    let d := Delimiters.braces
    let source := "à\x7b\x7b é *\x7d\x7d"
    let rest := ['*', '\x7d', '\x7d']
    let e : Token := ⟨.error, (ScanFault.unrecognized '*').message, ⟨1, 8⟩⟩
    ∃ ts, Run (ofTexts (String.ofList d.opening) (String.ofList d.closing) source) ts
        (tag d ⟨1, 7⟩ rest) ∧
      Move (tag d ⟨1, 7⟩ rest) (some e) (.finished { token := e }) ∧
      (ofTexts (String.ofList d.opening) (String.ofList d.closing) source).tokens = ts ++ [e] ∧
      ∃ consumed, source.toList = consumed ++ rest ∧ Position.behind consumed = ⟨1, 7⟩ ∧
        e.pos ≠ Position.behind consumed := by
  intro d source rest e
  obtain ⟨ts, hrun⟩ : ∃ ts, Run (ofTexts (String.ofList d.opening) (String.ofList d.closing) source)
      ts (tag d ⟨1, 7⟩ rest) := by
    have hsource : source.toList = ['à'] ++ d.opening ++ ' ' :: 'é' :: ' ' :: rest := by decide
    have htext : Move (text d ⟨1, 1⟩ source.toList) _
        (text d ⟨1, 2⟩ (d.opening ++ ' ' :: 'é' :: ' ' :: rest)) :=
      .textBefore (by decide) hsource (by decide)
    have hopen : Move (text d ⟨1, 2⟩ (d.opening ++ ' ' :: 'é' :: ' ' :: rest)) _
        (tag d ⟨1, 4⟩ (' ' :: 'é' :: ' ' :: rest)) := .openTag rfl (by decide)
    have hblank : Move (tag d ⟨1, 4⟩ (' ' :: 'é' :: ' ' :: rest)) none
        (tag d ⟨1, 5⟩ ('é' :: ' ' :: rest)) := .blank ⟨by decide, by decide⟩ (by decide) rfl
    have hname : Move (tag d ⟨1, 5⟩ ('é' :: ' ' :: rest)) _ (tag d ⟨1, 6⟩ (' ' :: rest)) :=
      .name ⟨by decide, by decide⟩ (by decide +kernel)
    have hblank' : Move (tag d ⟨1, 6⟩ (' ' :: rest)) none (tag d ⟨1, 7⟩ rest) :=
      .blank ⟨by decide, by decide⟩ (by decide) rfl
    rw [ofTexts_eq_text]
    exact ⟨_, .token htext rfl (.token hopen rfl (.silent hblank
      (.token hname rfl (.silent hblank' (.refl _)))))⟩
  have hmove : Move (tag d ⟨1, 7⟩ rest) (some e) (.finished { token := e }) :=
    .unrecognized ⟨by decide, by decide⟩ rfl rfl (by decide +kernel)
  obtain ⟨htokens, consumed, read, fault, hsource, hpos, -, -, hiff⟩ := position_of_stop hrun hmove
  exact ⟨ts, hrun, hmove, htokens, consumed, hsource, hpos.symm, fun h => nomatch hiff.1 h⟩

/-- **The place of a fault is not told**: a percent sign in the third column of a tag is reported in
the fourth, and the end of a line in the third column at the start of the next line. -/
theorem tokens_percent :
    let tag (s : String) := "\x7b\x7b" ++ s ++ "\x7d\x7d"
    (ofTexts "\x7b\x7b" "\x7d\x7d" (tag "%")).tokens.getLast? =
        some ⟨.error, "unrecognized character in action: '%'", ⟨1, 4⟩⟩ ∧
      (ofTexts "\x7b\x7b" "\x7d\x7d" (tag "\n")).tokens.getLast? =
        some ⟨.error, "unclosed action", ⟨2, 1⟩⟩ ∧
      (tag "%").toList[2]? = some '%' ∧ (tag "\n").toList[2]? = some '\n' ∧
      Position.behind ((tag "%").toList.take 2) = ⟨1, 3⟩ := by
  decide +kernel

end Scanner

end Mustache
