import Mustache.Proofs.Text.Occurrence
import Mustache.Token.Scanner

/-! # The moves of the scanner
`Scanner.step` is a function of nested tests; `Scanner.Move` says the same as a relation with one
rule for each thing that a scanner can meet (`move_iff_step_eq`). Everything that holds of all
tokens is proved rule by rule: `Scanner.induction_on_moves` is the induction along a scan, and
`Scanner.Run` strings moves together (`Run.tokens_eq`). -/

namespace Mustache

open Text

/-! ## Tags that change the delimiters -/

/-- A tag that changes the delimiters, with this text between its equals signs. -/
def Delimiters.changeTag (d : Delimiters) (body : List Char) : List Char :=
  d.opening ++ '=' :: body ++ '=' :: d.closing

/-- **A tag that changes the delimiters** is read exactly when its end comes and its body has two
fields, which are the delimiters from there on. -/
theorem Delimiters.readChange_eq_ok_iff {d : Delimiters} {text : List Char} {tag : DelimiterTag} :
    d.readChange text = .ok tag ↔
      text = tag.body ++ '=' :: d.closing ++ tag.rest ∧ Clear ('=' :: d.closing) tag.body ∧
        FieldPair Unicode.isBlank tag.body tag.delims.opening tag.delims.closing := by
  constructor
  · intro h
    refine ⟨eq_of_readChange h, ?_⟩
    unfold readChange at h
    split at h
    · cases h
    · rename_i body rest hc
      split at h
      · rename_i hf
        cases h
        exact ⟨clear_of_cutAt hc, fields_eq_pair_iff.1 hf⟩
      · cases h
      · cases h
  · rintro ⟨rfl, hc, hf⟩
    have hf := fields_eq_pair_iff.2 hf
    unfold readChange
    rw [cutAt_of_clear hc]
    dsimp only
    split
    · rename_i hf'
      rw [hf] at hf'
      cases hf'
      rfl
    · rename_i hf'
      rw [hf] at hf'
      cases hf'
    · rename_i hf' _
      exact absurd hf (hf' _ _)

section Faults

variable {d : Delimiters} {text body rest : List Char}

/-- The third of three or more fields is the fault of a tag that should change the delimiters. -/
theorem Delimiters.readChange_eq_extraField {first second field : List Char}
    {more : List (List Char)} (hcut : cutAt ('=' :: d.closing) text = some (body, rest))
    (hfields : fields Unicode.isBlank body = first :: second :: field :: more) :
    d.readChange text = .error (.extraField (String.ofList field)) := by
  unfold readChange
  rw [hcut]
  dsimp only
  split
  · rename_i hpair
    rw [hfields] at hpair
    cases hpair
  · rename_i hextra
    rw [hfields] at hextra
    cases hextra
    rfl
  · rename_i hextra
    exact absurd hfields (hextra _ _ _ _)

/-- With neither two fields nor three such a tag lacks one. -/
theorem Delimiters.readChange_eq_missingField
    (hcut : cutAt ('=' :: d.closing) text = some (body, rest))
    (hpair : ∀ first second, fields Unicode.isBlank body ≠ [first, second])
    (hextra : ∀ first second field more,
      fields Unicode.isBlank body ≠ first :: second :: field :: more) :
    d.readChange text = .error .missingField := by
  unfold readChange
  rw [hcut]
  dsimp only
  split
  · rename_i hfields
    exact absurd hfields (hpair _ _)
  · rename_i hfields
    exact absurd hfields (hextra _ _ _ _)
  · rfl

end Faults

/-! ## Characters of a tag -/

/-- Blanks that may stand between the parts of a tag. A line feed may not. -/
def Blanks (text : List Char) : Prop := ∀ c ∈ text, c = ' ' ∨ c = '\t' ∨ c = '\r'

instance (text : List Char) : Decidable (Blanks text) :=
  decidable_of_iff (text.all fun c => c = ' ' || c = '\t' || c = '\r') (by simp [Blanks, or_assoc])

/-- Neither of the two ways to close a tag stands at the start of this text. -/
def Delimiters.GoesOn (d : Delimiters) (text : List Char) : Prop :=
  d.dropRawClosing? text = none ∧ d.dropClosing? text = none

theorem Delimiters.goesOn_iff {d : Delimiters} {text : List Char} :
    d.GoesOn text ↔ ¬ '\x7d' :: d.closing <+: text ∧ ¬ d.closing <+: text := by
  simp only [GoesOn, dropRawClosing?, dropClosing?, dropMark?_eq_none_iff]

/-- A name begins with neither a blank nor a sign. -/
theorem not_blank_and_not_sign {c : Char} (h : isNameStart c = true) :
    isTagBlank c = false ∧ Sigil.ofChar? c = none := by
  refine ⟨?_, ?_⟩
  · by_contra hb
    rw [Bool.not_eq_false] at hb
    simp only [isTagBlank, Bool.or_eq_true, decide_eq_true_eq] at hb
    have hn : isNameStart c = false := by
      rcases hb with ((rfl | rfl) | rfl) | rfl <;> decide +kernel
    rw [hn] at h
    cases h
  · by_contra hs
    have hn : isNameStart c = false := by
      unfold Sigil.ofChar? at hs
      split at hs
      all_goals first | decide +kernel | exact absurd rfl hs
    rw [hn] at h
    cases h

/-- A sign is no blank. -/
theorem isTagBlank_eq_false {c : Char} (h : (Sigil.ofChar? c).isSome) : isTagBlank c = false := by
  unfold Sigil.ofChar? at h
  split at h
  all_goals first | decide | cases h

/-- A blank includes the line feed. -/
theorem ne_newline {c : Char} (h : isTagBlank c = false) : c ≠ '\n' := by
  rintro rfl
  cases h

namespace Scanner

/-! ## Moves as rules -/

/-- **The rules of a move**: the state before it, the token that it hands out, if any, and the state
after it. -/
inductive Move : Scanner → Option Token → Scanner → Prop where
  /-- Nothing is left outside tags. -/
  | endOfInput {d pos} : Move (.text d pos []) (some ⟨.endOfInput, "", pos⟩)
      (.finished { token := ⟨.endOfInput, "", pos⟩ })
  /-- Text behind which no tag follows. -/
  | lastText {d pos rest} (hne : rest ≠ []) (h : ¬ d.opening <:+: rest) :
      Move (.text d pos rest) (some ⟨.text, String.ofList rest, pos⟩)
        (.text d (pos.after rest) [])
  /-- Text before a tag. -/
  | textBefore {d pos rest before behind} (hne : before ≠ [])
      (hr : rest = before ++ d.opening ++ behind) (h : Clear d.opening before) :
      Move (.text d pos rest) (some ⟨.text, String.ofList before, pos⟩)
        (.text d (pos.after before) (d.opening ++ behind))
  /-- An opening delimiter. -/
  | openTag {d pos rest behind} (hr : rest = d.opening ++ behind) (h : behind.head? ≠ some '=') :
      Move (.text d pos rest) (some ⟨.leftDelimiter, String.ofList d.opening, pos⟩)
        (.tag d (pos.after d.opening) behind)
  /-- A tag that changes the delimiters. -/
  | change {d pos rest behind tag} (hr : rest = d.opening ++ '=' :: behind)
      (h : d.readChange behind = .ok tag) :
      Move (.text d pos rest) none
        (.text tag.delims (pos.after (d.changeTag tag.body)) tag.rest)
  /-- A tag that should change the delimiters and cannot. -/
  | changeFault {d pos rest behind fault} (hr : rest = d.opening ++ '=' :: behind)
      (h : d.readChange behind = .error fault) :
      Move (.text d pos rest)
        (some ⟨.error, fault.message, (pos.after d.opening).next '='⟩)
        (.finished { token := ⟨.error, fault.message, (pos.after d.opening).next '='⟩ })
  /-- The closing brace of a raw tag. -/
  | rawEnd {d pos rest behind} (hr : rest = '\x7d' :: d.closing ++ behind) :
      Move (.tag d pos rest) (some ⟨.sigil .rawEnd, "\x7d", pos⟩)
        (.closing d (pos.next '\x7d') behind)
  /-- The closing delimiter of a tag. -/
  | close {d pos rest behind} (hb : d.dropRawClosing? rest = none)
      (hr : rest = d.closing ++ behind) :
      Move (.tag d pos rest) (some ⟨.rightDelimiter, String.ofList d.closing, pos⟩)
        (.text d (pos.after d.closing) behind)
  /-- The input ends inside a tag. -/
  | endInTag {d pos} :
      Move (.tag d pos []) (some ⟨.error, ScanFault.unclosedTag.message, pos⟩)
        (.finished { token := ⟨.error, ScanFault.unclosedTag.message, pos⟩ })
  /-- The line ends inside a tag. -/
  | lineEnd {d pos behind} (h : d.GoesOn ('\n' :: behind)) :
      Move (.tag d pos ('\n' :: behind))
        (some ⟨.error, ScanFault.unclosedTag.message, pos.next '\n'⟩)
        (.finished { token := ⟨.error, ScanFault.unclosedTag.message, pos.next '\n'⟩ })
  /-- A blank inside a tag. -/
  | blank {d pos c behind} (h : d.GoesOn (c :: behind)) (hn : c ≠ '\n')
      (hc : isTagBlank c = true) :
      Move (.tag d pos (c :: behind)) none (.tag d (pos.next c) behind)
  /-- The sign of a comment. -/
  | commentSign {d pos c behind} (h : d.GoesOn (c :: behind))
      (hc : Sigil.ofChar? c = some .comment) :
      Move (.tag d pos (c :: behind)) (some ⟨.sigil .comment, String.singleton c, pos⟩)
        (.comment d (pos.next c) behind)
  /-- Another sign. -/
  | sign {d pos c behind sign} (h : d.GoesOn (c :: behind)) (hc : Sigil.ofChar? c = some sign)
      (hs : sign ≠ .comment) :
      Move (.tag d pos (c :: behind)) (some ⟨.sigil sign, String.singleton c, pos⟩)
        (.tag d (pos.next c) behind)
  /-- A name. -/
  | name {d pos c behind} (h : d.GoesOn (c :: behind)) (hc : isNameStart c = true) :
      Move (.tag d pos (c :: behind))
        (some ⟨.identifier, String.ofList (c :: (d.cutName behind).1), pos⟩)
        (.tag d (pos.after (c :: (d.cutName behind).1)) (d.cutName behind).2)
  /-- A character that can stand nowhere in a tag. -/
  | unrecognized {d pos c behind} (h : d.GoesOn (c :: behind)) (hb : isTagBlank c = false)
      (hs : Sigil.ofChar? c = none) (hc : isNameStart c = false) :
      Move (.tag d pos (c :: behind))
        (some ⟨.error, (ScanFault.unrecognized c).message, pos.next c⟩)
        (.finished { token := ⟨.error, (ScanFault.unrecognized c).message, pos.next c⟩ })
  /-- The body of a comment. -/
  | commentBody {d pos rest body behind} (hr : rest = body ++ d.closing ++ behind)
      (h : Clear d.closing body) :
      Move (.comment d pos rest) (some ⟨.text, String.ofList body, pos⟩)
        (.closing d (pos.after body) behind)
  /-- The input ends inside a comment. -/
  | endInComment {d pos rest} (h : ¬ d.closing <:+: rest) :
      Move (.comment d pos rest) (some ⟨.error, ScanFault.unclosedComment.message, pos⟩)
        (.finished { token := ⟨.error, ScanFault.unclosedComment.message, pos⟩ })
  /-- The closing delimiter that is due. -/
  | closing {d pos rest} :
      Move (.closing d pos rest) (some ⟨.rightDelimiter, String.ofList d.closing, pos⟩)
        (.text d (pos.after d.closing) rest)
  /-- The last token again. -/
  | finished {last} : Move (.finished last) (some last.token) (.finished last)

theorem move_stepText (d : Delimiters) (pos : Position) (rest : List Char) :
    Move (.text d pos rest) (stepText d pos rest).1 (stepText d pos rest).2 := by
  unfold stepText
  -- the cases are the outcomes of the cut at the next opening delimiter
  split
  · rename_i h
    split
    · exact .endOfInput
    · exact .lastText (by simp) (cutAt_eq_none_iff.1 h)
  · rename_i h
    obtain ⟨hr, hc⟩ := cutAt_eq_some_iff.1 h
    exact .textBefore (by simp) hr hc
  · rename_i behind h
    have hr := (cutAt_eq_some_iff.1 h).1
    dsimp only
    split
    · rename_i change hc
      have : Move (.text d pos rest) _ _ := .change hr hc
      simpa [Delimiters.changeTag] using this
    · rename_i fault hc
      exact .changeFault hr hc
  · rename_i behind hne h
    refine .openTag (cutAt_eq_some_iff.1 h).1 ?_
    intro he
    -- an equals sign would have been taken for the start of a change
    obtain ⟨tail, rfl⟩ : ∃ tail, behind = '=' :: tail := by
      cases behind with
      | nil => cases he
      | cons c tail => exact ⟨tail, by simpa using he⟩
    exact hne tail rfl

theorem move_stepTag (d : Delimiters) (pos : Position) (rest : List Char) :
    Move (.tag d pos rest) (stepTag d pos rest).1 (stepTag d pos rest).2 := by
  unfold stepTag
  -- both ways to close the tag are tried before anything else is
  split
  · rename_i h
    exact .rawEnd (dropMark?_eq_some_iff.1 h)
  · rename_i hraw
    split
    · rename_i h
      exact .close hraw (dropMark?_eq_some_iff.1 h)
    · rename_i hclose
      split
      · exact .endInTag
      · rename_i c behind
        have hgo : d.GoesOn (c :: behind) := ⟨hraw, hclose⟩
        split
        · rename_i hn
          subst hn
          exact .lineEnd hgo
        · rename_i hn
          split
          · rename_i hb
            exact .blank hgo hn hb
          · rename_i hb
            split
            · rename_i hs
              exact .commentSign hgo hs
            · rename_i hne hs
              exact .sign hgo hs (fun h => hne (by rw [h]))
            · rename_i hs
              split
              · rename_i hc
                exact .name hgo hc
              · rename_i hc
                exact .unrecognized hgo (by simpa using hb) hs (by simpa using hc)

theorem move_stepComment (d : Delimiters) (pos : Position) (rest : List Char) :
    Move (.comment d pos rest) (stepComment d pos rest).1 (stepComment d pos rest).2 := by
  unfold stepComment
  split
  · rename_i h
    obtain ⟨hr, hc⟩ := cutAt_eq_some_iff.1 h
    exact .commentBody hr hc
  · rename_i h
    exact .endInComment (cutAt_eq_none_iff.1 h)

/-- Every state has a move, the one that `step` makes. -/
theorem move_step (s : Scanner) : Move s s.step.1 s.step.2 := by
  cases s with
  | text d pos rest => exact move_stepText d pos rest
  | tag d pos rest => exact move_stepTag d pos rest
  | comment d pos rest => exact move_stepComment d pos rest
  | closing d pos rest => exact .closing
  | finished last => exact .finished

/-- The rules exclude each other: a move by one of them is the one that `step` makes. -/
theorem step_eq_of_move {s s' : Scanner} {o : Option Token} (h : Move s o s') :
    s.step = (o, s') := by
  cases h with
  | endOfInput =>
    rename_i d pos
    have hc : cutAt d.opening [] = none := by
      rw [cutAt_eq_none_iff, List.infix_nil]
      exact d.opening_ne_nil
    simp only [step, stepText, hc]
  | lastText hne h =>
    rename_i d pos rest
    cases rest with
    | nil => exact absurd rfl hne
    | cons c cs => simp only [step, stepText, cutAt_eq_none_iff.2 h]
  | textBefore hne hr h =>
    rename_i d pos rest before behind
    cases before with
    | nil => exact absurd rfl hne
    | cons c cs => simp only [step, stepText, hr, cutAt_of_clear h]
  | openTag hr h =>
    rename_i d pos rest behind
    have hc := cutAt_of_dropMark? (dropMark?_eq_some_iff.2 hr)
    cases behind with
    | nil => simp only [step, stepText, hc]
    | cons c cs =>
      have hne : c ≠ '=' := by simpa using h
      simp only [step, stepText, hc]
      split <;> simp_all
  | change hr h =>
    have hc := cutAt_of_dropMark? (dropMark?_eq_some_iff.2 hr)
    simp [step, stepText, hc, h, Delimiters.changeTag]
  | changeFault hr h =>
    have hc := cutAt_of_dropMark? (dropMark?_eq_some_iff.2 hr)
    simp [step, stepText, hc, h, fail]
  | rawEnd hr =>
    rename_i d pos rest behind
    have hd : d.dropRawClosing? rest = some behind := dropMark?_eq_some_iff.2 hr
    simp only [step, stepTag, hd]
  | close hb hr =>
    rename_i d pos rest behind
    have hd : d.dropClosing? rest = some behind := dropMark?_eq_some_iff.2 hr
    simp only [step, stepTag, hb, hd]
  | endInTag =>
    rename_i d pos
    have hgo : d.GoesOn [] := by
      simp [Delimiters.goesOn_iff, List.prefix_nil, d.closing_ne_nil]
    simp only [step, stepTag, hgo.1, hgo.2, fail]
  | lineEnd h => simp only [step, stepTag, h.1, h.2, fail, if_true]
  | blank h hn hc => simp only [step, stepTag, h.1, h.2, hn, hc, if_true, if_false]
  | commentSign h hc =>
    have hb : isTagBlank _ = false := isTagBlank_eq_false (by rw [hc]; rfl)
    simp [step, stepTag, h.1, h.2, ne_newline hb, hb, hc]
  | sign h hc hs =>
    have hb : isTagBlank _ = false := isTagBlank_eq_false (by rw [hc]; rfl)
    simp only [step, stepTag, h.1, h.2, ne_newline hb, hb, hc]
    simp
  | name h hc =>
    obtain ⟨hb, hs⟩ := not_blank_and_not_sign hc
    simp [step, stepTag, h.1, h.2, ne_newline hb, hb, hs, hc]
  | unrecognized h hb hs hc =>
    simp [step, stepTag, h.1, h.2, ne_newline hb, hb, hs, hc, fail]
  | commentBody hr h => simp only [step, stepComment, hr, cutAt_of_clear h]
  | endInComment h => simp only [step, stepComment, cutAt_eq_none_iff.2 h, fail]
  | closing => rfl
  | finished => rfl

/-- **The rules are the function**: a move is one that the rules allow exactly when `step` makes
it. -/
theorem move_iff_step_eq {s s' : Scanner} {o : Option Token} : Move s o s' ↔ s.step = (o, s') := by
  constructor
  · exact step_eq_of_move
  · intro h
    have := move_step s
    rwa [h] at this

/-- A move makes the scanner smaller, unless it has finished. -/
theorem size_lt_of_move {s s' : Scanner} {o : Option Token} (hm : Move s o s')
    (h : s.isFinished = false) : s'.size < s.size := by
  have hlt := size_step_lt h
  rwa [step_eq_of_move hm] at hlt

/-! ## Induction along a scan -/

/-- To prove something of every scanner it is enough to prove it of the finished ones, and of the
others from the state behind their move. -/
theorem induction_on_moves {P : Scanner → Prop} (finished : ∀ last, P (.finished last))
    (move : ∀ s o s', s.isFinished = false → Move s o s' → P s' → P s) (s : Scanner) : P s := by
  -- by induction on the size, which every move lessens
  induction hn : s.size using Nat.strong_induction_on generalizing s with
  | _ n ih =>
    cases hf : s.isFinished with
    | true =>
      cases s with
      | finished last => exact finished last
      | _ => cases hf
    | false =>
      refine move s _ _ hf (move_step s) ?_
      exact ih _ (hn ▸ size_step_lt hf) _ rfl

/-! ## The tokens of a scan -/

/-- A template under delimiters that are not empty begins outside tags. -/
theorem ofTexts_eq_text (d : Delimiters) (source : String) :
    ofTexts (String.ofList d.opening) (String.ofList d.closing) source =
      .text d Position.start source.toList := by
  have hd : Delimiters.ofTexts? (String.ofList d.opening) (String.ofList d.closing) = some d := by
    simp [Delimiters.ofTexts?, d.opening_ne_nil, d.closing_ne_nil]
  rw [ofTexts, hd]

/-- A move without a token leaves the tokens as they are. -/
theorem tokens_of_move_none {s s' : Scanner} (h : Move s none s') : s.tokens = s'.tokens := by
  have hn := next_of_step_none (step_eq_of_move h)
  rw [tokens.eq_def s, hn, ← tokens.eq_def s']

/-- A token that does not end the sequence comes before the others. -/
theorem tokens_of_move_some {s s' : Scanner} {t : Token} (h : Move s (some t) s')
    (ht : t.isTerminal = false) : s.tokens = t :: s'.tokens := by
  have hn := next_of_step_some (step_eq_of_move h)
  rw [tokens]
  simp only [hn, ht, dif_pos]

/-- A token that ends the sequence is the only one. -/
theorem tokens_of_move_terminal {s s' : Scanner} {t : Token} (h : Move s (some t) s')
    (ht : t.isTerminal = true) : s.tokens = [t] := by
  have hn := next_of_step_some (step_eq_of_move h)
  rw [tokens]
  simp [hn, ht]

/-- A finished scanner repeats its last token. -/
@[simp] theorem tokens_finished (last : Terminal) : tokens (.finished last) = [last.token] :=
  tokens_of_move_terminal .finished last.isTerminal

/-- A sequence of moves, and the tokens that they hand out, none of which ends the sequence. -/
inductive Run : Scanner → List Token → Scanner → Prop where
  /-- No move at all. -/
  | refl (s : Scanner) : Run s [] s
  /-- A move without a token. -/
  | silent {s s' s'' ts} (h : Move s none s') (hr : Run s' ts s'') : Run s ts s''
  /-- A move that hands out a token. -/
  | token {s s' s'' t ts} (h : Move s (some t) s') (ht : t.isTerminal = false)
      (hr : Run s' ts s'') : Run s (t :: ts) s''

/-- A single move with a token. -/
theorem Run.single {s s' : Scanner} {t : Token} (h : Move s (some t) s')
    (ht : t.isTerminal = false) : Run s [t] s' :=
  .token h ht (.refl s')

/-- Runs go on where others end. -/
theorem Run.trans {s s' s'' : Scanner} {ts us : List Token} (h : Run s ts s') (h' : Run s' us s'') :
    Run s (ts ++ us) s'' := by
  induction h with
  | refl => exact h'
  | silent hm _ ih => exact .silent hm (ih h')
  | token hm ht _ ih => exact .token hm ht (ih h')

/-- **The tokens of a scan** are those of a run and then those of the state it leads to. -/
theorem Run.tokens_eq {s s' : Scanner} {ts : List Token} (h : Run s ts s') :
    s.tokens = ts ++ s'.tokens := by
  induction h with
  | refl => rfl
  | silent hm _ ih => rw [tokens_of_move_none hm, ih]
  | token hm ht _ ih => rw [tokens_of_move_some hm ht, ih, List.cons_append]

/-- The tokens of a scan are some that do not end it and one that does. -/
theorem exists_tokens_eq (s : Scanner) :
    ∃ ts last, s.tokens = ts ++ [last] ∧ (∀ t ∈ ts, t.isTerminal = false) ∧
      last.isTerminal = true := by
  induction s using induction_on_moves with
  | finished last => exact ⟨[], last.token, tokens_finished last, by simp, last.isTerminal⟩
  | move s o s' hf hm ih =>
    obtain ⟨ts, last, heq, hts, hlast⟩ := ih
    cases o with
    | none => exact ⟨ts, last, (tokens_of_move_none hm).trans heq, hts, hlast⟩
    | some t =>
      cases ht : t.isTerminal with
      | true => exact ⟨[], t, tokens_of_move_terminal hm ht, by simp, ht⟩
      | false =>
        refine ⟨t :: ts, last, ?_, ?_, hlast⟩
        · rw [tokens_of_move_some hm ht, heq, List.cons_append]
        · simpa [ht] using hts

end Scanner

end Mustache
