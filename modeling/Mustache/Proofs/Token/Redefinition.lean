import Mustache.Proofs.Token.Relocation

/-! # Changing the delimiters between two templates
A template that is read to its end is read in the same way when other text follows it, up to the
text behind its last tag (`Scanner.run_append_of_ends`): until then a tag is still to be closed in
the template itself, so nothing is decided by what follows. So a tag that changes the delimiters may
stand between two templates, and each of them gives the tokens that it gives alone
(`Scanner.tokens_redefinition`). -/

namespace Mustache

open Text

namespace Delimiters

variable {d : Delimiters} {text : List Char}

/-! ## Texts with more behind them -/

/-- A tag that goes on does so with more text behind it, if it is long enough to be closed. -/
theorem GoesOn.append (h : d.GoesOn text) (hlen : d.closing.length < text.length)
    (more : List Char) : d.GoesOn (text ++ more) := by
  have hraw : ('\x7d' :: d.closing).length ≤ text.length := by
    rw [List.length_cons]
    exact hlen
  refine ⟨?_, ?_⟩
  · exact dropMark?_append_eq_none hraw h.1 more
  · exact dropMark?_append_eq_none (Nat.le_of_lt hlen) h.2 more

/-- A name that ends does so with more text behind it. -/
theorem endsName_append (hne : text ≠ []) (h : d.endsName text = true) (more : List Char) :
    d.endsName (text ++ more) = true := by
  have hmark : ∀ mark, (dropMark? mark text).isSome → (dropMark? mark (text ++ more)).isSome := by
    intro mark hm
    obtain ⟨rest, hrest⟩ := Option.isSome_iff_exists.1 hm
    rw [dropMark?_eq_some_iff.1 hrest, List.append_assoc, dropMark?_append]
    rfl
  cases text with
  | nil => exact absurd rfl hne
  | cons c text =>
    simp only [List.cons_append, endsName, Bool.or_eq_true] at h ⊢
    rcases h with (h | h) | h
    · exact .inl (.inl h)
    · exact .inl (.inr (hmark _ h))
    · exact .inr (hmark _ h)

/-- More text behind a name is left behind it, if the tag can be closed there. -/
theorem cutName_append_of_length (hlen : d.closing.length ≤ (d.cutName text).2.length)
    (more : List Char) :
    d.cutName (text ++ more) = ((d.cutName text).1, (d.cutName text).2 ++ more) := by
  induction text with
  | nil =>
    have := d.length_closing_pos
    simp [cutName] at hlen
    exact absurd hlen d.closing_ne_nil
  | cons c text ih =>
    by_cases hends : d.endsName (c :: text) = true
    · have hmore := endsName_append (List.cons_ne_nil c text) hends more
      rw [List.cons_append] at hmore ⊢
      rw [cutName, if_pos hmore, cutName, if_pos hends]
      rfl
    · rw [cutName, if_neg hends] at hlen ⊢
      have htext := d.length_cutName_le text
      have hgo : d.GoesOn (c :: text) := by
        rw [endsName, Bool.or_eq_true, Bool.or_eq_true, not_or, not_or] at hends
        exact ⟨by simpa using hends.2, by simpa using hends.1.2⟩
      have hgo := hgo.append (by rw [List.length_cons]; dsimp only at hlen; omega) more
      have hmore : ¬ d.endsName (c :: (text ++ more)) = true := by
        rw [endsName, ← List.cons_append, hgo.1, hgo.2]
        rw [endsName] at hends
        simp_all
      rw [List.cons_append, cutName, if_neg hmore, ih hlen]

/-- The closing delimiter is not taken for the one of a raw tag because of what follows it, if this
begins with no brace. -/
theorem dropRawClosing?_closing_append {more : List Char} (hmore : more.head? ≠ some '\x7d') :
    d.dropRawClosing? (d.closing ++ more) = none := by
  rw [dropRawClosing?, dropMark?_eq_none_iff]
  rintro ⟨tail, htail⟩
  -- one brace more than the closing delimiter has would come from what follows
  cases more with
  | nil =>
    have hlen := congrArg List.length htail
    simp at hlen
    omega
  | cons c more =>
    have hc : c ≠ '\x7d' := by simpa using hmore
    have hprefix : '\x7d' :: d.closing = d.closing ++ [c] := by
      have h₁ : ('\x7d' :: d.closing) <+: d.closing ++ c :: more := ⟨tail, htail⟩
      have h₂ : d.closing ++ [c] <+: d.closing ++ c :: more := ⟨more, by simp⟩
      exact (List.prefix_of_prefix_length_le h₁ h₂ (by simp)).eq_of_length (by simp)
    have hcount := congrArg (List.count '\x7d') hprefix
    rw [List.count_cons_self, List.count_append, List.count_singleton] at hcount
    simp [hc] at hcount

/-- A tag that changes the delimiters is the same with more text behind it. -/
theorem readChange_append {tag : DelimiterTag} (h : d.readChange text = .ok tag)
    (more : List Char) :
    d.readChange (text ++ more) = .ok { tag with rest := tag.rest ++ more } := by
  obtain ⟨rfl, hbody, hfields⟩ := readChange_eq_ok_iff.1 h
  exact readChange_eq_ok_iff.2 ⟨by simp, hbody, hfields⟩

end Delimiters

namespace Scanner

/-! ## The end of a template -/

/-- **A scan that ends outside tags**: the delimiters that are in force at the end of the template,
and the text that is left behind its last tag. -/
inductive Ends : Scanner → Delimiters → List Char → Prop where
  /-- No tag follows. -/
  | last {d : Delimiters} {pos : Position} {rest : List Char} (h : ¬ d.opening <:+: rest) :
      Ends (.text d pos rest) d rest
  /-- The end of the state behind a move, unless no tag followed before it. -/
  | move {s s' : Scanner} {o : Option Token} {d : Delimiters} {rest : List Char}
      (htag : ∀ d' pos text, s = .text d' pos text → d'.opening <:+: text) (hm : Move s o s')
      (h : Ends s' d rest) : Ends s d rest

variable {s s' : Scanner} {d : Delimiters} {rest more : List Char} {o : Option Token}

/-- A scanner that has finished does not end outside tags any more. -/
theorem not_ends_finished (last : Terminal) : ¬ Ends (.finished last) d rest := by
  intro h
  generalize hs : Scanner.finished last = s at h
  induction h generalizing last with
  | last => cases hs
  | move _ hm _ ih =>
    subst hs
    cases hm
    exact ih last rfl

theorem isFinished_of_ends (h : Ends s d rest) : s.isFinished = false := by
  cases s with
  | finished last => exact absurd h (not_ends_finished last)
  | _ => rfl

/-- A scan ends in one way only. -/
theorem ends_unique {d' : Delimiters} {rest' : List Char} (h : Ends s d rest)
    (h' : Ends s d' rest') : d = d' ∧ rest = rest' := by
  induction h with
  | last hnot =>
    cases h' with
    | last => exact ⟨rfl, rfl⟩
    | move htag => exact absurd (htag _ _ _ rfl) hnot
  | move htag hm _ ih =>
    cases h' with
    | last hnot => exact absurd (htag _ _ _ rfl) hnot
    | move _ hm' h' =>
      have heq := (step_eq_of_move hm).symm.trans (step_eq_of_move hm')
      rw [(Prod.mk.inj heq).2] at ih
      exact ih h'

/-- **A tag is still to be closed**: inside a tag of a scan that ends outside tags, the closing
delimiter is yet to come. -/
theorem length_closing_le_of_ends (h : Ends s d rest) (hs : s.inside = true) :
    s.delims.closing.length ≤ s.ahead.length := by
  -- from the end of the tag backwards: a move inside it only makes the text shorter
  induction h with
  | last => cases hs
  | move _ hm h ih =>
    rename_i s s' o d rest
    have hfinished := isFinished_of_ends h
    cases hm with
    | rawEnd hr =>
      simp [delims, ahead, hr]
      omega
    | close _ hr => simp [delims, ahead, hr]
    | blank => exact Nat.le_succ_of_le (ih rfl)
    | commentSign => exact Nat.le_succ_of_le (ih rfl)
    | sign => exact Nat.le_succ_of_le (ih rfl)
    | name =>
      rename_i d pos c behind _ _
      have hcut := ih rfl
      have hlen := d.length_cutName_le behind
      simp only [delims, ahead, List.length_cons] at hcut ⊢
      omega
    | commentBody hr =>
      simp [delims, ahead, hr]
      omega
    | closing => simp [delims, ahead]
    | endInTag | lineEnd | unrecognized | endInComment => cases hfinished
    | endOfInput | lastText | textBefore | openTag | change | changeFault | finished => cases hs

/-! ## More text behind a template -/

/-- The same state with more text behind what is left. -/
def append (s : Scanner) (more : List Char) : Scanner :=
  match s with
  | text d pos rest => text d pos (rest ++ more)
  | tag d pos rest => tag d pos (rest ++ more)
  | comment d pos rest => comment d pos (rest ++ more)
  | closing d pos rest => closing d pos (rest ++ more)
  | finished last => finished last

/-- **A move before the end** of a template is the same with more text behind the template, unless
a brace there could belong to its last tag. -/
theorem move_append (hm : Move s o s') (h : Ends s' d rest)
    (htag : ∀ d' pos text, s = .text d' pos text → d'.opening <:+: text)
    (hmore : more.head? ≠ some '\x7d') : Move (s.append more) o (s'.append more) := by
  have hfinished := isFinished_of_ends h
  -- what is left of a tag is long enough for the tests in it not to reach the text behind
  have hlen := length_closing_le_of_ends h
  cases hm with
  | endOfInput | changeFault | endInTag | lineEnd | unrecognized | endInComment | finished =>
    cases hfinished
  | lastText hne hnot => exact absurd (htag _ _ _ rfl) hnot
  | textBefore hne hr hclear =>
    rename_i d pos rest before behind
    show Move _ _ (.text d (pos.after before) (d.opening ++ behind ++ more))
    rw [List.append_assoc]
    exact .textBefore hne (by simp [hr]) hclear
  | openTag hr hhead =>
    rename_i d pos rest behind
    refine .openTag (by simp [hr]) ?_
    have hbehind : d.closing.length ≤ behind.length := hlen rfl
    cases behind with
    -- the closing delimiter is still to come
    | nil => exact absurd (List.length_eq_zero_iff.1 (Nat.le_zero.1 hbehind)) d.closing_ne_nil
    | cons c behind => exact hhead
  | change hr hchange =>
    exact .change (by simp [hr]) (Delimiters.readChange_append hchange more)
  | rawEnd hr => exact .rawEnd (by simp [hr])
  | close hraw hr =>
    rename_i d pos rest behind
    refine .close ?_ (by simp [hr])
    cases behind with
    | nil =>
      -- the last tag ends the template: what follows must not make it a raw one
      rw [hr, List.append_nil]
      exact Delimiters.dropRawClosing?_closing_append hmore
    | cons c behind => exact dropMark?_append_eq_none (by simp [hr]) hraw more
  | blank hgo hn hc => exact .blank (hgo.append (Nat.lt_succ_of_le (hlen rfl)) more) hn hc
  | commentSign hgo hc =>
    exact .commentSign (hgo.append (Nat.lt_succ_of_le (hlen rfl)) more) hc
  | sign hgo hc hs => exact .sign (hgo.append (Nat.lt_succ_of_le (hlen rfl)) more) hc hs
  | name hgo hc =>
    rename_i d pos c behind
    have hcut : d.closing.length ≤ (d.cutName behind).2.length := hlen rfl
    have hbehind := d.length_cutName_le behind
    have hm : Move (.tag d pos (c :: (behind ++ more))) _ _ :=
      .name (hgo.append (by rw [List.length_cons]; omega) more) hc
    rw [Delimiters.cutName_append_of_length hcut more] at hm
    exact hm
  | commentBody hr hclear => exact .commentBody (by simp [hr]) hclear
  | closing => exact .closing

/-- **A scan up to the text behind the last tag** is the same with more text behind the
template. -/
theorem run_append_of_ends (h : Ends s d rest) (hmore : more.head? ≠ some '\x7d') :
    ∃ ts pos, Run s ts (.text d pos rest) ∧ Run (s.append more) ts (.text d pos (rest ++ more)) ∧
      ¬ d.opening <:+: rest := by
  induction h with
  | last hnot => exact ⟨[], _, .refl _, .refl _, hnot⟩
  | move htag hm h ih =>
    obtain ⟨ts, pos, hrun, hrun', hnot⟩ := ih
    have hm' := move_append hm h htag hmore
    rename_i s s' o d rest
    cases o with
    | none => exact ⟨ts, pos, .silent hm hrun, .silent hm' hrun', hnot⟩
    | some t =>
      have ht := (isTerminal_of_move hm).trans (isFinished_of_ends h)
      exact ⟨t :: ts, pos, .token hm ht hrun, .token hm' ht hrun', hnot⟩

/-! ## The text behind the last tag -/

/-- The token of a text, if it is not empty. -/
def textTokens (pos : Position) (text : List Char) : List Token :=
  if text = [] then [] else [⟨.text, String.ofList text, pos⟩]

/-- Behind the last tag a template has its text and the end of the input. -/
theorem tokens_behind_last_tag {pos : Position} (h : ¬ d.opening <:+: rest) :
    (text d pos rest).tokens = textTokens pos rest ++ [⟨.endOfInput, "", pos.after rest⟩] := by
  by_cases hne : rest = []
  · subst hne
    exact tokens_of_move_terminal .endOfInput rfl
  · rw [textTokens, if_neg hne, tokens_of_move_some (.lastText hne h) rfl,
      tokens_of_move_terminal .endOfInput rfl]
    rfl

/-- Before a tag there is the same text. -/
theorem run_text_before_tag {pos : Position} {behind : List Char} (h : Clear d.opening rest) :
    Run (.text d pos (rest ++ (d.opening ++ behind))) (textTokens pos rest)
      (.text d (pos.after rest) (d.opening ++ behind)) := by
  by_cases hne : rest = []
  · subst hne
    exact .refl _
  · rw [textTokens, if_neg hne]
    exact .single (.textBefore hne (List.append_assoc _ _ _).symm h) rfl

/-- **A scan ends outside tags** exactly when it comes to the end of the input. -/
theorem exists_ends_iff (hs : s.isFinished = false) :
    (∃ d rest, Ends s d rest) ↔ ∃ ts t, s.tokens = ts ++ [t] ∧ t.kind = .endOfInput := by
  constructor
  · rintro ⟨d, rest, h⟩
    have hnil : ([] : List Char).head? ≠ some '\x7d' := by simp
    obtain ⟨ts, pos, hrun, -, hnot⟩ := run_append_of_ends h hnil
    have htokens := hrun.tokens_eq
    rw [tokens_behind_last_tag hnot, ← List.append_assoc] at htokens
    exact ⟨_, _, htokens, rfl⟩
  · rintro ⟨ts, t, htokens, hkind⟩
    induction s using induction_on_moves generalizing ts with
    | finished last => cases hs
    | move s o s' _ hm ih =>
      by_cases htag : ∀ d' pos text, s = .text d' pos text → d'.opening <:+: text
      · -- a tag follows, or the scanner is inside one
        cases hs' : s'.isFinished with
        | true =>
          -- the last token comes where a tag was still to follow: it is an error
          obtain ⟨u, rfl, hu, -⟩ := last_of_move hm hs hs'
          rw [tokens_of_move_terminal hm hu] at htokens
          obtain ⟨-, rfl⟩ := List.append_singleton_inj.1 ((List.nil_append _).trans htokens)
          cases hm with
          | endOfInput =>
            have hopening := htag _ _ _ rfl
            exact absurd (List.infix_nil.1 hopening) (Delimiters.opening_ne_nil _)
          | finished => cases hs
          | _ => cases hkind
        | false =>
          have hrest : ∃ ts', s'.tokens = ts' ++ [t] := by
            cases o with
            | none => exact ⟨ts, (tokens_of_move_none hm).symm.trans htokens⟩
            | some u =>
              have hu := (isTerminal_of_move hm).trans hs'
              rw [tokens_of_move_some hm hu] at htokens
              obtain ⟨us, v, hus, -⟩ := s'.exists_tokens_eq
              rw [hus, ← List.cons_append] at htokens
              obtain ⟨-, rfl⟩ := List.append_singleton_inj.1 htokens
              exact ⟨us, hus⟩
          obtain ⟨ts', hrest⟩ := hrest
          obtain ⟨d, rest, h⟩ := ih hs' ts' hrest
          exact ⟨d, rest, .move htag hm h⟩
      · -- no tag follows
        simp only [not_forall] at htag
        obtain ⟨d, pos, rest, rfl, hnot⟩ := htag
        exact ⟨d, rest, .last hnot⟩

/-! ## Two templates -/

/-- **Changing the delimiters is transparent.** When a template ends outside tags and a tag that
changes the delimiters can follow its last text, then any template may follow that tag: the tokens
are those of the first template, without the end of the input, and those of the second one under
the new delimiters, moved to where it begins. -/
theorem tokens_redefinition {d d₁ d₂ : Delimiters} {before : String} {rest body : List Char}
    (hends : Ends (ofTexts (String.ofList d.opening) (String.ofList d.closing) before) d₁ rest)
    (hbrace : d₁.opening.head? ≠ some '\x7d') (hrest : Clear d₁.opening rest)
    (hfields : FieldPair Unicode.isBlank body d₂.opening d₂.closing)
    (hbody : Clear ('=' :: d₁.closing) body) (behind : String) :
    ∃ ts t,
      (ofTexts (String.ofList d.opening) (String.ofList d.closing) before).tokens = ts ++ [t] ∧
      t.kind = .endOfInput ∧
      (ofTexts (String.ofList d.opening) (String.ofList d.closing)
          (before ++ String.ofList (d₁.changeTag body) ++ behind)).tokens =
        ts ++ (ofTexts (String.ofList d₂.opening) (String.ofList d₂.closing) behind).tokens.map
          fun u => u.movedTo
            (Position.start.after (before ++ String.ofList (d₁.changeTag body)).toList) := by
  have hwhole : text d Position.start
      (before ++ String.ofList (d₁.changeTag body) ++ behind).toList =
      (text d Position.start before.toList).append (d₁.changeTag body ++ behind.toList) := by
    simp [append]
  have hmore : (d₁.changeTag body ++ behind.toList).head? ≠ some '\x7d' := by
    obtain ⟨c, cs, hcs⟩ := List.exists_cons_of_ne_nil d₁.opening_ne_nil
    rw [hcs] at hbrace
    simpa [Delimiters.changeTag, hcs] using hbrace
  rw [ofTexts_eq_text] at hends
  rw [ofTexts_eq_text, ofTexts_eq_text, ofTexts_eq_text, hwhole]
  obtain ⟨ts, pos, hrun, hrun', hnot⟩ := run_append_of_ends hends hmore
  -- the first template alone
  have htokens := hrun.tokens_eq
  rw [tokens_behind_last_tag hnot, ← List.append_assoc] at htokens
  refine ⟨_, _, htokens, rfl, ?_⟩
  -- the first template, the tag, and the second template
  have hshape : rest ++ (d₁.changeTag body ++ behind.toList) =
      rest ++ (d₁.opening ++ ('=' :: (body ++ '=' :: d₁.closing ++ behind.toList))) := by
    simp [Delimiters.changeTag]
  have hread : d₁.readChange (body ++ '=' :: d₁.closing ++ behind.toList) =
      .ok ⟨body, d₂, behind.toList⟩ :=
    Delimiters.readChange_eq_ok_iff.2 ⟨rfl, hbody, hfields⟩
  rw [hshape] at hrun'
  have hchange := (hrun'.trans (run_text_before_tag hrest)).trans
    (.silent (.change rfl hread) (.refl _))
  -- the second template begins behind all that stands before it
  have hplace : (pos.after rest).after (d₁.changeTag body) =
      Position.start.after (before ++ String.ofList (d₁.changeTag body)).toList := by
    have hstart : (text d Position.start before.toList).StandsBehind before.toList [] := ⟨rfl, rfl⟩
    obtain ⟨consumed, hconsumed, hpos⟩ := standsBehind_of_run hrun rfl hstart
    have hpos : pos = Position.start.after consumed := hpos.trans (Position.after_start _).symm
    have hconsumed : before.toList = consumed ++ rest := hconsumed
    rw [hpos, String.toList_append, hconsumed, String.toList_ofList, Position.after_append,
      Position.after_append]
  have hmoved := tokens_movedTo (.text d₂ Position.start behind.toList) Position.proper_start
    ((pos.after rest).after (d₁.changeTag body))
  rw [movedTo, Position.movedTo_start] at hmoved
  rw [hchange.tokens_eq, List.append_nil, hmoved, hplace]

/-- A template with a tag, a change of the delimiters on two lines, and another template. -/
theorem tokens_greeting :
    ∃ ts t, (ofTexts (String.ofList ['\x7b', '\x7b']) (String.ofList ['\x7d', '\x7d'])
        (String.ofList ['a', '\x7b', '\x7b', 'x', '\x7d', '\x7d', ','])).tokens = ts ++ [t] ∧
      t.kind = .endOfInput ∧
      (ofTexts (String.ofList ['\x7b', '\x7b']) (String.ofList ['\x7d', '\x7d'])
        (String.ofList ['a', '\x7b', '\x7b', 'x', '\x7d', '\x7d', ','] ++
          String.ofList (Delimiters.braces.changeTag ['<', '%', '\n', '%', '>', ' ']) ++
          "<%y%>")).tokens =
        ts ++ (ofTexts (String.ofList ['<', '%']) (String.ofList ['%', '>']) "<%y%>").tokens.map
          fun u => u.movedTo (Position.start.after
            (String.ofList ['a', '\x7b', '\x7b', 'x', '\x7d', '\x7d', ','] ++
              String.ofList
                (Delimiters.braces.changeTag ['<', '%', '\n', '%', '>', ' '])).toList) := by
  let d : Delimiters := .braces
  let d' : Delimiters := { opening := ['<', '%'], closing := ['%', '>'] }
  have hends : Ends (ofTexts (String.ofList d.opening) (String.ofList d.closing)
      (String.ofList ['a', '\x7b', '\x7b', 'x', '\x7d', '\x7d', ','])) d [','] := by
    rw [ofTexts_eq_text, String.toList_ofList]
    -- the text, the opening delimiter, the name, and the closing delimiter
    have htag : ∀ d₁ pos rest d' p text', tag d₁ pos rest = .text d' p text' →
        d'.opening <:+: text' := nofun
    have hopening : d.opening <:+: ['a', '\x7b', '\x7b', 'x', '\x7d', '\x7d', ','] :=
      ⟨['a'], ['x', '\x7d', '\x7d', ','], rfl⟩
    have hopening' : d.opening <:+: ['\x7b', '\x7b', 'x', '\x7d', '\x7d', ','] :=
      ⟨[], ['x', '\x7d', '\x7d', ','], rfl⟩
    refine .move ?_ (@Move.textBefore d _ _ ['a'] ['x', '\x7d', '\x7d', ','] (by decide) rfl
      (by decide)) ?_
    · intro d' pos text h
      cases h
      exact hopening
    refine .move ?_ (@Move.openTag d _ _ ['x', '\x7d', '\x7d', ','] rfl (by decide)) ?_
    · intro d' pos text h
      cases h
      exact hopening'
    have hx : isNameStart 'x' = true := by decide +kernel
    have hname : Move (tag d ⟨1, 4⟩ ['x', '\x7d', '\x7d', ',']) _
        (.tag d ⟨1, 5⟩ ['\x7d', '\x7d', ',']) := .name ⟨by decide, by decide⟩ hx
    have hclose : Move (tag d ⟨1, 5⟩ ['\x7d', '\x7d', ',']) _ (.text d ⟨1, 7⟩ [',']) :=
      .close (by decide) rfl
    exact .move (htag _ _ _) hname (.move (htag _ _ _) hclose (.last (by decide)))
  have hfields : FieldPair Unicode.isBlank ['<', '%', '\n', '%', '>', ' '] d'.opening d'.closing :=
    fields_eq_pair_iff.1 (by decide +kernel)
  exact tokens_redefinition hends (by decide) (by decide) hfields (by decide) "<%y%>"

end Scanner

end Mustache
