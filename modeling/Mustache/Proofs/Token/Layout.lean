import Mustache.Proofs.Token.Tiling

/-! # The layout of a token sequence
The tokens of a template are texts and tags in turn (`Layout.Stream`). A tag is an opening
delimiter, signs and names, and one of the ways to close it (`Layout.Close`); only an error can cut
it short (`Layout.Cut`). The rules go along the template and hold the delimiters in force, so they
also say what a text or a name may contain, and that a name goes on as far as it can
(`Layout.IsName`). Every sequence that a scanner hands out is laid out so
(`Scanner.tokens_laidOut`). -/

namespace Mustache

open Text

/-! ## Names -/

namespace Delimiters

variable {d : Delimiters} {text : List Char} {c : Char}

/-- A name goes on where neither a blank nor the end of the tag stands. -/
theorem endsName_eq_false_iff :
    d.endsName (c :: text) = false ↔ isTagBlank c = false ∧ d.GoesOn (c :: text) := by
  simp [endsName, GoesOn, and_assoc, and_comm]

/-- A name ends before nothing, a blank, or one of the two ways to close the tag. -/
theorem endsName_eq_true_iff :
    d.endsName text = true ↔ text = [] ∨ (∃ c rest, text = c :: rest ∧ isTagBlank c = true) ∨
      d.closing <+: text ∨ '\x7d' :: d.closing <+: text := by
  cases text with
  | nil => simp [endsName]
  | cons c text =>
    rw [← Bool.not_eq_false, endsName_eq_false_iff, goesOn_iff]
    constructor
    · intro h
      by_cases hc : isTagBlank c = true
      · exact .inr (.inl ⟨c, text, rfl, hc⟩)
      · by_cases hclose : d.closing <+: c :: text
        · exact .inr (.inr (.inl hclose))
        · refine .inr (.inr (.inr ?_))
          by_contra hraw
          exact h ⟨by simpa using hc, hraw, hclose⟩
    · rintro (hnil | ⟨x, rest, hx, hblank⟩ | hclose | hraw) ⟨hc, hnraw, hnclose⟩
      · cases hnil
      · cases hx
        rw [hc] at hblank
        cases hblank
      · exact hnclose hclose
      · exact hnraw hraw

/-- **A name goes on at each of its characters** behind the first one. -/
theorem endsName_of_cutName {before behind : List Char}
    (h : (d.cutName text).1 = before ++ c :: behind) :
    d.endsName (c :: (behind ++ (d.cutName text).2)) = false := by
  induction text generalizing before with
  | nil => simp [cutName] at h
  | cons c' text ih =>
    rw [cutName] at h ⊢
    split
    · rename_i hends
      simp [hends] at h
    · rename_i hends
      simp only [hends] at h
      cases before with
      | nil =>
        obtain ⟨rfl, rfl⟩ : c' = c ∧ (d.cutName text).1 = behind := by simpa using h
        rw [cutName_append]
        simpa using hends
      | cons b before =>
        have hname : (d.cutName text).1 = before ++ c :: behind := by
          simpa using (List.cons.inj h).2
        exact ih hname

end Delimiters

/-- The sign of a comment is an exclamation mark. -/
theorem Sigil.eq_of_ofChar?_comment {c : Char} (h : ofChar? c = some comment) : c = '!' := by
  unfold ofChar? at h
  split at h <;> simp_all

/-- The brace that closes a tag is not among the signs at its start. -/
theorem Sigil.ofChar?_ne_rawEnd {c : Char} : ofChar? c ≠ some rawEnd := by
  unfold ofChar?
  split <;> simp

/-- A token of this kind with these characters. -/
structure Token.Is (t : Token) (kind : Token.Kind) (text : List Char) : Prop where
  kind : t.kind = kind
  text : t.text.toList = text

/-- A token that is made of some characters is a token with these characters. -/
theorem Token.is_ofList (kind : Token.Kind) (text : List Char) (pos : Position) :
    Token.Is ⟨kind, String.ofList text, pos⟩ kind text :=
  ⟨rfl, String.toList_ofList⟩

namespace Layout

variable {d d' : Delimiters} {t : Token} {ts : List Token} {text behind : List Char}

/-- **A name**, before the text behind it. -/
structure IsName (d : Delimiters) (name behind : List Char) : Prop where
  /-- It begins with a letter, a digit or one of two marks. -/
  start : ∃ c rest, name = c :: rest ∧ (c = '_' ∨ c = '.' ∨ Unicode.isAlphanumeric c = true)
  /-- There is no blank in it. -/
  noBlank : ∀ c ∈ name, c ≠ ' ' ∧ c ≠ '\t' ∧ c ≠ '\r' ∧ c ≠ '\n'
  /-- The closing delimiter does not occur in it. -/
  noClosing : ¬ d.closing <:+: name
  /-- It ends where nothing is left, at a blank, or where the tag is closed. -/
  maximal : behind = [] ∨
    (∃ c rest, behind = c :: rest ∧ (c = ' ' ∨ c = '\t' ∨ c = '\r' ∨ c = '\n')) ∨
    d.closing <+: behind ∨ '\x7d' :: d.closing <+: behind

/-- **What is cut off makes a name** together with the first character. -/
theorem isName_of_cutName {c : Char} (hgo : d.GoesOn (c :: text)) (hc : isNameStart c = true) :
    IsName d (c :: (d.cutName text).1) (d.cutName text).2 := by
  -- the name goes on at each of its characters, the first one included
  have hgoes : ∀ before x after, c :: (d.cutName text).1 = before ++ x :: after →
      isTagBlank x = false ∧ d.GoesOn (x :: (after ++ (d.cutName text).2)) := by
    intro before x after h
    cases before with
    | nil =>
      obtain ⟨rfl, rfl⟩ : c = x ∧ (d.cutName text).1 = after := by simpa using h
      rw [Delimiters.cutName_append]
      exact ⟨(not_blank_and_not_sign hc).1, hgo⟩
    | cons b before =>
      rw [List.cons_append, List.cons.injEq] at h
      exact Delimiters.endsName_eq_false_iff.1 (Delimiters.endsName_of_cutName h.2)
  refine ⟨⟨c, _, rfl, ?_⟩, ?_, ?_, ?_⟩
  · simpa [isNameStart, or_assoc] using hc
  · intro x hx
    obtain ⟨before, after, h⟩ := List.append_of_mem hx
    have hblank := (hgoes before x after h).1
    simp only [isTagBlank, Bool.or_eq_false_iff, decide_eq_false_iff_not] at hblank
    tauto
  · rintro ⟨before, after, h⟩
    obtain ⟨x, closing, hd⟩ := List.exists_cons_of_ne_nil d.closing_ne_nil
    rw [hd, List.append_assoc, List.cons_append] at h
    have hclose := (Delimiters.goesOn_iff.1 (hgoes before x (closing ++ after) h.symm).2).2
    rw [hd] at hclose
    exact hclose ⟨after ++ (d.cutName text).2, by simp⟩
  · rcases Delimiters.endsName_eq_true_iff.1 (d.endsName_cutName text) with
      hnil | ⟨x, rest, hr, hx⟩ | hclose
    · exact .inl hnil
    · refine .inr (.inl ⟨x, rest, hr, ?_⟩)
      simp only [isTagBlank, Bool.or_eq_true, decide_eq_true_eq] at hx
      tauto
    · exact .inr (.inr hclose)

/-! ## Tags -/

/-- **The tokens at the start of a tag**, between two texts: signs and names with blanks between
them. -/
inductive Items (d : Delimiters) : List Char → List Token → List Char → Prop where
  /-- No token. -/
  | nil {text : List Char} : Items d text [] text
  /-- A blank. -/
  | blank {c : Char} {ts : List Token} {text behind : List Char}
      (hc : c = ' ' ∨ c = '\t' ∨ c = '\r') (h : Items d text ts behind) :
      Items d (c :: text) ts behind
  /-- A sign other than that of a comment and than the brace that closes a tag. -/
  | sign {t : Token} {c : Char} {s : Sigil} {ts : List Token} {text behind : List Char}
      (hc : Sigil.ofChar? c = some s) (hs : s ≠ .comment) (hbrace : s ≠ .rawEnd)
      (ht : t.Is (.sigil s) [c]) (h : Items d text ts behind) : Items d (c :: text) (t :: ts) behind
  /-- A name. -/
  | name {t : Token} {name : List Char} {ts : List Token} {text behind : List Char}
      (hn : IsName d name text) (ht : t.Is .identifier name) (h : Items d text ts behind) :
      Items d (name ++ text) (t :: ts) behind

/-- **The tokens that close a tag**, between two texts. -/
inductive Close (d : Delimiters) : List Char → List Token → List Char → Prop where
  /-- The closing delimiter. -/
  | plain {right : Token} {behind : List Char} (hr : right.Is .rightDelimiter d.closing) :
      Close d (d.closing ++ behind) [right] behind
  /-- A closing brace and right behind it the closing delimiter. -/
  | raw {brace right : Token} {behind : List Char} (hb : brace.Is (.sigil .rawEnd) ['\x7d'])
      (hr : right.Is .rightDelimiter d.closing) :
      Close d ('\x7d' :: d.closing ++ behind) [brace, right] behind
  /-- The sign of a comment, a text in which the closing delimiter does not occur, and the closing
  delimiter. -/
  | comment {sign body right : Token} {text behind : List Char}
      (hs : sign.Is (.sigil .comment) ['!']) (hb : body.Is .text text)
      (hc : ¬ d.closing <:+: text) (hr : right.Is .rightDelimiter d.closing) :
      Close d ('!' :: (text ++ d.closing ++ behind)) [sign, body, right] behind

/-- **The tokens that cut a tag short** before a text: the last of them is an error. -/
inductive Cut (d : Delimiters) : List Char → List Token → Prop where
  /-- An error. -/
  | error {t : Token} {text : List Char} (ht : t.kind = .error) : Cut d text [t]
  /-- The sign of a comment that is never closed, and an error. -/
  | comment {sign t : Token} {text : List Char} (hs : sign.Is (.sigil .comment) ['!'])
      (hc : ¬ d.closing <:+: text) (ht : t.kind = .error) : Cut d ('!' :: text) [sign, t]

/-! ## Token sequences -/

/-- **The tokens of a text** that begins outside tags, with the delimiters in force there: texts and
tags in turn, and one token that ends the sequence. -/
inductive Stream : Delimiters → List Char → List Token → Prop where
  /-- Nothing is left. -/
  | endOfInput {d : Delimiters} {t : Token} (ht : t.kind = .endOfInput) : Stream d [] [t]
  /-- An error outside tags. -/
  | error {d : Delimiters} {t : Token} {text : List Char} (ht : t.kind = .error) : Stream d text [t]
  /-- Text in which the opening delimiter does not occur. -/
  | text {d : Delimiters} {t : Token} {ts : List Token} {before text : List Char}
      (ht : t.Is .text before) (hne : before ≠ []) (ho : ¬ d.opening <:+: before)
      (h : Stream d text ts) : Stream d (before ++ text) (t :: ts)
  /-- Tags that change the delimiters, which have no tokens. -/
  | change {d d' : Delimiters} {ts : List Token} {gap text : List Char} (hc : Changes d gap d')
      (h : Stream d' text ts) : Stream d (gap ++ text) ts
  /-- A complete tag. -/
  | tag {d : Delimiters} {left : Token} {items close ts : List Token}
      {text middle behind : List Char} (hl : left.Is .leftDelimiter d.opening)
      (hi : Items d text items middle) (hc : Close d middle close behind) (h : Stream d behind ts) :
      Stream d (d.opening ++ text) (left :: (items ++ (close ++ ts)))
  /-- A tag that an error cuts short. -/
  | cutTag {d : Delimiters} {left : Token} {items cut : List Token} {text middle : List Char}
      (hl : left.Is .leftDelimiter d.opening) (hi : Items d text items middle)
      (hc : Cut d middle cut) : Stream d (d.opening ++ text) (left :: (items ++ cut))

/-- The tokens of a text that begins inside a tag. -/
inductive Inside (d : Delimiters) : List Char → List Token → Prop where
  /-- The tag is complete. -/
  | closed {items close ts : List Token} {text middle behind : List Char}
      (hi : Items d text items middle) (hc : Close d middle close behind) (h : Stream d behind ts) :
      Inside d text (items ++ (close ++ ts))
  /-- An error cuts the tag short. -/
  | cut {items cut : List Token} {text middle : List Char} (hi : Items d text items middle)
      (hc : Cut d middle cut) : Inside d text (items ++ cut)

/-- The opening delimiter stands before the inside of a tag. -/
theorem Inside.tag (h : Inside d text ts) (ht : t.Is .leftDelimiter d.opening) :
    Stream d (d.opening ++ text) (t :: ts) := by
  cases h with
  | closed hi hc h => exact .tag ht hi hc h
  | cut hi hc => exact .cutTag ht hi hc

/-- A token that may stand at the start of a tag stands before the rest of it. -/
theorem Inside.prepend {text' : List Char} (h : Inside d text ts)
    (hi : ∀ {us behind}, Items d text us behind → Items d text' (t :: us) behind) :
    Inside d text' (t :: ts) := by
  cases h with
  | closed hitems hc h => exact .closed (hi hitems) hc h
  | cut hitems hc => exact .cut (hi hitems) hc

/-- A blank may stand before the rest of a tag. -/
theorem Inside.blank {c : Char} (h : Inside d text ts) (hc : c = ' ' ∨ c = '\t' ∨ c = '\r') :
    Inside d (c :: text) ts := by
  cases h with
  | closed hitems hclose h => exact .closed (.blank hc hitems) hclose h
  | cut hitems hcut => exact .cut (.blank hc hitems) hcut

end Layout

namespace Scanner

open Layout

/-- The tokens of a state are laid out on the text that is ahead of it. In a comment they are so
behind its sign. -/
def LaidOut (s : Scanner) : Prop :=
  match s with
  | text d _ rest => Stream d rest s.tokens
  | tag d _ rest => Inside d rest s.tokens
  | comment d _ rest =>
    ∀ sign : Token, sign.Is (.sigil .comment) ['!'] → Inside d ('!' :: rest) (sign :: s.tokens)
  | closing d _ rest =>
    ∃ right ts, s.tokens = right :: ts ∧ right.Is .rightDelimiter d.closing ∧ Stream d rest ts
  | finished _ => True

variable {s s' : Scanner} {t : Token}

/-- A token that ends the sequence stands alone, or cuts a tag short. -/
theorem laidOut_of_move_terminal (hm : Move s (some t) s') (ht : t.isTerminal = true) :
    s.LaidOut := by
  have htokens := tokens_of_move_terminal hm ht
  cases hm with
  | endOfInput =>
    rw [LaidOut, htokens]
    exact .endOfInput rfl
  | changeFault =>
    rw [LaidOut, htokens]
    exact .error rfl
  | endInTag =>
    rw [LaidOut, htokens]
    exact .cut .nil (.error rfl)
  | lineEnd =>
    rw [LaidOut, htokens]
    exact .cut .nil (.error rfl)
  | unrecognized =>
    rw [LaidOut, htokens]
    exact .cut .nil (.error rfl)
  | endInComment h =>
    intro sign hs
    rw [htokens]
    exact .cut .nil (.comment hs h rfl)
  | finished => trivial
  | _ => cases ht

/-- Behind a move without a token the same tokens are laid out on what is left. -/
theorem laidOut_of_move_none (hm : Move s none s') (h : s'.LaidOut) : s.LaidOut := by
  have htokens := tokens_of_move_none hm
  cases hm with
  | @change d pos rest behind tag hr hc =>
    rw [LaidOut] at h
    rw [LaidOut, htokens]
    obtain ⟨rfl, hbody, hfields⟩ := Delimiters.readChange_eq_ok_iff.1 hc
    have hstream := Stream.change (.cons hbody hfields (.nil tag.delims)) h
    simpa [hr, Delimiters.changeTag] using hstream
  | blank hgo hn hc =>
    rw [LaidOut] at h
    rw [LaidOut, htokens]
    simp only [isTagBlank, Bool.or_eq_true, decide_eq_true_eq] at hc
    exact h.blank (by tauto)

/-- A token that does not end the sequence is laid out on the text that it takes. -/
theorem laidOut_of_move_some (hm : Move s (some t) s') (ht : t.isTerminal = false)
    (h : s'.LaidOut) : s.LaidOut := by
  have htokens := tokens_of_move_some hm ht
  cases hm with
  | @lastText d pos rest hne ho =>
    rw [LaidOut] at h
    rw [LaidOut, htokens]
    have hstream := Stream.text (Token.is_ofList .text rest pos) hne ho h
    rwa [List.append_nil] at hstream
  | @textBefore d pos rest before behind hne hr hc =>
    rw [LaidOut] at h
    rw [LaidOut, htokens, hr, List.append_assoc]
    exact .text (Token.is_ofList _ _ _) hne (hc.not_infix d.opening_ne_nil) h
  | openTag hr ho =>
    rw [LaidOut] at h
    rw [LaidOut, htokens, hr]
    exact h.tag (Token.is_ofList _ _ _)
  | rawEnd hr =>
    obtain ⟨right, ts, hts, hright, hstream⟩ := h
    rw [LaidOut, htokens, hr, hts]
    exact .closed .nil (.raw (Token.is_ofList _ ['\x7d'] _) hright) hstream
  | close hb hr =>
    rw [LaidOut] at h
    rw [LaidOut, htokens, hr]
    exact .closed .nil (.plain (Token.is_ofList _ _ _)) h
  | @commentSign d pos c behind hgo hc =>
    obtain rfl := Sigil.eq_of_ofChar?_comment hc
    rw [LaidOut, htokens]
    exact h _ (Token.is_ofList _ ['!'] pos)
  | @sign d pos c behind sign hgo hc hs =>
    rw [LaidOut] at h
    rw [LaidOut, htokens]
    have hbrace : sign ≠ .rawEnd := by
      rintro rfl
      exact Sigil.ofChar?_ne_rawEnd hc
    exact h.prepend fun hitems => .sign hc hs hbrace (Token.is_ofList _ [c] pos) hitems
  | @name d pos c behind hgo hc =>
    rw [LaidOut] at h
    rw [LaidOut, htokens]
    have hname := Layout.isName_of_cutName hgo hc
    have hinside := h.prepend fun hitems => .name hname (Token.is_ofList _ _ pos) hitems
    rwa [List.cons_append, Delimiters.cutName_append] at hinside
  | @commentBody d pos rest body behind hr hc =>
    obtain ⟨right, ts, hts, hright, hstream⟩ := h
    intro sign hs
    rw [htokens, hr, hts]
    have hbody := hc.not_infix d.closing_ne_nil
    exact .closed .nil (.comment hs (Token.is_ofList _ _ _) hbody hright) hstream
  | closing => exact ⟨_, _, htokens, Token.is_ofList _ _ _, h⟩
  | finished => trivial
  | _ => cases ht

/-- **Every state lays its tokens out** on the text that is ahead of it. -/
theorem laidOut (s : Scanner) : s.LaidOut := by
  induction s using induction_on_moves with
  | finished last => trivial
  | move s o s' _ hm ih =>
    cases o with
    | none => exact laidOut_of_move_none hm ih
    | some t =>
      cases ht : t.isTerminal with
      | true => exact laidOut_of_move_terminal hm ht
      | false => exact laidOut_of_move_some hm ht ih

/-- **The tokens of a template are laid out on it**: texts and tags in turn up to the token that
ends the sequence, under the delimiters in force at each of them. -/
theorem tokens_laidOut (d : Delimiters) (source : String) :
    Stream d source.toList
      (ofTexts (String.ofList d.opening) (String.ofList d.closing) source).tokens := by
  rw [ofTexts_eq_text]
  exact laidOut (text d Position.start source.toList)

end Scanner

end Mustache
