import Mustache.Proofs.Token.Tiling

/-! # Tokens inside and outside tags
An opening delimiter leads into a tag and a closing one out of it. In the tokens of a scan the two
come in turn: outside tags stand only texts and opening delimiters, inside a tag no opening
delimiter, and what ends the sequence inside a tag is an error (`Scanner.exists_bracketed_tokens`).
So a stretch from outside tags to outside tags is a sequence of the same shape
(`Bracketed.of_append`), whatever ends it. -/

namespace Mustache

namespace Token

/-- Whether a tag goes on behind some tokens, when one did before them or did not. -/
def insideAfter (inside : Bool) (tokens : List Token) : Bool :=
  tokens.foldl (fun inside t => t.leadsInside inside) inside

@[simp] theorem insideAfter_nil (inside : Bool) : insideAfter inside [] = inside := rfl

@[simp] theorem insideAfter_cons (inside : Bool) (t : Token) (tokens : List Token) :
    insideAfter inside (t :: tokens) = insideAfter (t.leadsInside inside) tokens := rfl

@[simp] theorem insideAfter_append (inside : Bool) (tokens tokens' : List Token) :
    insideAfter inside (tokens ++ tokens') = insideAfter (insideAfter inside tokens) tokens' :=
  List.foldl_append

/-- **A token lies inside a tag**: one goes on behind the tokens before it. -/
def InTag (tokens : List Token) (t : Token) : Prop :=
  ∃ before behind, tokens = before ++ t :: behind ∧ insideAfter false before = true

/-- Inside a tag of a stretch that begins outside tags is inside a tag of the whole. -/
theorem InTag.within {before tokens : List Token} {t : Token} (h : InTag tokens t)
    (hbefore : insideAfter false before = false) (behind : List Token) :
    InTag (before ++ tokens ++ behind) t := by
  obtain ⟨before', behind', rfl, hinside⟩ := h
  refine ⟨before ++ before', behind' ++ behind, by simp, ?_⟩
  rw [insideAfter_append, hbefore, hinside]

/-- **Where a token may stand**, inside or outside a tag. -/
inductive MayStand (t : Token) : (inside : Bool) → Prop where
  /-- Outside tags: a text or an opening delimiter. -/
  | outside (h : t.kind = .text ∨ t.kind = .leftDelimiter) : t.MayStand false
  /-- Inside a tag: no opening delimiter. -/
  | inside (h : t.kind ≠ .leftDelimiter) : t.MayStand true

/-- An opening delimiter stands outside tags. -/
theorem MayStand.eq_false {t : Token} {inside : Bool} (h : t.MayStand inside)
    (ht : t.kind = .leftDelimiter) : inside = false := by
  cases h with
  | outside => rfl
  | inside h => exact absurd ht h

/-- What is neither text nor an opening delimiter stands inside a tag. -/
theorem MayStand.eq_true {t : Token} {inside : Bool} (h : t.MayStand inside)
    (htext : t.kind ≠ .text) (hleft : t.kind ≠ .leftDelimiter) : inside = true := by
  cases h with
  | outside h => exact absurd h (by simp [htext, hleft])
  | inside => rfl

/-- **Tokens in brackets** from inside or outside a tag on, and the one that ends them: every token
is where it may stand, and the end is not inside a tag unless it is an error. -/
inductive Bracketed (last : Token) : (inside : Bool) → List Token → Prop where
  /-- No token before the end. -/
  | nil {inside : Bool} (h : inside = true → last.kind = .error) : Bracketed last inside []
  /-- A token that does not end the sequence, and more behind it. -/
  | cons {inside : Bool} {t : Token} {tokens : List Token} (ht : t.isTerminal = false)
      (hstands : t.MayStand inside) (h : Bracketed last (t.leadsInside inside) tokens) :
      Bracketed last inside (t :: tokens)

namespace Bracketed

variable {last : Token} {inside : Bool} {before tokens : List Token} {t : Token}

/-- Behind some tokens the others are in brackets. -/
theorem behind (h : Bracketed last inside (before ++ tokens)) :
    Bracketed last (insideAfter inside before) tokens := by
  induction before generalizing inside with
  | nil => exact h
  | cons u before ih =>
    cases h with
    | cons _ _ h => exact ih h

/-- None of the tokens ends the sequence. -/
theorem isTerminal_eq_false (h : Bracketed last inside tokens) :
    ∀ t ∈ tokens, t.isTerminal = false := by
  induction h with
  | nil => exact fun _ h => nomatch h
  | cons ht _ _ ih => exact List.forall_mem_cons.2 ⟨ht, ih⟩

/-- Every token is where it may stand. -/
theorem mayStand (h : Bracketed last inside (before ++ t :: tokens)) :
    t.MayStand (insideAfter inside before) := by
  cases h.behind with
  | cons _ hstands _ => exact hstands

/-- **A stretch up to outside tags** is in brackets, whatever ends it. -/
theorem of_append (h : Bracketed last inside (before ++ tokens))
    (hbefore : insideAfter inside before = false) (last' : Token) :
    Bracketed last' inside before := by
  induction before generalizing inside with
  | nil =>
    refine .nil fun hinside => ?_
    rw [insideAfter_nil, hinside] at hbefore
    cases hbefore
  | cons u before ih =>
    cases h with
    | cons ht hstands h => exact .cons ht hstands (ih h hbefore)

end Bracketed

end Token

namespace Scanner

open Token

variable {s s' : Scanner} {t : Token}

/-- A token that ends the sequence inside a tag is an error. -/
theorem kind_of_move_terminal (hm : Move s (some t) s') (ht : t.isTerminal = true)
    (hs : s.inside = true) : t.kind = .error := by
  cases hm with
  | endInTag | lineEnd | unrecognized | endInComment => rfl
  | endOfInput | changeFault | finished => cases hs
  | _ => cases ht

/-- A move hands out a token where it may stand. -/
theorem mayStand_of_move (hm : Move s (some t) s') (ht : t.isTerminal = false) :
    t.MayStand s.inside := by
  cases hm with
  | lastText | textBefore => exact .outside (.inl rfl)
  | openTag => exact .outside (.inr rfl)
  | rawEnd | close | commentSign | sign | name | commentBody | closing => exact .inside (by simp)
  | finished =>
    rw [Terminal.isTerminal] at ht
    cases ht
  | _ => cases ht

/-- **The tokens of every state are in brackets**, from inside or outside a tag as the state is. -/
theorem exists_bracketed_tokens (s : Scanner) :
    ∃ ts last, s.tokens = ts ++ [last] ∧ last.isTerminal = true ∧ Bracketed last s.inside ts := by
  -- along the moves: each token leads to the side of a delimiter where the next state is
  induction s using induction_on_moves with
  | finished last =>
    exact ⟨[], last.token, tokens_finished last, last.isTerminal, .nil fun h => nomatch h⟩
  | move s o s' _ hm ih =>
    obtain ⟨ts, last, heq, hlast, hts⟩ := ih
    cases o with
    | none =>
      obtain ⟨-, -, -, -, hinside, -⟩ := piece_of_move_none hm
      exact ⟨ts, last, (tokens_of_move_none hm).trans heq, hlast, hinside ▸ hts⟩
    | some t =>
      cases ht : t.isTerminal with
      | true =>
        exact ⟨[], t, tokens_of_move_terminal hm ht, ht, .nil (kind_of_move_terminal hm ht)⟩
      | false =>
        have hf : s'.isFinished = false := (isTerminal_of_move hm).symm.trans ht
        obtain ⟨-, -, -, -, hinside⟩ := piece_of_move_some hm hf
        refine ⟨t :: ts, last, ?_, hlast, .cons ht (mayStand_of_move hm ht) (hinside ▸ hts)⟩
        rw [tokens_of_move_some hm ht, heq, List.cons_append]

end Scanner

end Mustache
