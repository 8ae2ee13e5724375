import Mustache.Proofs.Token.Moves

/-! # The shape of a token sequence
What may follow what in the tokens of a scanner. Behind the sign of a comment stands its text and
then the closing delimiter, so nothing but text stands in a comment (`plainComments_tokens`). -/

namespace Mustache

/-- Nothing but text stands between the sign of a comment and the next closing delimiter. -/
def PlainComments (tokens : List Token) : Prop :=
  ∀ before sign body right behind, tokens = before ++ sign :: (body ++ right :: behind) →
    sign.kind = .sigil .comment → right.kind = .rightDelimiter →
    (∀ t ∈ body, t.kind ≠ .rightDelimiter) → ∀ t ∈ body, t.kind = .text

namespace PlainComments

/-- A stretch of such tokens is of the same shape. -/
theorem of_infix {tokens part : List Token} (h : PlainComments tokens) (hp : part <:+: tokens) :
    PlainComments part := by
  obtain ⟨a, b, rfl⟩ := hp
  rintro before sign body right behind rfl
  exact h (a ++ before) sign body right (behind ++ b) (by simp)

/-- A token in front that begins no comment does not matter. -/
theorem cons {t : Token} {tokens : List Token} (ht : t.kind ≠ .sigil .comment)
    (h : PlainComments tokens) : PlainComments (t :: tokens) := by
  intro before sign body right behind heq hs
  cases before with
  | nil =>
    rw [List.nil_append, List.cons.injEq] at heq
    exact absurd (heq.1 ▸ hs) ht
  | cons u before =>
    rw [List.cons_append, List.cons.injEq] at heq
    exact h before sign body right behind heq.2 hs

/-- A sign at the end but for a token that is no closing delimiter. -/
theorem unclosed (sign : Token) {t : Token} (ht : t.kind ≠ .rightDelimiter) :
    PlainComments [sign, t] := by
  intro before sign' body right behind heq _ hr _
  have hmem : right ∈ [sign, t].tail := by
    cases before with
    | nil => simp [(List.cons.inj heq).2]
    | cons u before => simp [(List.cons.inj heq).2]
  rw [List.tail_cons, List.mem_singleton] at hmem
  exact absurd (hmem ▸ hr) ht

/-- A comment in front that is one text and the closing delimiter. -/
theorem comment {sign text right : Token} {tokens : List Token}
    (ht : text.kind = .text) (hr : right.kind = .rightDelimiter) (h : PlainComments tokens) :
    PlainComments (sign :: text :: right :: tokens) := by
  have htail : PlainComments (text :: right :: tokens) :=
    (h.cons (by rw [hr]; simp)).cons (by rw [ht]; simp)
  intro before sign' body right' behind heq hs' hr' hb
  cases before with
  | cons u before =>
    rw [List.cons_append, List.cons.injEq] at heq
    exact htail before sign' body right' behind heq.2 hs' hr' hb
  | nil =>
    rw [List.nil_append, List.cons.injEq] at heq
    obtain ⟨rfl, heq⟩ := heq
    -- the body is empty or the text alone, as a closing delimiter cannot stand in it
    cases body with
    | nil => simp
    | cons u body =>
      rw [List.cons_append, List.cons.injEq] at heq
      obtain ⟨rfl, heq⟩ := heq
      cases body with
      | nil => simpa using ht
      | cons v body =>
        rw [List.cons_append, List.cons.injEq] at heq
        exact absurd (heq.1 ▸ hr) (hb v (by simp))

end PlainComments

namespace Scanner

/-- Inside a comment the scanner hands out an error, or the text and the closing delimiter. -/
theorem tokens_comment (d : Delimiters) (pos : Position) (rest : List Char) :
    (∃ t, (comment d pos rest).tokens = [t] ∧ t.kind = .error) ∨
      ∃ t right behind, (comment d pos rest).tokens = t :: right :: behind ∧ t.kind = .text ∧
        right.kind = .rightDelimiter := by
  have hm := move_step (comment d pos rest)
  revert hm
  generalize (comment d pos rest).step.1 = o
  generalize (comment d pos rest).step.2 = s'
  intro hm
  cases hm with
  | commentBody hr h =>
    right
    have htext := tokens_of_move_some (.commentBody hr h : Move (comment d pos rest) _ _) rfl
    rw [tokens_of_move_some .closing rfl] at htext
    exact ⟨_, _, _, htext, rfl, rfl⟩
  | endInComment h => exact .inl ⟨_, tokens_of_move_terminal (.endInComment h) rfl, rfl⟩

/-- **Nothing but text stands in a comment** of a scan. -/
theorem plainComments_tokens (s : Scanner) : PlainComments s.tokens := by
  have hsingle : ∀ t : Token, PlainComments [t] := by
    rintro t (_ | ⟨u, before⟩) sign body right behind heq <;> simp at heq
  induction s using induction_on_moves with
  | finished last =>
    rw [tokens_finished]
    exact hsingle last.token
  | move s o s' hf hm ih =>
    cases o with
    | none => rwa [tokens_of_move_none hm]
    | some t =>
      cases ht : t.isTerminal with
      | true =>
        rw [tokens_of_move_terminal hm ht]
        exact hsingle t
      | false =>
        rw [tokens_of_move_some hm ht]
        by_cases hk : t.kind = .sigil .comment
        · -- the sign of a comment leads into the comment
          obtain ⟨d, pos, rest, rfl⟩ : ∃ d pos rest, s' = comment d pos rest := by
            cases hm with
            | commentSign => exact ⟨_, _, _, rfl⟩
            | sign _ _ hs => exact absurd (Token.Kind.sigil.inj hk) hs
            | finished =>
              rw [Terminal.isTerminal] at ht
              cases ht
            | _ => cases hk
          rcases tokens_comment d pos rest with ⟨e, he, hke⟩ | ⟨text, right, behind, hb, hkt, hkr⟩
          · rw [he]
            exact .unclosed t (by rw [hke]; simp)
          · rw [hb] at ih ⊢
            exact .comment hkt hkr (ih.of_infix ⟨[text, right], [], by simp⟩)
        · exact ih.cons hk

end Scanner

end Mustache
