import Mustache.Proofs.Node.Steps
import Mustache.Proofs.Token.Streams

/-! # Parsing depends on the tokens alone
A parser sees a source only through the tokens that the source yields: every parser has the same
outcome on sources that are alike, and leaves them alike (`Agree`). So a scanner, which finds its
tokens one by one, is parsed like a queue, which holds them all (`parseNodes_eq_of_alike`). No
parser reads behind the token that ends the sequence (`parse_queue_eq_of_yields`). -/

namespace Mustache.Parser

open TokenSource

variable {σ τ : Type} [TokenSource σ] [TokenSource τ] {α β : Type}

/-! ## Outcomes that agree -/

/-- Two outcomes that tell the same: the same value with sources behind it that are alike, or the
same error. -/
inductive Agree {s : σ} {u : τ} : Except Error (α × After s) → Except Error (α × After u) → Prop
  /-- Both succeed. -/
  | ok {a : α} {s' : After s} {u' : After u} (h : Alike s'.1 u'.1) :
      Agree (.ok (a, s')) (.ok (a, u'))
  /-- Both fail. -/
  | error (e : Error) : Agree (.error e) (.error e)

section Agree

variable {s s₀ : σ} {u u₀ : τ} {r : Except Error (α × After s)} {r' : Except Error (α × After u)}

/-- Outcomes agree after another step when they agree before it and the step keeps that. -/
theorem Agree.bind (h : Agree r r') {f : α × After s → Except Error (β × After s₀)}
    {f' : α × After u → Except Error (β × After u₀)}
    (hf : ∀ a (s' : After s) (u' : After u), Alike s'.1 u'.1 → Agree (f (a, s')) (f' (a, u'))) :
    Agree (r >>= f) (r' >>= f') := by
  cases h with
  | ok h => exact hf _ _ _ h
  | error e => exact .error e

/-- Outcomes that agree are mapped to outcomes that agree. -/
theorem Agree.map (h : Agree r r') {f : α × After s → β × After s₀}
    {f' : α × After u → β × After u₀}
    (hf : ∀ a (s' : After s) (u' : After u), Alike s'.1 u'.1 →
      (f (a, s')).1 = (f' (a, u')).1 ∧ Alike (f (a, s')).2.1 (f' (a, u')).2.1) :
    Agree (r.map f) (r'.map f') := by
  cases h with
  | ok h =>
    rename_i a s' u'
    obtain ⟨ha, hs⟩ := hf a s' u' h
    show Agree (.ok ((f (a, s')).1, (f (a, s')).2)) (.ok ((f' (a, u')).1, (f' (a, u')).2))
    rw [ha]
    exact .ok hs
  | error e => exact .error e

/-- The whole result is the same when what follows depends on the value and the tokens alone. -/
theorem Agree.bind_eq (h : Agree r r') {f : α × After s → Except Error β}
    {f' : α × After u → Except Error β}
    (hf : ∀ a (s' : After s) (u' : After u), Alike s'.1 u'.1 → f (a, s') = f' (a, u')) :
    r >>= f = r' >>= f' := by
  cases h with
  | ok h => exact hf _ _ _ h
  | error e => rfl

end Agree

/-! ## Single tokens and spans -/

variable {s : σ} {u : τ}

/-- The next token of two sources that are alike, with what is left behind it. -/
theorem exists_next_of_alike (h : Alike s u) :
    ∃ t s' u', next s = (t, s') ∧ next u = (t, u') ∧ (t.isTerminal = false → Alike s' u') := by
  obtain ⟨ht, hrest⟩ := h.next
  refine ⟨(next s).1, (next s).2, (next u).2, rfl, ?_, hrest⟩
  rw [ht]

theorem expect_agree (h : Alike s u) {kind : Token.Kind} (hkind : kind.isTerminal = false) :
    Agree (expect kind s hkind) (expect kind u hkind) := by
  obtain ⟨t, s', u', hs, hu, hrest⟩ := exists_next_of_alike h
  rw [expect_of_next hkind hs, expect_of_next hkind hu]
  split
  · rename_i hk
    exact .ok (hrest (by rw [Token.isTerminal, hk, hkind]))
  · split
    · exact .error _
    · exact .error _

theorem readComment_agree (h : Alike s u) : Agree (readComment s) (readComment u) := by
  induction hn : remaining s using Nat.strong_induction_on generalizing s u with
  | _ n ih =>
    obtain ⟨t, s', u', hs, hu, hrest⟩ := exists_next_of_alike h
    rw [readComment_of_next hs, readComment_of_next hu]
    split
    · rename_i hk
      exact .ok (hrest (by rw [Token.isTerminal, hk]; rfl))
    · split
      · exact .error _
      · rename_i he
        split
        · exact .error _
        · rename_i hne
          have ht := isTerminal_eq_false he hne
          have hlt := hn ▸ remaining_lt_of_next hs ht
          exact (ih _ hlt (hrest ht) rfl).map fun _ _ _ h' => ⟨rfl, h'⟩

/-- Two outcomes of reading a span that tell the same. -/
inductive SpansAgree : Except Error (Span s) → Except Error (Span u) → Prop
  /-- Both find the mark. -/
  | ok {before : List Token} {mark : Token} {s' : After s} {u' : After u} (h : Alike s'.1 u'.1) :
      SpansAgree (.ok ⟨before, mark, s'⟩) (.ok ⟨before, mark, u'⟩)
  /-- Both fail. -/
  | error (e : Error) : SpansAgree (.error e) (.error e)

theorem readUntil_agree (h : Alike s u) {kind : Token.Kind} (hkind : kind.isTerminal = false) :
    SpansAgree (readUntil kind s hkind) (readUntil kind u hkind) := by
  induction hn : remaining s using Nat.strong_induction_on generalizing s u with
  | _ n ih =>
    obtain ⟨t, s', u', hs, hu, hrest⟩ := exists_next_of_alike h
    rw [readUntil_of_next hkind hs, readUntil_of_next hkind hu]
    split
    · rename_i hk
      exact .ok (hrest (by rw [Token.isTerminal, hk, hkind]))
    · split
      · exact .error _
      · rename_i he
        split
        · exact .error _
        · rename_i hne
          have ht := isTerminal_eq_false he hne
          have hlt := hn ▸ remaining_lt_of_next hs ht
          have hrec := ih _ hlt (hrest ht) rfl
          generalize readUntil kind s' hkind = r at hrec ⊢
          generalize readUntil kind u' hkind = r' at hrec ⊢
          cases hrec with
          | ok h' => exact .ok h'
          | error e => exact .error e

/-! ## Sections, tags and templates -/

theorem collectBody_agree (h : Alike s u) (name : Token) (inner : Nat) :
    Agree (collectBody name inner s) (collectBody name inner u) := by
  induction hn : remaining s using Nat.strong_induction_on generalizing s u inner with
  | _ n ih =>
    rw [collectBody, collectBody]
    have hspan := readUntil_agree h (Token.Kind.isTerminal_sigil .blockEnd)
    generalize readUntil (.sigil .blockEnd) s rfl = r at hspan ⊢
    generalize readUntil (.sigil .blockEnd) u rfl = r' at hspan ⊢
    cases hspan with
    | error e => cases e <;> exact .error _
    | ok h' =>
      rename_i before mark s' u'
      -- the name is only looked at, not taken: sources that are alike show the same one
      have hrec : ∀ inner, Agree (collectBody name inner s'.1) (collectBody name inner u'.1) :=
        fun inner => ih _ (hn ▸ s'.2) h' inner rfl
      have hnext : (next s'.1).1 = (next u'.1).1 := h'.next.1
      dsimp only
      rw [hnext]
      split
      · split
        · split
          · exact .ok h'
          · exact .error _
        · exact (hrec _).map fun _ _ _ h'' => ⟨rfl, h''⟩
      · exact (hrec _).map fun _ _ _ h'' => ⟨rfl, h''⟩

theorem parseSection_agree (h : Alike s u) (bodies : Option BodyParser) (inverted : Bool) :
    Agree (parseSection bodies inverted s) (parseSection bodies inverted u) := by
  unfold parseSection
  refine (expect_agree h rfl).bind fun name s₁ u₁ h₁ => ?_
  cases bodies with
  | none => exact .error _
  | some parseBody =>
    refine (expect_agree h₁ rfl).bind fun _ s₂ u₂ h₂ => ?_
    refine (collectBody_agree h₂ name 0).bind fun body s₃ u₃ h₃ => ?_
    refine (expect_agree h₃ rfl).bind fun _ s₄ u₄ h₄ => ?_
    refine (expect_agree h₄ rfl).bind fun _ s₅ u₅ h₅ => ?_
    dsimp only
    cases parseBody body with
    | ok nodes => exact .ok h₅
    | error e => exact .error e

theorem parseTag_agree (h : Alike s u) (bodies : Option BodyParser) :
    Agree (parseTag bodies s) (parseTag bodies u) := by
  obtain ⟨t, s', u', hs, hu, hrest⟩ := exists_next_of_alike h
  rw [parseTag_of_next hs, parseTag_of_next hu]
  split
  · exact .error _
  · rename_i he
    split
    · exact .error _
    · rename_i hn
      have h₁ := hrest (isTerminal_eq_false he hn)
      dsimp only
      split
      · exact (expect_agree h₁ rfl).bind fun _ _ _ h₂ => .ok h₂
      · refine (expect_agree h₁ rfl).bind fun _ _ _ h₂ => ?_
        refine (expect_agree h₂ rfl).bind fun _ _ _ h₃ => ?_
        exact (expect_agree h₃ rfl).bind fun _ _ _ h₄ => .ok h₄
      · refine (expect_agree h₁ rfl).bind fun _ _ _ h₂ => ?_
        exact (expect_agree h₂ rfl).bind fun _ _ _ h₃ => .ok h₃
      · exact (readComment_agree h₁).bind fun _ _ _ h₂ => .ok h₂
      · exact (parseSection_agree h₁ bodies false).bind fun _ _ _ h₂ => .ok h₂
      · exact (parseSection_agree h₁ bodies true).bind fun _ _ _ h₂ => .ok h₂
      · refine (expect_agree h₁ rfl).bind fun _ _ _ h₂ => ?_
        exact (expect_agree h₂ rfl).bind fun _ _ _ h₃ => .ok h₃
      · exact .error _

/-- **Templates are parsed alike** from sources that are alike. -/
theorem parseNodes_eq_of_alike (h : Alike s u) (bodies : Option BodyParser) :
    parseNodes bodies s = parseNodes bodies u := by
  induction hn : remaining s using Nat.strong_induction_on generalizing s u with
  | _ n ih =>
    obtain ⟨t, s', u', hs, hu, hrest⟩ := exists_next_of_alike h
    rw [parseNodes_of_next hs, parseNodes_of_next hu]
    split
    · rfl
    · split
      · rfl
      · split
        · rename_i hk
          have ht : t.isTerminal = false := by rw [Token.isTerminal, hk]; rfl
          rw [ih _ (hn ▸ remaining_lt_of_next hs ht) (hrest ht) rfl]
        · split
          · rename_i hk
            have ht : t.isTerminal = false := by rw [Token.isTerminal, hk]; rfl
            have hlt := hn ▸ remaining_lt_of_next hs ht
            refine (parseTag_agree (hrest ht) bodies).bind_eq fun node s₂ u₂ h₂ => ?_
            dsimp only
            rw [ih _ (Nat.lt_trans s₂.2 hlt) h₂ rfl]
          · rfl

/-- **Nothing behind the end is read**: a queue of what a source yields is parsed like the source,
whatever tokens stand behind the one that ends the sequence. -/
theorem parse_queue_eq_of_yields {ts : List Token} {last : Token} (h : Yields s ts last)
    (behind : List Token) :
    Node.parse (TokenQueue.ofTokens (ts ++ last :: behind)) = Node.parse s :=
  parseNodes_eq_of_alike ⟨ts, last, h.queue behind _, h⟩ _

end Mustache.Parser

namespace Mustache.Node

/-- **Tokens may be found one by one or beforehand.** A template has some tokens that do not end the
sequence and one that does. A queue of these tokens is parsed like the template itself, to the same
nodes or with the same error, and the tokens that follow in the queue make no difference. -/
theorem parse_tokens_append (opening closing source : String) :
    ∃ ts last, (Scanner.ofTexts opening closing source).tokens = ts ++ [last] ∧
      (∀ t ∈ ts, t.isTerminal = false) ∧ last.isTerminal = true ∧
      ∀ behind : List Token,
        Node.parse (TokenQueue.ofTokens (ts ++ [last] ++ behind)) =
          Node.parse (Scanner.ofTexts opening closing source) := by
  obtain ⟨ts, last, heq, hts, hlast⟩ := (Scanner.ofTexts opening closing source).exists_tokens_eq
  refine ⟨ts, last, heq, hts, hlast, fun behind => ?_⟩
  rw [List.append_assoc, List.singleton_append]
  exact Parser.parse_queue_eq_of_yields (TokenSource.yields_scanner heq) behind

end Mustache.Node
