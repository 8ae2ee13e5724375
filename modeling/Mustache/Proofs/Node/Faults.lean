import Mustache.Proofs.Node.Parsing
import Mustache.Proofs.Token.Brackets

/-! # Where parse errors point
An error of the parser is the error that stopped the scanner, or it blames a token inside a tag
(`Parser.Blamed`). The body of a section is parsed from a queue that ends with an end of input of its
own. Yet nothing is ever blamed on that end: a body begins and ends outside tags, where the end of
the input is welcome. So every parser, begun inside or outside a tag, succeeds or fails with such an
error (`Parser.Ends`). -/

namespace Mustache

open Token

/-- **The faults for which a token is to blame**. -/
inductive SyntaxFault.BlamedOn (t : Token) : SyntaxFault → Prop where
  /-- It cannot stand first in a tag. -/
  | unexpectedInTag : BlamedOn t (.unexpectedInTag t)
  /-- It stands where another kind must stand. -/
  | expected (kind : Token.Kind) : BlamedOn t (.expected kind t)
  /-- It names a section that is never closed. -/
  | unclosedSection (h : t.kind = .identifier) : BlamedOn t (.unclosedSection t.text)
  /-- It is the sign that closes a section and does not stand first in its tag. -/
  | malformedEnd (h : t.kind = .sigil .blockEnd) : BlamedOn t .malformedEnd
  /-- It names a section inside too many others. -/
  | tooDeep (h : t.kind = .identifier) : BlamedOn t (.tooDeep Parser.sectionLimit)

/-- The start of a message is not the start of a text that is longer and begins otherwise. -/
theorem not_prefix_append {start text : String} (hlen : start.toList.length ≤ text.toList.length)
    (h : ¬ start.toList <+: text.toList) (rest : String) :
    ¬ text.toList <+: (start ++ rest).toList := by
  intro htext
  rw [String.toList_append] at htext
  exact h (List.prefix_of_prefix_length_le (List.prefix_append _ _) htext hlen)

/-- No fault for which a token is to blame is the end of the input. -/
theorem SyntaxFault.BlamedOn.not_endOfInput {t : Token} {fault : SyntaxFault}
    (h : fault.BlamedOn t) : ¬ "unexpected end of input".toList <+: fault.message.toList := by
  have htoken : ∀ rest, ¬ "unexpected end of input".toList <+: ("unexpected token " ++ rest).toList :=
    not_prefix_append (by decide) (by decide)
  cases h with
  | unexpectedInTag =>
    show ¬ _ <+: ("unexpected token " ++ t.display ++ " in tag").toList
    rw [String.append_assoc]
    exact htoken _
  | expected kind =>
    show ¬ _ <+: ("unexpected token " ++ t.display ++ ", expected " ++ kind.name).toList
    rw [String.append_assoc, String.append_assoc]
    exact htoken _
  | unclosedSection => exact not_prefix_append (by decide) (by decide) _
  | malformedEnd => decide
  | tooDeep => decide

namespace Parser

open TokenSource

variable {tokens : List Token} {last : Terminal} {inside : Bool} {q : TokenQueue} {α β : Type}

/-! ## Errors with a place -/

/-- **Where an error points**: it is the one that ends the tokens, or it blames a token inside a
tag. -/
inductive Blamed (tokens : List Token) (last : Terminal) : Error → Prop where
  /-- The scanner was stopped by an error. -/
  | lexical (h : last.token.kind = .error) : Blamed tokens last (.ofToken last.token)
  /-- A token inside a tag is to blame. -/
  | malformed {t : Token} {fault : SyntaxFault} (ht : InTag tokens t) (h : fault.BlamedOn t) :
      Blamed tokens last (.malformed t.pos fault)

/-- **How a parser ends**: with a result of this property, or with an error that has its place. -/
inductive Ends (tokens : List Token) (last : Terminal) (post : α → Prop) : Except Error α → Prop
  where
  /-- It succeeds. -/
  | ok {a : α} (h : post a) : Ends tokens last post (.ok a)
  /-- It fails. -/
  | error {e : Error} (h : Blamed tokens last e) : Ends tokens last post (.error e)

/-- A parser behind another ends well if it does so behind each of its results. -/
theorem Ends.bind {pre : α → Prop} {post : β → Prop} {r : Except Error α} {f : α → Except Error β}
    (h : Ends tokens last pre r) (hf : ∀ a, pre a → Ends tokens last post (f a)) :
    Ends tokens last post (r >>= f) := by
  cases h with
  | ok h => exact hf _ h
  | error h => exact .error h

/-- The same for a parser that takes tokens. -/
theorem Ends.step {pre : α × After q → Prop} {post : β → Prop} {r : Except Error (α × After q)}
    {f : α × After q → Except Error β} (h : Ends tokens last pre r)
    (hf : ∀ a s, pre (a, s) → Ends tokens last post (f (a, s))) :
    Ends tokens last post (r >>= f) :=
  h.bind fun r => hf r.1 r.2

theorem Ends.map {pre : α → Prop} {post : β → Prop} {r : Except Error α} {f : α → β}
    (h : Ends tokens last pre r) (hf : ∀ a, pre a → post (f a)) :
    Ends tokens last post (r.map f) := by
  cases h with
  | ok h => exact .ok (hf _ h)
  | error h => exact .error h

/-! ## Single tokens -/

/-- **A place between the tokens**, inside or outside a tag: the queue holds those behind it. -/
def Stands (tokens : List Token) (last : Terminal) (inside : Bool) (q : TokenQueue) : Prop :=
  ∃ before rest, tokens = before ++ rest ∧ q = ⟨rest, last⟩ ∧ insideAfter false before = inside

/-- A parser leaves its queue at a place inside or outside a tag. -/
def LeavesAt (tokens : List Token) (last : Terminal) (inside : Bool) (r : α × After q) : Prop :=
  Stands tokens last inside r.2.1

/-- **The token behind a place** is the last one, and then an error if the place is inside a tag, or
one that leads to the next place. -/
theorem Stands.next (h : Stands tokens last inside q) (hts : Bracketed last.token false tokens) :
    TokenSource.next q = (last.token, q) ∧ (inside = true → last.token.kind = .error) ∨
      ∃ t q', TokenSource.next q = (t, q') ∧ t.isTerminal = false ∧ t.MayStand inside ∧
        (inside = true → InTag tokens t) ∧ Stands tokens last (t.leadsInside inside) q' := by
  obtain ⟨before, rest, rfl, rfl, hinside⟩ := h
  cases rest with
  | nil =>
    refine .inl ⟨TokenQueue.next_nil last, ?_⟩
    cases hinside ▸ hts.behind with
    | nil h => exact h
  | cons t rest =>
    have ht := hts.isTerminal_eq_false t (by simp)
    refine .inr ⟨t, ⟨rest, last⟩, next_queue_cons rest last ht, ht, hinside ▸ hts.mayStand, ?_, ?_⟩
    · rintro rfl
      exact ⟨before, rest, rfl, hinside⟩
    · exact ⟨before ++ [t], rest, by simp, rfl, by simp [hinside]⟩

/-- Inside a tag the next token is expected. -/
theorem ends_expect (h : Stands tokens last true q) (hts : Bracketed last.token false tokens)
    {kind : Token.Kind} (hkind : kind.isTerminal = false) :
    Ends tokens last (fun r => r.1.kind = kind ∧ InTag tokens r.1 ∧
      LeavesAt tokens last (kind ≠ .rightDelimiter) r) (expect kind q hkind) := by
  rcases h.next hts with ⟨hnext, hlast⟩ | ⟨t, q', hnext, ht, hstands, htag, hq'⟩
  · have he := hlast rfl
    have hk : last.token.kind ≠ kind := by
      rintro rfl
      rw [he] at hkind
      cases hkind
    rw [expect_of_next hkind hnext, dif_neg hk, if_pos he]
    exact .error (.lexical he)
  · rw [expect_of_next hkind hnext]
    split
    · rename_i hk
      refine .ok ⟨hk, htag rfl, ?_⟩
      have hleads : t.leadsInside true = decide (kind ≠ .rightDelimiter) := by
        cases hstands with
        | inside hleft => simp [Token.leadsInside, ← hk, hleft]
      exact hleads ▸ hq'
    · rw [if_neg (kind_ne_of_isTerminal ht).1]
      exact .error (.malformed (htag rfl) (.expected kind))

/-- A comment is read up to outside its tag. -/
theorem ends_readComment (h : Stands tokens last true q) (hts : Bracketed last.token false tokens) :
    Ends tokens last (LeavesAt tokens last false) (readComment q) := by
  induction hn : remaining q using Nat.strong_induction_on generalizing q with
  | _ n ih =>
    rcases h.next hts with ⟨hnext, hlast⟩ | ⟨t, q', hnext, ht, hstands, -, hq'⟩
    · have he := hlast rfl
      rw [readComment_of_next hnext, dif_neg (by simp [he]), dif_pos he]
      exact .error (.lexical he)
    · cases hstands with
      | inside hleft =>
        rw [readComment_of_next hnext]
        split
        · rename_i hk
          have hleaves : t.leadsInside true = false := by simp [Token.leadsInside, hk]
          rw [hleaves] at hq'
          exact .ok hq'
        · rename_i hk
          obtain ⟨he, hne⟩ := kind_ne_of_isTerminal ht
          rw [dif_neg he, dif_neg hne]
          have hstays : t.leadsInside true = true := by simp [Token.leadsInside, hleft, hk]
          have hlt := hn ▸ remaining_lt_of_next hnext ht
          exact (ih _ hlt (hstays ▸ hq') rfl).map fun _ h => h

/-! ## Sections -/

/-- Nothing is read up to a mark only for an error that ends the tokens, or for their end. -/
theorem error_of_readUntil (h : Stands tokens last inside q)
    (hts : Bracketed last.token false tokens) {kind : Token.Kind} {hkind : kind.isTerminal = false}
    {e : Error} (he : readUntil kind q hkind = .error e) :
    last.token.kind = .error ∧ e = .ofToken last.token ∨ ∃ pos fault, e = .malformed pos fault := by
  induction hn : remaining q using Nat.strong_induction_on generalizing q inside with
  | _ n ih =>
    rcases h.next hts with ⟨hnext, -⟩ | ⟨t, q', hnext, ht, -, -, hq'⟩
    · rw [readUntil_of_next hkind hnext] at he
      split at he
      · cases he
      · split at he
        · rename_i herror
          cases he
          exact .inl ⟨herror, rfl⟩
        · split at he
          · cases he
            exact .inr ⟨_, _, rfl⟩
          · -- the last token is of one of the two kinds
            rename_i herror hend
            rcases kind_of_isTerminal last.isTerminal with hk | hk
            · exact absurd hk herror
            · exact absurd hk hend
    · rw [readUntil_of_next hkind hnext] at he
      split at he
      · cases he
      · obtain ⟨herror, hend⟩ := kind_ne_of_isTerminal ht
        rw [dif_neg herror, dif_neg hend] at he
        exact ih _ (hn ▸ remaining_lt_of_next hnext ht) hq' (eq_error_of_map he) rfl

/-- **A sign that is found stands inside a tag**, and so does the parser behind it. -/
theorem stands_of_readUntil (h : Stands tokens last inside q)
    (hts : Bracketed last.token false tokens) {sign : Sigil} {span : Span q}
    (hr : readUntil (.sigil sign) q = .ok span) :
    span.mark.kind = .sigil sign ∧ InTag tokens span.mark ∧
      Stands tokens last true span.rest.1 := by
  obtain ⟨before, rest, rfl, rfl, -⟩ := h
  obtain ⟨passed, mark, q', hq'⟩ := span
  obtain ⟨-, hmark, rest', hrest, hlast⟩ := eq_of_readUntil hr
  dsimp only at hmark hrest hlast ⊢
  subst hrest hlast
  rw [← List.append_assoc] at hts ⊢
  have hin := hts.mayStand.eq_true (by simp [hmark]) (by simp [hmark])
  refine ⟨hmark, ⟨before ++ passed, rest', rfl, hin⟩,
    before ++ passed ++ [mark], rest', by simp, rfl, ?_⟩
  rw [insideAfter_append, hin]
  simp [Token.leadsInside, hmark]

variable {name : Token}

/-- **A body that cannot be collected** is blamed on the name of the section, or on the sign that
should close it. -/
theorem blamed_of_collectBody (hts : Bracketed last.token false tokens) (hname : InTag tokens name)
    (hkind : name.kind = .identifier) {inner : Nat} (h : Stands tokens last inside q) {e : Error}
    (he : collectBody name inner q = .error e) : Blamed tokens last e := by
  -- from one sign that closes a section to the next, all of which stand inside tags
  induction hn : remaining q using Nat.strong_induction_on generalizing q inside inner with
  | _ n ih =>
    rw [collectBody] at he
    cases hr : readUntil (.sigil .blockEnd) q with
    | error e' =>
      rw [hr] at he
      rcases error_of_readUntil h hts hr with ⟨hlast, rfl⟩ | ⟨pos, fault, rfl⟩
      · cases he
        exact .lexical hlast
      · cases he
        exact .malformed hname (.unclosedSection hkind)
    | ok span =>
      rw [hr] at he
      obtain ⟨hmark, htag, hq'⟩ := stands_of_readUntil h hts hr
      have hgoOn : ∀ inner', ((collectBody name inner' span.rest.1).map fun r =>
          (span.before ++ span.mark :: r.1, span.rest.trans r.2)) = .error e →
            Blamed tokens last e :=
        fun inner' hmap => ih _ (hn ▸ span.rest.2) hq' (eq_error_of_map hmap) rfl
      dsimp only at he
      split at he
      · split at he
        · split at he
          · cases he
          · cases he
            exact .malformed htag (.malformedEnd hmark)
        · exact hgoOn _ he
      · exact hgoOn _ he

/-- **The body of a section** is collected from outside tags to outside tags, and the parser stands
inside the tag that closes it. -/
theorem ends_collectBody (h : Stands tokens last false q) (hts : Bracketed last.token false tokens)
    (hname : InTag tokens name) (hkind : name.kind = .identifier) :
    Ends tokens last (fun r => (∀ last', Bracketed last' false r.1) ∧
      (∀ t, InTag r.1 t → InTag tokens t) ∧ LeavesAt tokens last true r)
      (collectBody name 0 q) := by
  cases hr : collectBody name 0 q with
  | error e => exact .error (blamed_of_collectBody hts hname hkind h hr)
  | ok r =>
    obtain ⟨body, q', hq'⟩ := r
    obtain ⟨before, rest, rfl, rfl, hinside⟩ := h
    have hcollects : Collects name 0 ⟨rest, last⟩ body q' := ⟨hq', hr⟩
    obtain ⟨left, mark, close, rest', rfl, hleft, hmark, -, rfl⟩ := hcollects.closed
    have hbody : Bracketed last.token false (body ++ left :: mark :: close :: rest') :=
      hinside ▸ hts.behind
    -- the opening delimiter of the tag stands outside tags, so the body ends there
    have hend : insideAfter false body = false := hbody.mayStand.eq_false hleft
    refine .ok ⟨fun last' => hbody.of_append hend last', ?_, ?_⟩
    · intro t ht
      have hwithin := ht.within hinside (left :: mark :: close :: rest')
      rwa [List.append_assoc] at hwithin
    · refine ⟨before ++ (body ++ [left, mark]), close :: rest', by simp, rfl, ?_⟩
      simp [hinside, hend, Token.leadsInside, hleft, hmark]

/-- **A parser of bodies blames tokens of the body**, if that begins and ends outside tags. -/
def BlamesBody (parseBody : BodyParser) : Prop :=
  ∀ body e, (∀ last, Bracketed last false body) → parseBody body = .error e →
    ∃ t fault, InTag body t ∧ fault.BlamedOn t ∧ e = .malformed t.pos fault

variable {parsers : Option BodyParser}

theorem ends_parseSection (h : Stands tokens last true q) (hts : Bracketed last.token false tokens)
    (hparsers : ∀ parseBody ∈ parsers, BlamesBody parseBody) (inverted : Bool) :
    Ends tokens last (LeavesAt tokens last false)
      (parseSection parsers inverted q) := by
  unfold parseSection
  refine (ends_expect h hts rfl).step fun name s₁ h₁ => ?_
  obtain ⟨hkind, hname, h₁⟩ := h₁
  cases parsers with
  | none => exact .error (.malformed hname (.tooDeep hkind))
  | some parseBody =>
    refine (ends_expect h₁ hts rfl).step fun _ s₂ h₂ => ?_
    refine (ends_collectBody h₂.2.2 hts hname hkind).step fun body s₃ h₃ => ?_
    obtain ⟨hbody, htags, h₃⟩ := h₃
    refine (ends_expect h₃ hts rfl).step fun _ s₄ h₄ => ?_
    refine (ends_expect h₄.2.2 hts rfl).step fun _ s₅ h₅ => ?_
    dsimp only
    cases hnodes : parseBody body with
    | ok nodes => exact .ok h₅.2.2
    | error e =>
      obtain ⟨t, fault, ht, hfault, rfl⟩ := hparsers parseBody rfl body e hbody hnodes
      exact .error (.malformed (htags t ht) hfault)

/-! ## Tags and templates -/

theorem ends_parseTag (h : Stands tokens last true q) (hts : Bracketed last.token false tokens)
    (hparsers : ∀ parseBody ∈ parsers, BlamesBody parseBody) :
    Ends tokens last (LeavesAt tokens last false) (parseTag parsers q) := by
  rcases h.next hts with ⟨hnext, hlast⟩ | ⟨t, q', hnext, ht, hstands, htag, hq'⟩
  · rw [parseTag_of_next hnext, dif_pos (hlast rfl)]
    exact .error (.lexical (hlast rfl))
  · obtain ⟨he, hn⟩ := kind_ne_of_isTerminal ht
    rw [parseTag_of_next hnext, dif_neg he, dif_neg hn]
    by_cases hr : t.kind = .rightDelimiter
    · simp only [hr]
      exact .error (.malformed (htag rfl) .unexpectedInTag)
    -- all other tokens leave the parser inside the tag
    have h₁ : Stands tokens last true q' := by
      cases hstands with
      | inside hl => simpa [Token.leadsInside, hl, hr] using hq'
    dsimp only
    split
    · exact (ends_expect h₁ hts rfl).step fun _ s₂ h₂ => .ok h₂.2.2
    · refine (ends_expect h₁ hts rfl).step fun _ s₂ h₂ => ?_
      refine (ends_expect h₂.2.2 hts rfl).step fun _ s₃ h₃ => ?_
      exact (ends_expect h₃.2.2 hts rfl).step fun _ s₄ h₄ => .ok h₄.2.2
    · refine (ends_expect h₁ hts rfl).step fun _ s₂ h₂ => ?_
      exact (ends_expect h₂.2.2 hts rfl).step fun _ s₃ h₃ => .ok h₃.2.2
    · exact (ends_readComment h₁ hts).step fun _ s₂ h₂ => .ok h₂
    · exact (ends_parseSection h₁ hts hparsers false).step fun _ s₂ h₂ => .ok h₂
    · exact (ends_parseSection h₁ hts hparsers true).step fun _ s₂ h₂ => .ok h₂
    · refine (ends_expect h₁ hts rfl).step fun _ s₂ h₂ => ?_
      exact (ends_expect h₂.2.2 hts rfl).step fun _ s₃ h₃ => .ok h₃.2.2
    · exact .error (.malformed (htag rfl) .unexpectedInTag)

/-- **Templates**: nothing outside tags is ever to blame. -/
theorem ends_parseNodes (h : Stands tokens last false q) (hts : Bracketed last.token false tokens)
    (hparsers : ∀ parseBody ∈ parsers, BlamesBody parseBody) :
    Ends tokens last (fun _ => True) (parseNodes parsers q) := by
  induction hn : remaining q using Nat.strong_induction_on generalizing q with
  | _ n ih =>
    rcases h.next hts with ⟨hnext, -⟩ | ⟨t, q', hnext, ht, hstands, -, hq'⟩
    · rw [parseNodes_of_next hnext]
      rcases kind_of_isTerminal last.isTerminal with hk | hk
      · rw [if_neg (by simp [hk]), if_pos hk]
        exact .error (.lexical hk)
      · rw [if_pos hk]
        exact .ok trivial
    · obtain ⟨he, hne⟩ := kind_ne_of_isTerminal ht
      have hlt := hn ▸ remaining_lt_of_next hnext ht
      rw [parseNodes_of_next hnext, if_neg hne, if_neg he]
      cases hstands with
      | outside hk =>
        rcases hk with hk | hk
        · rw [if_pos hk]
          have hstays : t.leadsInside false = false := by simp [Token.leadsInside, hk]
          exact (ih _ hlt (hstays ▸ hq') rfl).map fun _ _ => trivial
        · rw [if_neg (by simp [hk]), if_pos hk]
          have htag : t.leadsInside false = true := by simp [Token.leadsInside, hk]
          refine (ends_parseTag (htag ▸ hq') hts hparsers).step fun _ rest hrest => ?_
          refine (ih _ (Nat.lt_trans rest.2 hlt) hrest rfl).bind fun _ _ => ?_
          exact .ok trivial

/-- **No body ends inside a tag**: whatever the nesting, its own end of input is never to blame. -/
theorem blamesBody_of_mem_bodies (room : Nat) : ∀ parseBody ∈ bodies room, BlamesBody parseBody := by
  induction room with
  | zero => exact fun _ h => nomatch h
  | succ room ih =>
    intro parseBody hparse body e hbody he
    obtain rfl := Option.some.inj hparse
    have hstands : Stands body (TokenQueue.ofTokens body).last false (TokenQueue.ofTokens body) :=
      ⟨[], body, rfl, rfl, rfl⟩
    have hends := ends_parseNodes hstands (hbody _) ih
    dsimp only at he
    rw [he] at hends
    cases hends with
    | error h =>
      -- a body ends with the end of its input, which is no error
      cases h with
      | lexical h => cases h
      | malformed ht hfault => exact ⟨_, _, ht, hfault, rfl⟩

/-- The tokens of a scan that begins outside tags, and how its template ends. -/
theorem exists_blamed_of_parse {s : Scanner} (hs : s.inside = false) :
    ∃ ts, ∃ last : Terminal, s.tokens = ts ++ [last.token] ∧ (∀ t ∈ ts, t.isTerminal = false) ∧
      ∀ e, Node.parse s = .error e → Blamed ts last e := by
  obtain ⟨ts, t, heq, ht, hts⟩ := s.exists_bracketed_tokens
  rw [hs] at hts
  refine ⟨ts, ⟨t, ht⟩, heq, hts.isTerminal_eq_false, ?_⟩
  intro e he
  have hparse : Node.parse s = parseNodes (bodies sectionLimit) (TokenQueue.mk ts ⟨t, ht⟩) :=
    parse_scanner_eq heq hts.isTerminal_eq_false
  have hends : Ends ts ⟨t, ht⟩ (fun _ => True) (Node.parse s) :=
    hparse ▸ ends_parseNodes ⟨[], ts, rfl, rfl, rfl⟩ hts (blamesBody_of_mem_bodies _)
  rw [he] at hends
  cases hends with
  | error h => exact h

end Parser

namespace Node

open Mustache.Parser Grammar

/-- **Where parse errors point.** The tokens of a template are some that do not end the sequence,
and one that does. An error of the parser is the error of this last token, with its place and its
text, or it is at the place of one of the other tokens, which lies inside a tag and is to blame. If
the last token is an error, the template is never parsed. So no fault says that the end of the input
was unexpected. -/
theorem parse_error_position (opening closing source : String) :
    ∃ ts last, (Scanner.ofTexts opening closing source).tokens = ts ++ [last] ∧
      (∀ t ∈ ts, t.isTerminal = false) ∧
      (∀ e, Node.parse (Scanner.ofTexts opening closing source) = .error e →
        last.kind = .error ∧ e = .lexical last.pos last.text ∨
          ∃ t fault, InTag ts t ∧ fault.BlamedOn t ∧ e = .malformed t.pos fault) ∧
      (last.kind = .error →
        ∃ e, Node.parse (Scanner.ofTexts opening closing source) = .error e) ∧
      ∀ pos fault,
        Node.parse (Scanner.ofTexts opening closing source) = .error (.malformed pos fault) →
          ¬ "unexpected end of input".toList <+: fault.message.toList := by
  have hs : (Scanner.ofTexts opening closing source).inside = false := by
    unfold Scanner.ofTexts
    split <;> rfl
  generalize Scanner.ofTexts opening closing source = s at hs ⊢
  obtain ⟨ts, last, heq, hts, hblamed⟩ := exists_blamed_of_parse hs
  refine ⟨ts, last.token, heq, hts, ?_, ?_, ?_⟩
  · intro e he
    cases hblamed e he with
    | lexical h => exact .inl ⟨h, rfl⟩
    | malformed ht hfault => exact .inr ⟨_, _, ht, hfault, rfl⟩
  · intro hlast
    cases hparse : Node.parse s with
    | error e => exact ⟨e, rfl⟩
    | ok nodes =>
      -- what is parsed comes to the end of the input
      obtain ⟨ts', ⟨t, heq', ht, -⟩, -⟩ := accepts_of_parse hparse
      obtain ⟨rfl, rfl⟩ := List.append_singleton_inj.1 (heq.symm.trans heq')
      rw [hlast] at ht
      cases ht
  · intro pos fault he
    cases hblamed _ he with
    | malformed _ hfault => exact hfault.not_endOfInput

end Node

end Mustache
