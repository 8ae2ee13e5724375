import Mathlib.Data.List.Basic
import Mustache.Proofs.Node.Steps

/-! # What the parser takes from a queue
For a queue of tokens each step of the parser has a plain reading: it succeeds exactly when the
tokens in store begin with what it looks for, and leaves the others (`takes_expect_iff`,
`readUntil_append`, `eq_of_readUntil`). The body of a section is collected from one closing sign to
the next (`collects_iff`), so it ends before a tag that closes the section (`Collects.closed`), and
tokens without such signs are passed over (`Collects.append`). -/

namespace Mustache.Parser

open TokenSource

variable {ts : List Token} {last : Terminal} {t : Token} {q : TokenQueue}

/-! ## Single tokens and spans -/

/-- A token before the end of a queue is the first in store. -/
theorem next_queue_eq_iff (ht : t.isTerminal = false) :
    next (TokenQueue.mk ts last) = (t, q) ↔ ∃ ts', ts = t :: ts' ∧ q = ⟨ts', last⟩ := by
  constructor
  · intro h
    cases ts with
    | nil =>
      cases h
      rw [last.isTerminal] at ht
      cases ht
    | cons u ts =>
      have hu : u = t := by
        have := congrArg Prod.fst h
        rwa [show (next (TokenQueue.mk (u :: ts) last)).1 = u from
          TokenQueue.fst_next_cons u ts last] at this
      subst hu
      have := (TokenQueue.next_cons u ts last ht).symm.trans h
      cases this
      exact ⟨ts, rfl, rfl⟩
  · rintro ⟨ts', rfl, rfl⟩
    exact TokenQueue.next_cons t ts' last ht

/-- The next token of a queue whose first token in store does not end the sequence. -/
theorem next_queue_cons (ts : List Token) (last : Terminal) (ht : t.isTerminal = false) :
    next (TokenQueue.mk (t :: ts) last) = (t, ⟨ts, last⟩) :=
  (next_queue_eq_iff ht).2 ⟨ts, rfl, rfl⟩

/-- A token of a kind that does not end a sequence does not end it. -/
theorem isTerminal_of_kind {kind : Token.Kind} (hk : t.kind = kind)
    (hkind : kind.isTerminal = false) : t.isTerminal = false := by
  rw [Token.isTerminal, hk, hkind]

/-- What is mapped to a result is a result. -/
theorem exists_of_map_eq_ok {α β : Type} {f : α → β} {r : Except Error α} {b : β}
    (h : r.map f = .ok b) : ∃ a, r = .ok a ∧ f a = b := by
  cases r with
  | error e => cases h
  | ok a => exact ⟨a, rfl, Except.ok.inj h⟩

/-- What is mapped to an error is that error. -/
theorem eq_error_of_map {α β : Type} {f : α → β} {r : Except Error α} {e : Error}
    (h : r.map f = .error e) : r = .error e := by
  cases r with
  | error e' =>
    cases h
    rfl
  | ok a => cases h

/-- A step takes some tokens, finds `a` in them, and leaves `q`. -/
def Takes {σ α : Type} [TokenSource σ] {s : σ} (r : Except Error (α × After s)) (a : α) (q : σ) :
    Prop :=
  ∃ hq, r = .ok (a, ⟨q, hq⟩)

/-- **Two steps**, one after the other, take what both take. -/
theorem takes_bind_iff {σ α β : Type} [TokenSource σ] {s s₀ : σ} {r : Except Error (α × After s)}
    {f : α × After s → Except Error (β × After s₀)} {b : β} {q : σ} :
    Takes (r >>= f) b q ↔ ∃ a q' hq', r = .ok (a, ⟨q', hq'⟩) ∧ Takes (f (a, ⟨q', hq'⟩)) b q := by
  constructor
  · rintro ⟨hq, h⟩
    cases r with
    | error e => cases h
    | ok r => exact ⟨r.1, r.2.1, r.2.2, rfl, hq, h⟩
  · rintro ⟨a, q', hq', rfl, h⟩
    exact h

theorem Takes.bind {σ α β : Type} [TokenSource σ] {s s₀ : σ} {r : Except Error (α × After s)}
    {f : α × After s → Except Error (β × After s₀)} {a : α} {b : β} {q' q : σ} (h : Takes r a q')
    (hf : ∀ hq', Takes (f (a, ⟨q', hq'⟩)) b q) : Takes (r >>= f) b q :=
  takes_bind_iff.2 ⟨a, q', h.1, h.2, hf h.1⟩

/-- An error behind a step is the error of both. -/
theorem Takes.bind_error {σ α β : Type} [TokenSource σ] {s : σ} {r : Except Error (α × After s)}
    {f : α × After s → Except Error β} {a : α} {q : σ} {e : Error} (h : Takes r a q)
    (hf : ∀ hq, f (a, ⟨q, hq⟩) = .error e) : r >>= f = .error e := by
  obtain ⟨hq, rfl⟩ := h
  exact hf hq

theorem takes_ok_iff {σ α : Type} [TokenSource σ] {s : σ} {a b : α} {s' : After s} {q : σ} :
    Takes (.ok (a, s')) b q ↔ a = b ∧ s'.1 = q := by
  constructor
  · rintro ⟨hq, h⟩
    cases h
    exact ⟨rfl, rfl⟩
  · rintro ⟨rfl, rfl⟩
    exact ⟨s'.2, rfl⟩

/-- A token is taken when it is the first in store and of the right kind. -/
theorem takes_expect_iff {kind : Token.Kind} (hkind : kind.isTerminal = false) :
    Takes (expect kind (TokenQueue.mk ts last) hkind) t q ↔
      t.kind = kind ∧ ∃ ts', ts = t :: ts' ∧ q = ⟨ts', last⟩ := by
  constructor
  · rintro ⟨hq, h⟩
    obtain ⟨u, q', hs⟩ : ∃ u q', next (TokenQueue.mk ts last) = (u, q') := ⟨_, _, rfl⟩
    rw [expect_of_next hkind hs] at h
    split at h
    · rename_i hk
      cases h
      exact ⟨hk, (next_queue_eq_iff (isTerminal_of_kind hk hkind)).1 hs⟩
    · split at h <;> cases h
  · rintro ⟨hk, ts', rfl, rfl⟩
    have ht := isTerminal_of_kind hk hkind
    refine ⟨remaining_lt_of_next (next_queue_cons _ _ ht) ht, ?_⟩
    rw [expect_of_next hkind (next_queue_cons _ _ ht), dif_pos hk]

/-- A token that does not end the sequence is of neither kind that does. -/
theorem kind_ne_of_isTerminal (ht : t.isTerminal = false) :
    t.kind ≠ .error ∧ t.kind ≠ .endOfInput := by
  constructor <;> intro hk <;> rw [Token.isTerminal, hk] at ht <;> cases ht

/-- A token that ends the sequence is of one of two kinds. -/
theorem kind_of_isTerminal (ht : t.isTerminal = true) : t.kind = .error ∨ t.kind = .endOfInput := by
  unfold Token.isTerminal at ht
  cases hk : t.kind with
  | error => exact .inl rfl
  | endOfInput => exact .inr rfl
  | _ => rw [hk] at ht; cases ht

/-- Tokens of other kinds are read up to the mark. -/
theorem readUntil_append {kind : Token.Kind} (ts : List Token) (last : Terminal)
    (hkind : kind.isTerminal = false) {before : List Token}
    (hb : ∀ t ∈ before, t.kind ≠ kind ∧ t.isTerminal = false) (hk : t.kind = kind) :
    ∃ h, readUntil kind (TokenQueue.mk (before ++ t :: ts) last) hkind =
      .ok ⟨before, t, ⟨⟨ts, last⟩, h⟩⟩ := by
  induction before with
  | nil =>
    have hs : next (TokenQueue.mk ([] ++ t :: ts) last) = (t, ⟨ts, last⟩) :=
      next_queue_cons _ _ (isTerminal_of_kind hk hkind)
    exact ⟨_, (readUntil_of_next hkind hs).trans (dif_pos hk)⟩
  | cons u before ih =>
    obtain ⟨hu, hut⟩ := hb u List.mem_cons_self
    obtain ⟨h, hr⟩ := ih fun v hv => hb v (List.mem_cons_of_mem u hv)
    have hs : next (TokenQueue.mk (u :: before ++ t :: ts) last) = (u, ⟨before ++ t :: ts, last⟩) :=
      next_queue_cons _ _ hut
    obtain ⟨he, hn⟩ := kind_ne_of_isTerminal hut
    refine ⟨Nat.lt_trans h (remaining_lt_of_next hs hut), (readUntil_of_next hkind hs).trans ?_⟩
    rw [dif_neg hu, dif_neg he, dif_neg hn, hr]
    rfl

/-- The token that ends a sequence is no mark. -/
theorem readUntil_ne_ok {σ : Type} [TokenSource σ] {s s' : σ} {kind : Token.Kind}
    (hkind : kind.isTerminal = false) (hs : next s = (t, s')) (ht : t.isTerminal = true)
    (span : Span s) : readUntil kind s hkind ≠ .ok span := by
  intro h
  rw [readUntil_of_next hkind hs] at h
  split at h
  · rename_i hk
    rw [isTerminal_of_kind hk hkind] at ht
    cases ht
  · split at h
    · cases h
    · rename_i he
      rw [dif_pos ((kind_of_isTerminal ht).resolve_left he)] at h
      cases h

/-- What is read up to a mark is tokens of other kinds and the mark. -/
theorem eq_of_readUntil {kind : Token.Kind} {hkind : kind.isTerminal = false}
    {span : Span (TokenQueue.mk ts last)}
    (h : readUntil kind (TokenQueue.mk ts last) hkind = .ok span) :
    (∀ t ∈ span.before, t.kind ≠ kind ∧ t.isTerminal = false) ∧ span.mark.kind = kind ∧
      ∃ ts', ts = span.before ++ span.mark :: ts' ∧ span.rest.1 = ⟨ts', last⟩ := by
  induction ts with
  | nil => exact absurd h (readUntil_ne_ok hkind (TokenQueue.next_nil last) last.isTerminal span)
  | cons u ts ih =>
    cases hut : u.isTerminal with
    | true =>
      -- a queue with such a token in store ends there
      have hs : next (TokenQueue.mk (u :: ts) last) = (u, ⟨ts, ⟨u, hut⟩⟩) := by
        show TokenQueue.next _ = _
        rw [TokenQueue.next]
        simp only [hut, dif_pos]
      exact absurd h (readUntil_ne_ok hkind hs hut span)
    | false =>
      rw [readUntil_of_next hkind (next_queue_cons _ _ hut)] at h
      split at h
      · rename_i hk
        cases h
        exact ⟨by simp, hk, ts, rfl, rfl⟩
      · rename_i hu
        obtain ⟨he, hn⟩ := kind_ne_of_isTerminal hut
        rw [dif_neg he, dif_neg hn] at h
        obtain ⟨span', hr, rfl⟩ := exists_of_map_eq_ok h
        obtain ⟨hb, hk, ts', hts, hrest⟩ := ih hr
        refine ⟨?_, hk, ts', congrArg (u :: ·) hts, hrest⟩
        intro v hv
        rcases List.mem_cons.1 hv with rfl | hv
        · exact ⟨hu, hut⟩
        · exact hb v hv

/-- A comment is what is read up to the closing delimiter, as one text. -/
theorem readComment_eq_ok_iff {σ : Type} [TokenSource σ] {s : σ} {text : String} {s' : After s} :
    readComment s = .ok (text, s') ↔
      ∃ span, readUntil .rightDelimiter s = .ok span ∧
        text = String.join (span.before.map Token.text) ∧ s' = span.rest := by
  induction hn : remaining s using Nat.strongRecOn generalizing s text with
  | ind n ih =>
    obtain ⟨t, s₁, hs⟩ : ∃ t s₁, next s = (t, s₁) := ⟨_, _, rfl⟩
    rw [readComment_of_next hs, readUntil_of_next Token.Kind.isTerminal_rightDelimiter hs]
    split
    · simp only [Except.ok.injEq, Prod.mk.injEq, exists_eq_left', List.map_nil, String.join_nil]
      exact ⟨fun h => ⟨h.1.symm, h.2.symm⟩, fun h => ⟨h.1.symm, h.2.symm⟩⟩
    · split
      · simp
      · split
        · simp
        · rename_i he hne
          have hlt := remaining_lt_of_next hs (isTerminal_eq_false he hne)
          constructor
          · intro h
            obtain ⟨r, hc, hmap⟩ := exists_of_map_eq_ok h
            cases hmap
            obtain ⟨span, hr, htext, hrest⟩ := (ih _ (hn ▸ hlt) rfl).1 hc
            refine ⟨_, by rw [hr]; rfl, ?_, ?_⟩
            · simp [htext]
            · simp [hrest]
          · rintro ⟨span, hr, htext, hrest⟩
            obtain ⟨span', hc, rfl⟩ := exists_of_map_eq_ok hr
            rw [(ih _ (hn ▸ hlt) rfl).2 ⟨span', hc, rfl, rfl⟩]
            simp only [Except.map, Except.ok.injEq, Prod.mk.injEq]
            exact ⟨by simp [htext], hrest.symm⟩

/-! ## Bodies of sections -/

section Generic

variable {σ : Type} [TokenSource σ] {s : σ} {span : Span s} {name : Token} {inner : Nat}

/-- The body ends before the tag that closes the section. -/
theorem collectBody_close (h : readUntil (.sigil .blockEnd) s = .ok span)
    (hname : isName name.text (next span.rest.1).1 = true)
    (hzero : inner + openings name.text span.before = 0)
    (hleft : span.before.getLast?.map Token.kind = some .leftDelimiter) :
    collectBody name inner s = .ok (span.before.dropLast, span.rest) := by
  rw [collectBody, h]
  simp only [hname, if_true, hzero, hleft]

/-- The body goes on behind a tag that does not close the section; one of its name lessens the
count of the open ones. -/
theorem collectBody_goOn {inner' : Nat} (h : readUntil (.sigil .blockEnd) s = .ok span)
    (hinner : inner + openings name.text span.before =
      inner' + if isName name.text (next span.rest.1).1 = true then 1 else 0) :
    collectBody name inner s = (collectBody name inner' span.rest.1).map fun (body, rest) =>
      (span.before ++ span.mark :: body, span.rest.trans rest) := by
  rw [collectBody, h]
  dsimp only
  split
  · rename_i hname
    rw [if_pos hname] at hinner
    simp only [hinner]
  · rename_i hname
    rw [if_neg hname] at hinner
    simp only [hinner, Nat.add_zero]

/-- Where a body is collected, it ends at the first tag or goes on behind it. -/
theorem exists_span_of_collectBody {body : List Token} {s' : After s}
    (h : collectBody name inner s = .ok (body, s')) :
    ∃ span : Span s, readUntil (.sigil .blockEnd) s = .ok span ∧
      (isName name.text (next span.rest.1).1 = true ∧
          inner + openings name.text span.before = 0 ∧
          span.before.getLast?.map Token.kind = some .leftDelimiter ∧
          body = span.before.dropLast ∧ s' = span.rest ∨
        ∃ inner' body' s'', inner + openings name.text span.before =
            inner' + (if isName name.text (next span.rest.1).1 = true then 1 else 0) ∧
          collectBody name inner' span.rest.1 = .ok (body', s'') ∧
          body = span.before ++ span.mark :: body' ∧ s'.1 = s''.1) := by
  cases hr : readUntil (.sigil .blockEnd) s with
  | error e =>
    rw [collectBody, hr] at h
    cases e <;> cases h
  | ok span =>
    refine ⟨span, rfl, ?_⟩
    -- the tag closes the section itself, if it has the name and no section of that name is open
    by_cases hclose : isName name.text (next span.rest.1).1 = true ∧
        inner + openings name.text span.before = 0
    · left
      rw [collectBody, hr] at h
      simp only [hclose.1, if_true, hclose.2] at h
      split at h
      · rename_i hleft
        cases h
        exact ⟨hclose.1, hclose.2, hleft, rfl, rfl⟩
      · cases h
    · right
      obtain ⟨inner', hinner⟩ : ∃ inner', inner + openings name.text span.before =
          inner' + if isName name.text (next span.rest.1).1 = true then 1 else 0 := by
        split
        · rename_i hname
          exact ⟨_, (Nat.succ_pred_eq_of_ne_zero fun h0 => hclose ⟨hname, h0⟩).symm⟩
        · exact ⟨_, rfl⟩
      rw [collectBody_goOn hr hinner] at h
      obtain ⟨r, hc, hmap⟩ := exists_of_map_eq_ok h
      cases hmap
      exact ⟨inner', r.1, r.2, hinner, hc, rfl, rfl⟩

end Generic

/-- A body is collected from some tokens, and these are left. -/
def Collects (name : Token) (inner : Nat) (q : TokenQueue) (body : List Token) (rest : TokenQueue) :
    Prop :=
  Takes (collectBody name inner q) body rest

/-- **How a body is collected**, from one sign that closes a section to the next. The first one is
the end of the body, or it closes some section inside. -/
theorem collects_iff {name : Token} {inner : Nat} {body : List Token} {rest : TokenQueue} :
    Collects name inner ⟨ts, last⟩ body rest ↔
      ∃ before mark ts', ts = before ++ mark :: ts' ∧
        (∀ t ∈ before, t.kind ≠ .sigil .blockEnd ∧ t.isTerminal = false) ∧
        mark.kind = .sigil .blockEnd ∧
        (isName name.text (next (TokenQueue.mk ts' last)).1 = true ∧
            inner + openings name.text before = 0 ∧
            before.getLast?.map Token.kind = some .leftDelimiter ∧
            body = before.dropLast ∧ rest = ⟨ts', last⟩ ∨
          ∃ inner' body', inner + openings name.text before = inner' +
              (if isName name.text (next (TokenQueue.mk ts' last)).1 = true then 1 else 0) ∧
            Collects name inner' ⟨ts', last⟩ body' rest ∧ body = before ++ mark :: body') := by
  constructor
  · rintro ⟨hrest, h⟩
    obtain ⟨⟨before, mark, ⟨q, hq⟩⟩, hr, hspan⟩ := exists_span_of_collectBody h
    obtain ⟨hb, hmark, ts', hts, hq'⟩ := eq_of_readUntil hr
    dsimp only at hspan hb hmark hts hq'
    subst hts hq'
    refine ⟨before, mark, ts', rfl, hb, hmark, ?_⟩
    rcases hspan with ⟨hname, hzero, hleft, rfl, hs'⟩ | ⟨inner', body', s'', hinner, hc, rfl, rfl⟩
    · exact .inl ⟨hname, hzero, hleft, rfl, congrArg Subtype.val hs'⟩
    · exact .inr ⟨inner', body', hinner, ⟨s''.2, hc⟩, rfl⟩
  · rintro ⟨before, mark, ts', rfl, hb, hmark, hspan⟩
    obtain ⟨hlt, hr⟩ := readUntil_append ts' last rfl hb hmark
    rcases hspan with ⟨hname, hzero, hleft, rfl, rfl⟩ | ⟨inner', body', hinner, ⟨hq, hc⟩, rfl⟩
    · exact ⟨_, collectBody_close hr hname hzero hleft⟩
    · have hgo := collectBody_goOn hr hinner
      dsimp only at hgo
      rw [hc] at hgo
      exact ⟨_, hgo⟩

/-- **A body that is collected is closed**: behind it stands the tag that closes the section, of
which the parser has read all before the name. -/
theorem Collects.closed {name : Token} {inner : Nat} {body : List Token} {rest : TokenQueue}
    (h : Collects name inner ⟨ts, last⟩ body rest) :
    ∃ left mark close ts', ts = body ++ left :: mark :: close :: ts' ∧
      left.kind = .leftDelimiter ∧ mark.kind = .sigil .blockEnd ∧
      isName name.text close = true ∧ rest = ⟨close :: ts', last⟩ := by
  induction hn : ts.length using Nat.strongRecOn generalizing ts inner body with
  | ind n ih =>
    obtain ⟨before, mark, ts', rfl, -, hmark, hspan⟩ := collects_iff.1 h
    rcases hspan with ⟨hname, -, hleft, rfl, rfl⟩ | ⟨inner', body', -, hc, rfl⟩
    · -- the tag that closes the section
      obtain ⟨left, hlast, hkind⟩ := Option.map_eq_some_iff.1 hleft
      obtain ⟨init, rfl⟩ := List.getLast?_eq_some_iff.1 hlast
      obtain ⟨close, q, hnext⟩ : ∃ close q, next (TokenQueue.mk ts' last) = (close, q) :=
        ⟨_, _, rfl⟩
      rw [hnext] at hname
      have hclose : close.kind = .identifier := by
        simp only [isName, Bool.and_eq_true, decide_eq_true_eq] at hname
        exact hname.1
      obtain ⟨ts'', rfl, -⟩ := (next_queue_eq_iff (isTerminal_of_kind hclose rfl)).1 hnext
      refine ⟨left, mark, close, ts'', ?_, hkind, hmark, hname, rfl⟩
      rw [List.dropLast_concat, List.append_assoc]
      rfl
    · -- a tag on the way
      obtain ⟨left, mark', close, ts'', rfl, hl, hm, hcl, hq⟩ := ih ts'.length
        (by rw [← hn]; simp; omega) hc rfl
      exact ⟨left, mark', close, ts'', by simp, hl, hm, hcl, hq⟩

/-- The sections that open in some tokens and in others behind them, if no sign stands last. -/
theorem openings_append {name : String} {tokens : List Token}
    (hlast : ∀ t ∈ tokens.getLast?, opensSection t = false) (ts : List Token) :
    openings name (tokens ++ ts) = openings name tokens + openings name ts := by
  induction tokens with
  | nil => simp [openings]
  | cons t tokens ih =>
    cases tokens with
    | nil =>
      have ht : opensSection t = false := hlast t rfl
      cases ts with
      | nil => simp [openings]
      | cons u ts => simp [openings, ht]
    | cons u tokens =>
      have := ih (by simpa using hlast)
      simp only [List.cons_append, openings] at this ⊢
      omega

/-- **Tokens without a tag that closes a section** are passed over: the sections that they open are
open from there on. -/
theorem Collects.append {name : Token} {inner : Nat} {tokens body : List Token} {rest : TokenQueue}
    (ht : ∀ t ∈ tokens, t.kind ≠ .sigil .blockEnd ∧ t.isTerminal = false)
    (hlast : ∀ t ∈ tokens.getLast?, opensSection t = false)
    (h : Collects name (inner + openings name.text tokens) ⟨ts, last⟩ body rest) :
    Collects name inner ⟨tokens ++ ts, last⟩ (tokens ++ body) rest := by
  obtain ⟨before, mark, ts', rfl, hb, hmark, hspan⟩ := collects_iff.1 h
  refine collects_iff.2 ⟨tokens ++ before, mark, ts', by simp, ?_, hmark, ?_⟩
  · intro t h'
    rcases List.mem_append.1 h' with h' | h'
    · exact ht t h'
    · exact hb t h'
  · rw [openings_append hlast]
    rcases hspan with ⟨hname, hzero, hleft, rfl, rfl⟩ | ⟨inner', body', hinner, hc, rfl⟩
    · have hne : before ≠ [] := by
        rintro rfl
        cases hleft
      refine .inl ⟨hname, by omega, ?_, (List.dropLast_append_of_ne_nil hne).symm, rfl⟩
      rw [List.getLast?_append_of_ne_nil _ hne]
      exact hleft
    · exact .inr ⟨inner', body', by omega, hc, by simp⟩

end Mustache.Parser
