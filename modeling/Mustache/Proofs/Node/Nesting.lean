import Mustache.Proofs.Node.Grammar
import Mustache.Proofs.Node.Spans
import Mustache.Proofs.Token.Shape

/-! # Sections in one another
A template opens as many sections as it closes, and closes each under its own name. So both ways to
keep track of the open sections come out behind a template as they went in: the count of the ones
of a single name, by which the parser finds the end of a body (`Template.collects`), and the level
by which the grammar finds the first one that is too deep (`firstBeyond_template`). -/

namespace Mustache.Grammar

open Mustache.Parser TokenSource

variable {ts rest : List Token} {last : Terminal} {nodes : List Node} {node : Node}
variable {name : Token} {inner : Nat} {body : List Token} {q : TokenQueue}

/-! ## The tokens of tags -/

/-- A token that neither opens nor closes a section, nor ends the sequence. -/
def Plain (t : Token) : Prop :=
  opensSection t = false ∧ t.kind ≠ .sigil .blockEnd ∧ t.isTerminal = false

/-- Whether a token is plain shows in its kind. -/
theorem plain_of_kind {t : Token} {kind : Token.Kind} (hk : t.kind = kind)
    (h : kind ≠ .sigil .block ∧ kind ≠ .sigil .inverted ∧ kind ≠ .sigil .blockEnd ∧
      kind.isTerminal = false) : Plain t := by
  obtain ⟨hb, hi, he, ht⟩ := h
  refine ⟨?_, hk ▸ he, isTerminal_of_kind hk ht⟩
  simp [opensSection, hk, hb, hi]

/-- The sign of a section opens it, be the section inverted or not. -/
theorem opensSection_of_kind {sign : Token} {inverted : Bool}
    (hs : sign.kind = .sigil (if inverted then .inverted else .block)) :
    opensSection sign = true := by
  cases inverted <;> simp [opensSection, hs]

/-- A tag without a body consists of plain tokens, if nothing but text stands in a comment. -/
theorem Tag.plain {tag : List Token} (h : Tag tag node) (hp : PlainComments tag) :
    ∀ t ∈ tag, Plain t := by
  cases h with
  | value hl hn hr =>
    simp only [List.forall_mem_cons]
    exact ⟨plain_of_kind hl (by decide), plain_of_kind hn (by decide), plain_of_kind hr (by decide),
      by simp⟩
  | braces hl ho hn hc hr =>
    simp only [List.forall_mem_cons]
    exact ⟨plain_of_kind hl (by decide), plain_of_kind ho (by decide), plain_of_kind hn (by decide),
      plain_of_kind hc (by decide), plain_of_kind hr (by decide), by simp⟩
  | raw hl hs hn hr =>
    simp only [List.forall_mem_cons]
    exact ⟨plain_of_kind hl (by decide), plain_of_kind hs (by decide), plain_of_kind hn (by decide),
      plain_of_kind hr (by decide), by simp⟩
  | comment hl hs hb hr =>
    rename_i left sign right body
    have htext : ∀ t ∈ body, t.kind = .text := hp [left] sign body right [] rfl hs hr hb
    simp only [List.forall_mem_cons, List.forall_mem_append]
    exact ⟨plain_of_kind hl (by decide), plain_of_kind hs (by decide),
      fun t ht => plain_of_kind (htext t ht) (by decide), plain_of_kind hr (by decide), by simp⟩
  | inclusion hl hs hn hr =>
    simp only [List.forall_mem_cons]
    exact ⟨plain_of_kind hl (by decide), plain_of_kind hs (by decide), plain_of_kind hn (by decide),
      plain_of_kind hr (by decide), by simp⟩

/-- Plain tokens open no section of any name. -/
theorem openings_of_plain {name : String} (h : ∀ t ∈ ts, Plain t) : openings name ts = 0 := by
  induction ts with
  | nil => rfl
  | cons t ts ih =>
    have hts := ih fun u hu => h u (List.mem_cons_of_mem t hu)
    cases ts with
    | nil => rfl
    | cons u ts => simp [openings, hts, (h t List.mem_cons_self).1]

/-! ## Templates inside the body of a section -/

/-- Plain tokens belong to the body. -/
theorem collects_plain (hts : ∀ t ∈ ts, Plain t) (h : Collects name inner ⟨rest, last⟩ body q) :
    Collects name inner ⟨ts ++ rest, last⟩ (ts ++ body) q := by
  refine Collects.append (fun t ht => (hts t ht).2) ?_ ?_
  · exact fun t ht => (hts t (List.mem_of_mem_getLast? ht)).1
  · rwa [openings_of_plain hts]

/-- A tag that opens a section of the same name makes one more to be closed. -/
theorem collects_opener {inverted : Bool} {opened : Token} {opener : List Token}
    (ho : Opener inverted opened opener)
    (h : Collects name (inner + if opened.text = name.text then 1 else 0) ⟨rest, last⟩ body q) :
    Collects name inner ⟨opener ++ rest, last⟩ (opener ++ body) q := by
  cases ho with
  | mk hl hs hn hr =>
    rename_i left sign right
    refine Collects.append ?_ ?_ ?_
    · have hsign : sign.kind ≠ .sigil .blockEnd ∧ sign.isTerminal = false := by
        cases inverted <;> simp [Token.isTerminal, hs]
      simp only [List.forall_mem_cons]
      exact ⟨(plain_of_kind hl (by decide)).2, hsign, (plain_of_kind hn (by decide)).2,
        (plain_of_kind hr (by decide)).2, by simp⟩
    · intro t ht
      cases ht
      exact (plain_of_kind hr (by decide)).1
    · have hleft := (plain_of_kind hl (by decide)).1
      have hname := (plain_of_kind hn (by decide)).1
      simpa [openings, hleft, hname, opensSection_of_kind hs, isName, hn] using h

/-- A tag that closes a section of the same name makes one less to be closed. -/
theorem collects_closer {closed : String} {closer : List Token} (hc : Closer closed closer)
    (h : Collects name inner ⟨rest, last⟩ body q) :
    Collects name (inner + if closed = name.text then 1 else 0) ⟨closer ++ rest, last⟩
      (closer ++ body) q := by
  cases hc with
  | mk hl hs hn hname hr =>
    rename_i left sign close right
    have hclose := plain_of_kind hn (by decide)
    have hleft := plain_of_kind hl (by decide)
    have htail : Collects name inner ⟨[close, right] ++ rest, last⟩ ([close, right] ++ body) q := by
      refine collects_plain ?_ h
      simp only [List.forall_mem_cons]
      exact ⟨hclose, plain_of_kind hr (by decide), by simp⟩
    refine collects_iff.2 ⟨[left], sign, [close, right] ++ rest, rfl, ?_, hs, .inr ?_⟩
    · simpa using hleft.2
    · refine ⟨inner, [close, right] ++ body, ?_, htail, rfl⟩
      have hnext : (next (TokenQueue.mk ([close, right] ++ rest) last)).1 = close :=
        TokenQueue.fst_next_cons _ _ _
      rw [hnext]
      simp [isName, hn, hname, openings]

/-- The tag that closes the section itself ends the body. -/
theorem collects_end {left sign close : Token} (hl : left.kind = .leftDelimiter)
    (hs : sign.kind = .sigil .blockEnd) (hn : close.kind = .identifier)
    (hname : close.text = name.text) :
    Collects name 0 ⟨left :: sign :: close :: ts, last⟩ [] ⟨close :: ts, last⟩ := by
  have hleft := plain_of_kind hl (by decide)
  refine collects_iff.2 ⟨[left], sign, close :: ts, rfl, ?_, hs, .inl ?_⟩
  · simpa using hleft.2
  · refine ⟨?_, rfl, by simp [hl], rfl, rfl⟩
    have hnext : (next (TokenQueue.mk (close :: ts) last)).1 = close :=
      TokenQueue.fst_next_cons _ _ _
    rw [hnext]
    simp [isName, hn, hname]

/-- **A template inside the body of a section** is passed over as a whole, whatever the names of
its sections are. -/
theorem Template.collects (h : Template ts nodes) (hp : PlainComments ts)
    (hrest : Collects name inner ⟨rest, last⟩ body q) :
    Collects name inner ⟨ts ++ rest, last⟩ (ts ++ body) q := by
  -- the count behind the template is the one before it; inside a section it may be one more
  induction h generalizing inner rest body with
  | nil => exact hrest
  | text ht _ ih =>
    rename_i t ts nodes _
    have hts := ih (hp.of_infix (List.suffix_cons t ts).isInfix) hrest
    have hplain : ∀ u ∈ [t], Plain u := by simpa using plain_of_kind ht (by decide)
    show Collects name inner ⟨[t] ++ (ts ++ rest), last⟩ ([t] ++ (ts ++ body)) q
    exact collects_plain hplain hts
  | tag ht _ ih =>
    rename_i tag ts node nodes _
    have hts := ih (hp.of_infix (List.suffix_append tag ts).isInfix) hrest
    have hplain := ht.plain (hp.of_infix (List.prefix_append tag ts).isInfix)
    rw [List.append_assoc, List.append_assoc]
    exact collects_plain hplain hts
  | block ho hb hc _ ihb ih =>
    rename_i inverted opened opener children closer ts _ _ _
    -- from the end: what follows, the tag that closes the section, its body, the one that opens it
    have hts := ih (hp.of_infix ⟨opener ++ (children ++ closer), [], by simp⟩) hrest
    have hcloser := collects_closer hc hts
    have hbody := ihb (hp.of_infix ⟨opener, closer ++ ts, by simp⟩) hcloser
    have hopener := collects_opener ho hbody
    simpa only [List.append_assoc] using hopener

/-! ## The level of nesting -/

section Level

variable {limit level : Nat} {inverted : Bool} {opener closer : List Token}

/-- A plain token is of no account. -/
theorem firstBeyond_cons_of_plain {t : Token} (ht : Plain t) (ts : List Token) :
    firstBeyond limit level (t :: ts) = firstBeyond limit level ts := by
  simp [firstBeyond, ht.1, ht.2.1]

/-- Nor are several plain tokens. -/
theorem firstBeyond_append_of_plain {tag : List Token} (htag : ∀ t ∈ tag, Plain t)
    (ts : List Token) : firstBeyond limit level (tag ++ ts) = firstBeyond limit level ts := by
  induction tag with
  | nil => rfl
  | cons t tag ih =>
    rw [List.cons_append, firstBeyond_cons_of_plain (htag t List.mem_cons_self)]
    exact ih fun u hu => htag u (List.mem_cons_of_mem t hu)

/-- A section opens one level further down. -/
theorem firstBeyond_opener (ho : Opener inverted name opener) (hne : level ≠ limit) :
    firstBeyond limit level (opener ++ rest) = firstBeyond limit (level + 1) rest := by
  cases ho with
  | mk hl hs hn hr =>
    rename_i left sign right
    have htail : ∀ t ∈ [name, right], Plain t := by
      simp only [List.forall_mem_cons]
      exact ⟨plain_of_kind hn (by decide), plain_of_kind hr (by decide), by simp⟩
    rw [List.cons_append, firstBeyond_cons_of_plain (plain_of_kind hl (by decide)),
      List.cons_append, firstBeyond, if_pos (opensSection_of_kind hs), if_neg hne,
      firstBeyond_append_of_plain htail]

/-- At the limit it is the name of the section that is found. -/
theorem firstBeyond_opener_limit (ho : Opener inverted name opener) :
    firstBeyond limit limit (opener ++ rest) = some name := by
  cases ho with
  | mk hl hs hn hr =>
    rename_i left sign right
    rw [List.cons_append, firstBeyond_cons_of_plain (plain_of_kind hl (by decide)),
      List.cons_append, firstBeyond, if_pos (opensSection_of_kind hs), if_pos rfl]
    rfl

/-- The end of a section leads one level up. -/
theorem firstBeyond_closer {closed : String} (hc : Closer closed closer) :
    firstBeyond limit (level + 1) (closer ++ rest) = firstBeyond limit level rest := by
  cases hc with
  | mk hl hs hn hname hr =>
    rename_i left sign close right
    have htail : ∀ t ∈ [close, right], Plain t := by
      simp only [List.forall_mem_cons]
      exact ⟨plain_of_kind hn (by decide), plain_of_kind hr (by decide), by simp⟩
    have hsign : ¬ opensSection sign = true := by simp [opensSection, hs]
    rw [List.cons_append, firstBeyond_cons_of_plain (plain_of_kind hl (by decide)),
      List.cons_append, firstBeyond, if_neg hsign, if_pos hs, Nat.add_sub_cancel,
      firstBeyond_append_of_plain htail]

/-- **A template within the limit** leaves the level as it was, and nothing in it is beyond. -/
theorem firstBeyond_template (h : Template ts nodes) (hp : PlainComments ts)
    (hd : level + Node.depthAll nodes ≤ limit) :
    firstBeyond limit level (ts ++ rest) = firstBeyond limit level rest := by
  induction h generalizing level rest with
  | nil => rfl
  | text ht _ ih =>
    rename_i t ts nodes _
    rw [List.cons_append, firstBeyond_cons_of_plain (plain_of_kind ht (by decide))]
    refine ih (hp.of_infix (List.suffix_cons t ts).isInfix) ?_
    simpa [Node.depthAll, Node.depth] using hd
  | tag ht _ ih =>
    rename_i tag ts node nodes _
    have hplain := ht.plain (hp.of_infix (List.prefix_append tag ts).isInfix)
    rw [List.append_assoc, firstBeyond_append_of_plain hplain]
    refine ih (hp.of_infix (List.suffix_append tag ts).isInfix) ?_
    simp only [Node.depthAll] at hd
    omega
  | block ho hb hc _ ihb ih =>
    rename_i inverted opened opener body closer ts children nodes _
    simp only [Node.depthAll, Node.depth] at hd
    calc firstBeyond limit level (opener ++ (body ++ (closer ++ ts)) ++ rest)
        = firstBeyond limit level (opener ++ (body ++ (closer ++ (ts ++ rest)))) := by
          simp only [List.append_assoc]
      _ = firstBeyond limit (level + 1) (body ++ (closer ++ (ts ++ rest))) :=
          firstBeyond_opener ho (by omega)
      _ = firstBeyond limit (level + 1) (closer ++ (ts ++ rest)) :=
          ihb (hp.of_infix ⟨opener, closer ++ ts, by simp⟩) (by omega)
      _ = firstBeyond limit level (ts ++ rest) := firstBeyond_closer hc
      _ = firstBeyond limit level rest :=
          ih (hp.of_infix ⟨opener ++ (body ++ closer), [], by simp⟩) (by omega)

end Level

end Mustache.Grammar
