import Mustache.Proofs.Token.Tiling

/-! # The end of a token sequence
Every move of the scanner makes it smaller, so it hands out no more tokens than it is large, and its
size is bounded by the bytes of the template. Whoever goes on to ask behind the last token gets
this token again and again (`Scanner.Delivers`). On the way the delimiters in force are the first
ones, or the fields of a tag that changes them (`Scanner.inForce_of_run`), so they are never empty.
Both together are `Scanner.tokens_end`. -/

namespace Mustache

open Text

/-- Texts with different first characters are different. -/
theorem Text.ofList_ne {c c' : Char} (h : c ≠ c') (cs cs' : List Char) :
    String.ofList (c :: cs) ≠ String.ofList (c' :: cs') := by
  intro heq
  exact h (List.cons.inj (String.ofList_injective heq)).1

theorem Text.ofList_append_ne {c c' : Char} (h : c ≠ c') (cs cs' : List Char) (s : String) :
    String.ofList (c :: cs) ++ s ≠ String.ofList (c' :: cs') := by
  intro heq
  have hlist := congrArg String.toList heq
  rw [String.toList_append, String.toList_ofList, String.toList_ofList] at hlist
  exact h (List.cons.inj hlist).1

/-- No fault has the message of a cursor that stopped without a last token: the messages of faults
begin with other letters. -/
theorem ScanFault.message_ne_stopped (fault : ScanFault) : fault.message ≠ Cursor.stopped := by
  cases fault with
  | unrecognized c => exact Text.ofList_append_ne (by decide) _ _ _
  | extraField field => exact Text.ofList_append_ne (by decide) _ _ _
  | _ => exact Text.ofList_ne (by decide) _ _

namespace Scanner

variable {s s' : Scanner} {t last : Token} {ts : List Token}

/-! ## Single moves -/

/-- A token that ends the sequence says that nothing is left, or what the fault is. Behind it the
scanner has finished. -/
theorem finished_of_move (hm : Move s (some t) s') (h : s.isFinished = false)
    (ht : t.isTerminal = true) :
    s' = finished ⟨t, ht⟩ ∧
      (t.kind = .endOfInput ∨ t.kind = .error ∧ ∃ fault : ScanFault, t.text = fault.message) := by
  cases hm with
  | endOfInput => exact ⟨rfl, .inl rfl⟩
  | @changeFault d pos rest behind fault => exact ⟨rfl, .inr ⟨rfl, fault, rfl⟩⟩
  | endInTag => exact ⟨rfl, .inr ⟨rfl, .unclosedTag, rfl⟩⟩
  | lineEnd => exact ⟨rfl, .inr ⟨rfl, .unclosedTag, rfl⟩⟩
  | @unrecognized d pos c => exact ⟨rfl, .inr ⟨rfl, .unrecognized c, rfl⟩⟩
  | endInComment => exact ⟨rfl, .inr ⟨rfl, .unclosedComment, rfl⟩⟩
  | finished => cases h
  | _ => cases ht

/-- Behind a move without a token the same tokens are handed out. -/
theorem take_of_move_none (hm : Move s none s') (n : Nat) :
    TokenSource.take n s = TokenSource.take n s' := by
  cases n with
  | zero => rfl
  | succ n =>
    show s.next.1 :: TokenSource.take n s.next.2 = s'.next.1 :: TokenSource.take n s'.next.2
    rw [next_of_step_none (step_eq_of_move hm)]

/-- The token of a move comes before the others. -/
theorem take_of_move_some (hm : Move s (some t) s') (n : Nat) :
    TokenSource.take (n + 1) s = t :: TokenSource.take n s' :=
  TokenSource.take_of_next (next_of_step_some (step_eq_of_move hm)) n

/-- A finished scanner hands out its last token as often as it is asked. -/
theorem take_finished (last : Terminal) (n : Nat) :
    TokenSource.take n (finished last) = List.replicate n last.token :=
  TokenSource.take_of_next_eq_self (next_finished last) n

/-! ## All tokens -/

/-- **What a scanner hands out** when it is asked again and again: these tokens, which do not end
the sequence, and then the last one for ever. -/
structure Delivers (s : Scanner) (ts : List Token) (last : Token) : Prop where
  /-- There are fewer tokens before the last one than the scanner is large. -/
  length_lt : ts.length < s.size
  /-- None of them ends the sequence. -/
  before : ∀ t ∈ ts, t.isTerminal = false
  /-- The last token is the end of the input, or an error with the message of a fault. -/
  kind_last : last.kind = .endOfInput ∨
    last.kind = .error ∧ ∃ fault : ScanFault, last.text = fault.message
  /-- Whoever asks for more tokens than there are gets the last one again. -/
  take (n : Nat) : TokenSource.take (ts.length + n) s = ts ++ List.replicate n last

theorem Delivers.silent (hm : Move s none s') (hf : s.isFinished = false)
    (h : Delivers s' ts last) : Delivers s ts last := by
  refine ⟨Nat.lt_trans h.length_lt (size_lt_of_move hm hf), h.before, h.kind_last, fun n => ?_⟩
  rw [take_of_move_none hm, h.take]

theorem Delivers.token (hm : Move s (some t) s') (hf : s.isFinished = false)
    (ht : t.isTerminal = false) (h : Delivers s' ts last) : Delivers s (t :: ts) last := by
  refine ⟨?_, ?_, h.kind_last, fun n => ?_⟩
  · have hlt := h.length_lt
    have hsize := size_lt_of_move hm hf
    rw [List.length_cons]
    omega
  · exact List.forall_mem_cons.2 ⟨ht, h.before⟩
  · have hlen : (t :: ts).length + n = ts.length + n + 1 := by
      rw [List.length_cons]
      omega
    rw [hlen, take_of_move_some hm, h.take, List.cons_append]

/-- The last token is handed out by the move that finishes the scanner. -/
theorem Delivers.end (hm : Move s (some t) s') (hf : s.isFinished = false)
    (ht : t.isTerminal = true) : Delivers s [] t := by
  obtain ⟨rfl, hlast⟩ := finished_of_move hm hf ht
  refine ⟨?_, by simp, hlast, fun n => ?_⟩
  · exact Nat.zero_lt_of_lt (size_lt_of_move hm hf)
  · rw [List.length_nil, Nat.zero_add, List.nil_append]
    cases n with
    | zero => rfl
    | succ n => rw [take_of_move_some hm, take_finished, List.replicate_succ]

/-- **Every scanner comes to its last token**, and repeats it from there on. -/
theorem exists_delivers (s : Scanner) (hf : s.isFinished = false) :
    ∃ ts last, Delivers s ts last := by
  induction s using induction_on_moves with
  | finished last => cases hf
  | move s o s' _ hm ih =>
    cases o with
    | none =>
      obtain ⟨-, -, -, -, -, hf'⟩ := piece_of_move_none hm
      obtain ⟨ts, last, h⟩ := ih hf'
      exact ⟨ts, last, h.silent hm hf⟩
    | some t =>
      cases ht : t.isTerminal with
      | true => exact ⟨[], t, .end hm hf ht⟩
      | false =>
        -- the scanner goes on behind a token that does not end the sequence
        obtain ⟨ts, last, h⟩ := ih ((isTerminal_of_move hm).symm.trans ht)
        exact ⟨t :: ts, last, h.token hm hf ht⟩

/-! ## Delimiters in force -/

/-- **Where delimiters come from**: they are the first ones, or the two fields of a tag of the
source that changes the delimiters. -/
def InForce (source : List Char) (first d : Delimiters) : Prop :=
  d = first ∨ ∃ (d' : Delimiters) (body : List Char), d'.changeTag body <:+: source ∧
    FieldPair Unicode.isBlank body d.opening d.closing

/-- The delimiters in force come from the source on all the way. -/
theorem inForce_of_run {source : List Char} {first : Delimiters} (h : Run s ts s')
    (hahead : s.ahead <:+ source) (hs : InForce source first s.delims) :
    InForce source first s'.delims := by
  induction h with
  | refl => exact hs
  | @silent s s₁ s₂ ts hm _ ih =>
    obtain ⟨gap, hgap, -⟩ := piece_of_move_none hm
    have hahead' : s₁.ahead <:+ source := by
      rw [hgap] at hahead
      exact (List.suffix_append gap s₁.ahead).trans hahead
    refine ih hahead' ?_
    cases hm with
    | @change d pos rest behind tag hr hc =>
      obtain ⟨hbehind, -, hfields⟩ := Delimiters.readChange_eq_ok_iff.1 hc
      refine .inr ⟨d, tag.body, ?_, hfields⟩
      have htag : d.changeTag tag.body ++ tag.rest <:+ source := by
        have hrest : rest = d.changeTag tag.body ++ tag.rest := by
          simp [hr, hbehind, Delimiters.changeTag]
        rw [← hrest]
        exact hahead
      exact (List.prefix_append _ tag.rest).isInfix.trans htag.isInfix
    | blank => exact hs
  | @token s s₁ s₂ t ts hm ht _ ih =>
    obtain ⟨htext, -, -, hdelims, -⟩ :=
      piece_of_move_some hm ((isTerminal_of_move hm).symm.trans ht)
    refine ih ?_ (hdelims ▸ hs)
    rw [htext] at hahead
    exact (List.suffix_append t.text.toList s₁.ahead).trans hahead

/-- **Token sequences end.** Under any two texts as delimiters, empty ones too, a template has at
most two tokens for each byte and one more. Only the last of them ends the sequence: it is the end
of the input, or an error with the message of a fault, and whoever asks again gets the same token
again. If the delimiters are not empty, those in force are never empty on the way: they are the
first ones or the fields of a tag in the template that changes them. The tokens of a cursor are the
same, and in no state is it done without having found the last one, so it never says that it
stopped without it. -/
theorem tokens_end (opening closing template : String) :
    (∃ ts last, ts.length + 1 ≤ 2 * template.utf8ByteSize + 1 ∧
      (∀ t ∈ ts, t.isTerminal = false) ∧
      (last.kind = .endOfInput ∨
        last.kind = .error ∧ last.text ≠ Cursor.stopped) ∧
      ∀ n, TokenSource.take (ts.length + n) (ofTexts opening closing template) =
        ts ++ List.replicate n last) ∧
    (opening ≠ "" → closing ≠ "" → ∀ ts s, Run (ofTexts opening closing template) ts s →
      (s.delims.opening ≠ [] ∧ s.delims.closing ≠ []) ∧
      (s.delims.opening = opening.toList ∧ s.delims.closing = closing.toList ∨
        ∃ (d : Delimiters) (body : List Char), d.changeTag body <:+: template.toList ∧
          FieldPair Unicode.isBlank body s.delims.opening s.delims.closing)) ∧
    ∃ k, Cursor.ofTexts opening closing template = some k ∧
      (∀ n, k.take n = some (TokenSource.take n (ofTexts opening closing template))) ∧
      ∀ k', Cursor.Reaches k k' → k'.mode = .done → k'.last.isSome := by
  refine and_assoc.1 ⟨?_, Cursor.take_ofTexts opening closing template⟩
  rcases hd : Delimiters.ofTexts? opening closing with _ | d
  · -- without delimiters the scanner has finished at the start, with an error
    have hs : ofTexts opening closing template = (fail .emptyDelimiter Position.start).2 := by
      simp only [ofTexts, hd]
    refine ⟨⟨[], ⟨.error, ScanFault.emptyDelimiter.message, Position.start⟩, by simp, by simp,
      .inr ⟨rfl, ScanFault.emptyDelimiter.message_ne_stopped⟩, fun n => ?_⟩, fun ho hc => ?_⟩
    · rw [List.length_nil, Nat.zero_add, List.nil_append, hs]
      exact take_finished _ n
    · rw [Delimiters.ofTexts?_eq_none_iff] at hd
      simp [ho, hc] at hd
  · have hs : ofTexts opening closing template = text d Position.start template.toList := by
      simp only [ofTexts, hd]
    rw [hs]
    refine ⟨?_, fun _ _ ts s hrun => ⟨⟨s.delims.opening_ne_nil, s.delims.closing_ne_nil⟩, ?_⟩⟩
    · obtain ⟨ts, last, h⟩ := exists_delivers (text d Position.start template.toList) rfl
      refine ⟨ts, last, ?_, h.before, ?_, h.take⟩
      · have hsize := h.length_lt
        have hchars := length_le_byteLength template.toList
        rw [byteLength_toList] at hchars
        simp only [size] at hsize
        omega
      · rcases h.kind_last with hend | ⟨herror, fault, htext⟩
        · exact .inl hend
        · exact .inr ⟨herror, htext ▸ fault.message_ne_stopped⟩
    · rcases inForce_of_run hrun (List.suffix_refl _) (.inl rfl) with hfirst | hchange
      · left
        rw [hfirst]
        exact Delimiters.texts_of_ofTexts? hd
      · exact .inr hchange

end Scanner

end Mustache
