import Mustache.Proofs.Token.Moves
import Mustache.Token.Source

/-! # What sources of tokens yield
A source hands out some tokens and then one that ends the sequence (`TokenSource.Yields`). A scanner
yields its tokens and a queue those in store; two sources that yield the same tokens are `Alike`,
and stay so behind every token (`Alike.next`). -/

namespace Mustache

namespace TokenSource

variable {σ τ : Type} [TokenSource σ] [TokenSource τ]

/-- **What a source yields**: some tokens that do not end the sequence, and one that does. -/
inductive Yields : σ → List Token → Token → Prop where
  /-- The source is at its end. -/
  | last {s s' : σ} {t : Token} (h : next s = (t, s')) (ht : t.isTerminal = true) : Yields s [] t
  /-- The source hands out a token before its end. -/
  | token {s s' : σ} {t last : Token} {ts : List Token} (h : next s = (t, s'))
      (ht : t.isTerminal = false) (hr : Yields s' ts last) : Yields s (t :: ts) last

/-- A queue yields the tokens in store, if none of them ends the sequence. -/
theorem yields_queue {ts : List Token} (h : ∀ t ∈ ts, t.isTerminal = false) (last : Terminal) :
    Yields (TokenQueue.mk ts last) ts last.token := by
  induction ts with
  | nil => exact .last (TokenQueue.next_nil last) last.isTerminal
  | cons t ts ih =>
    refine .token (TokenQueue.next_cons t ts last (h t List.mem_cons_self))
      (h t List.mem_cons_self) ?_
    exact ih fun u hu => h u (List.mem_cons_of_mem t hu)

/-- A queue that holds what a source yields, and any tokens behind that, yields the same: the token
that ends the sequence is the last one to be handed out. -/
theorem Yields.queue {s : σ} {ts : List Token} {last : Token} (h : Yields s ts last)
    (behind : List Token) (spare : Terminal) :
    Yields (TokenQueue.mk (ts ++ last :: behind) spare) ts last := by
  induction h with
  | @last s s' t _ ht =>
    have hnext : TokenQueue.next ⟨t :: behind, spare⟩ = (t, ⟨behind, ⟨t, ht⟩⟩) := dif_pos ht
    exact .last hnext ht
  | @token s s' t last ts _ ht _ ih => exact .token (TokenQueue.next_cons t _ spare ht) ht ih

/-- A scanner yields its tokens. -/
theorem yields_scanner {s : Scanner} {ts : List Token} {last : Token}
    (h : s.tokens = ts ++ [last]) : Yields s ts last := by
  induction ts generalizing s with
  | nil =>
    rw [Scanner.tokens, List.nil_append] at h
    split at h
    · rw [Scanner.tokens] at h
      split at h <;> simp at h
    · rename_i ht
      have hlast : s.next.1 = last := by simpa using h
      have hnext : next s = (last, s.next.2) := Prod.ext hlast rfl
      exact .last hnext (by simpa [hlast] using ht)
  | cons t ts ih =>
    rw [Scanner.tokens] at h
    split at h
    · rename_i ht
      simp only [List.cons_append, List.cons.injEq] at h
      exact .token (Prod.ext h.1 rfl) (h.1 ▸ ht) (ih h.2)
    · simp at h

/-- Two sources that yield the same tokens. -/
def Alike (s : σ) (u : τ) : Prop := ∃ ts last, Yields s ts last ∧ Yields u ts last

/-- Sources that yield the same tokens hand out the same token next, and what is left of them
behind it is alike again. -/
theorem Alike.next {s : σ} {u : τ} (h : Alike s u) :
    (next s).1 = (next u).1 ∧ ((next s).1.isTerminal = false → Alike (next s).2 (next u).2) := by
  obtain ⟨ts, last, hs, hu⟩ := h
  cases hs with
  | last h ht =>
    cases hu with
    | last h' _ =>
      rw [h, h']
      exact ⟨rfl, fun hf => by rw [ht] at hf; cases hf⟩
  | token h ht hr =>
    cases hu with
    | token h' _ hr' =>
      rw [h, h']
      exact ⟨rfl, fun _ => ⟨_, _, hr, hr'⟩⟩

end TokenSource

end Mustache
