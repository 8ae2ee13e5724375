import Mustache.Token.Scanner

/-! # Sources of tokens
A template is parsed from anything that hands out tokens one by one and comes to an end: a
`Scanner`, which finds each token when it is asked for, or a `TokenQueue`, which holds tokens that
were found before. A source that has come to its end repeats its last token. -/

namespace Mustache

/-- A source of tokens whose sequence comes to an end. -/
class TokenSource (σ : Type) where
  /-- The next token and the source behind it. -/
  next : σ → Token × σ
  /-- Bounds the tokens before the end. -/
  remaining : σ → Nat
  /-- A token before the end lessens what remains. -/
  remaining_next_lt (s : σ) : (next s).1.isTerminal = false → remaining (next s).2 < remaining s

instance : TokenSource Scanner where
  next := Scanner.next
  remaining := Scanner.size
  remaining_next_lt := Scanner.size_next_lt

/-! ## Tokens in store -/

/-- Tokens in store, and the one that is handed out when they are used up. -/
structure TokenQueue where
  /-- The tokens in store, the next one first. -/
  pending : List Token
  /-- The token that follows them for ever. -/
  last : Terminal

namespace TokenQueue

/-- The place behind the last of some tokens, as far as that token tells: its text is taken to stand
on one line. Without a token it is the start of a template. -/
def endOf (tokens : List Token) : Position :=
  match tokens.getLast? with
  | some t => ⟨t.pos.line, t.pos.column + t.text.length⟩
  | none => Position.start

/-- Some tokens, followed by the end of the input. -/
def ofTokens (tokens : List Token) : TokenQueue :=
  { pending := tokens, last := { token := ⟨.endOfInput, "", endOf tokens⟩ } }

/-- The next token. A token that ends a sequence is kept as the last one. -/
def next (q : TokenQueue) : Token × TokenQueue :=
  match q.pending with
  | [] => (q.last.token, q)
  | t :: pending =>
    if h : t.isTerminal = true then (t, ⟨pending, ⟨t, h⟩⟩) else (t, ⟨pending, q.last⟩)

@[simp] theorem next_nil (last : Terminal) : next ⟨[], last⟩ = (last.token, ⟨[], last⟩) := rfl

theorem next_cons (t : Token) (pending : List Token) (last : Terminal)
    (h : t.isTerminal = false) : next ⟨t :: pending, last⟩ = (t, ⟨pending, last⟩) := by
  simp [next, h]

@[simp] theorem fst_next_cons (t : Token) (pending : List Token) (last : Terminal) :
    (next ⟨t :: pending, last⟩).1 = t := by
  unfold next
  dsimp only
  split <;> rfl

theorem length_pending_next_lt (q : TokenQueue) (h : q.next.1.isTerminal = false) :
    q.next.2.pending.length < q.pending.length := by
  obtain ⟨pending, last⟩ := q
  cases pending with
  | nil =>
    rw [next_nil, last.isTerminal] at h
    cases h
  | cons t pending =>
    rw [fst_next_cons] at h
    simp [next_cons t pending last h]

end TokenQueue

instance : TokenSource TokenQueue where
  next := TokenQueue.next
  remaining q := q.pending.length
  remaining_next_lt := TokenQueue.length_pending_next_lt

/-! ## Taking tokens -/

namespace TokenSource

variable {σ : Type} [TokenSource σ]

/-- The sources behind at least one token of `s`. -/
abbrev After (s : σ) : Type := { s' : σ // remaining s' < remaining s }

/-- Behind a place that is behind `s`. -/
def After.trans {s : σ} (s₁ : After s) (s₂ : After s₁.1) : After s :=
  ⟨s₂.1, Nat.lt_trans s₂.2 s₁.2⟩

@[simp] theorem After.val_trans {s : σ} (s₁ : After s) (s₂ : After s₁.1) :
    (s₁.trans s₂).1 = s₂.1 := rfl

/-- The first tokens of a source, as many as are asked for. -/
def take : Nat → σ → List Token
  | 0, _ => []
  | n + 1, s => (next s).1 :: take n (next s).2

/-- The next token comes before those of the source behind it. -/
theorem take_of_next {s s' : σ} {t : Token} (h : next s = (t, s')) (n : Nat) :
    take (n + 1) s = t :: take n s' := by
  rw [take, h]

/-- A source that a token leaves as it is hands out this token again and again. -/
theorem take_of_next_eq_self {s : σ} {t : Token} (h : next s = (t, s)) (n : Nat) :
    take n s = List.replicate n t := by
  induction n with
  | zero => rfl
  | succ n ih => rw [take_of_next h, ih, List.replicate_succ]

end TokenSource

end Mustache
