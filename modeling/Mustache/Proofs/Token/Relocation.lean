import Mustache.Proofs.Token.Tiling

/-! # Templates behind other text
A template that stands behind some text is read as if it stood alone, but for the places of its
tokens: they are counted from the place behind that text (`Scanner.tokens_movedTo`). -/

namespace Mustache

/-! ## Places and tokens -/

namespace Position

/-- A place whose line and column are counted from one. -/
def Proper (p : Position) : Prop := 1 ≤ p.line ∧ 1 ≤ p.column

theorem proper_start : start.Proper := ⟨Nat.le_refl 1, Nat.le_refl 1⟩

theorem Proper.next {p : Position} (hp : p.Proper) (c : Char) : (p.next c).Proper := by
  obtain ⟨hl, hc⟩ := hp
  unfold Position.next
  split
  · exact ⟨Nat.le_succ_of_le hl, Nat.le_refl 1⟩
  · exact ⟨hl, Nat.le_succ_of_le hc⟩

theorem Proper.after {p : Position} (hp : p.Proper) (text : List Char) :
    (p.after text).Proper := by
  induction text generalizing p with
  | nil => exact hp
  | cons c text ih => exact ih (hp.next c)

/-- **A place in a template that begins at `base`**: on the first line of the template the column
is counted from the one of `base`. -/
def movedTo (p base : Position) : Position :=
  if p.line = 1 then ⟨base.line, base.column + (p.column - 1)⟩
  else ⟨base.line + (p.line - 1), p.column⟩

@[simp] theorem movedTo_start (base : Position) : start.movedTo base = base := by
  simp [movedTo, start]

/-- Moved places go on as the others do. -/
theorem movedTo_next {p : Position} (hp : p.Proper) (base : Position) (c : Char) :
    (p.next c).movedTo base = (p.movedTo base).next c := by
  obtain ⟨hl, hc⟩ := hp
  by_cases hn : c = '\n'
  · -- the next line is no first line
    subst hn
    have hne : p.line + 1 ≠ 1 := by omega
    by_cases hline : p.line = 1
    · simp [movedTo, hline]
    · have hsum : base.line + (p.line - 1) + 1 = base.line + p.line := by omega
      simp [movedTo, hline, hsum]
      omega
  · rw [next_of_ne p hn, next_of_ne _ hn]
    by_cases hline : p.line = 1
    · have hsum : base.column + (p.column - 1) + 1 = base.column + p.column := by omega
      simp [movedTo, hline, hsum]
    · simp [movedTo, hline]

theorem movedTo_after {p : Position} (hp : p.Proper) (base : Position) (text : List Char) :
    (p.after text).movedTo base = (p.movedTo base).after text := by
  induction text generalizing p with
  | nil => rfl
  | cons c text ih => rw [after_cons, after_cons, ih (hp.next c), movedTo_next hp]

end Position

/-- A token of a template that begins at `base`. -/
def Token.movedTo (t : Token) (base : Position) : Token := { t with pos := t.pos.movedTo base }

namespace Scanner

/-! ## Scans -/

/-- The state of reading a template that begins at `base`. -/
def movedTo (s : Scanner) (base : Position) : Scanner :=
  match s with
  | text d pos rest => text d (pos.movedTo base) rest
  | tag d pos rest => tag d (pos.movedTo base) rest
  | comment d pos rest => comment d (pos.movedTo base) rest
  | closing d pos rest => closing d (pos.movedTo base) rest
  | finished last => finished ⟨last.token.movedTo base, last.isTerminal⟩

variable {s s' : Scanner} {base : Position}

/-- A move, with the place of its token written differently. -/
theorem Move.of_place {kind : Token.Kind} {message : String} {p p' : Position}
    (h : Move s (some ⟨kind, message, p'⟩) s') (hp : p = p') :
    Move s (some ⟨kind, message, p⟩) s' := by
  rw [hp]
  exact h

/-- **A move does not depend on where the template begins**: the places move along, and nothing else
changes. -/
theorem move_movedTo {o : Option Token} (h : Move s o s') (hp : s.place.Proper)
    (base : Position) :
    ∃ s'', Move (s.movedTo base) (o.map fun t => t.movedTo base) s'' ∧
      (s'.isFinished = false → s'' = s'.movedTo base) := by
  have hafter := Position.movedTo_after hp base
  have hnext := Position.movedTo_next hp base
  -- the rules look at the text alone; an error may stand behind the place of the state, though
  cases h with
  | endOfInput => exact ⟨_, .endOfInput, nofun⟩
  | lastText hne h => exact ⟨_, .lastText hne h, fun _ => congrArg (text _ · _) (hafter _).symm⟩
  | textBefore hne hr h =>
    exact ⟨_, .textBefore hne hr h, fun _ => congrArg (text _ · _) (hafter _).symm⟩
  | openTag hr h => exact ⟨_, .openTag hr h, fun _ => congrArg (tag _ · _) (hafter _).symm⟩
  | change hr h => exact ⟨_, .change hr h, fun _ => congrArg (text _ · _) (hafter _).symm⟩
  | changeFault hr h =>
    rename_i d pos rest behind fault
    have hpos : ((pos.after d.opening).next '=').movedTo base =
        ((pos.movedTo base).after d.opening).next '=' := by
      have heq := hafter (d.opening ++ ['='])
      rwa [Position.after_append, Position.after_append] at heq
    exact ⟨_, (Move.changeFault hr h).of_place hpos, nofun⟩
  | rawEnd hr => exact ⟨_, .rawEnd hr, fun _ => congrArg (closing _ · _) (hnext _).symm⟩
  | close hb hr => exact ⟨_, .close hb hr, fun _ => congrArg (text _ · _) (hafter _).symm⟩
  | endInTag => exact ⟨_, .endInTag, nofun⟩
  | lineEnd h =>
    exact ⟨_, (Move.lineEnd h).of_place (hnext '\n'), nofun⟩
  | blank h hn hc => exact ⟨_, .blank h hn hc, fun _ => congrArg (tag _ · _) (hnext _).symm⟩
  | commentSign h hc =>
    exact ⟨_, .commentSign h hc, fun _ => congrArg (comment _ · _) (hnext _).symm⟩
  | sign h hc hs => exact ⟨_, .sign h hc hs, fun _ => congrArg (tag _ · _) (hnext _).symm⟩
  | name h hc => exact ⟨_, .name h hc, fun _ => congrArg (tag _ · _) (hafter _).symm⟩
  | unrecognized h hb hs hc =>
    rename_i d pos c behind
    exact ⟨_, (Move.unrecognized h hb hs hc).of_place (hnext c), nofun⟩
  | commentBody hr h =>
    exact ⟨_, .commentBody hr h, fun _ => congrArg (closing _ · _) (hafter _).symm⟩
  | endInComment h => exact ⟨_, .endInComment h, nofun⟩
  | closing => exact ⟨_, .closing, fun _ => congrArg (text _ · _) (hafter _).symm⟩
  | finished => exact ⟨_, .finished, nofun⟩

/-- A move leads to a place whose line and column are counted from one, too. -/
theorem proper_of_move {o : Option Token} (h : Move s o s') (hs' : s'.isFinished = false)
    (hp : s.place.Proper) : s'.place.Proper := by
  cases o with
  | none =>
    obtain ⟨gap, -, hplace, -⟩ := piece_of_move_none h
    rw [hplace]
    exact hp.after gap
  | some t =>
    obtain ⟨-, -, hplace, -⟩ := piece_of_move_some h hs'
    rw [hplace]
    exact hp.after _

/-- **The tokens of a template that begins elsewhere** are its tokens, moved there. -/
theorem tokens_movedTo (s : Scanner) (hp : s.place.Proper) (base : Position) :
    (s.movedTo base).tokens = s.tokens.map fun t => t.movedTo base := by
  induction s using induction_on_moves with
  | finished last =>
    rw [tokens_finished]
    exact tokens_finished _
  | move s o s' hf hm ih =>
    obtain ⟨s'', hm', heq⟩ := move_movedTo hm hp base
    cases o with
    | none =>
      obtain ⟨-, -, -, -, -, hs'⟩ := piece_of_move_none hm
      rw [heq hs'] at hm'
      rw [tokens_of_move_none hm, tokens_of_move_none hm', ih (proper_of_move hm hs' hp)]
    | some t =>
      have ht := isTerminal_of_move hm
      cases hs' : s'.isFinished with
      | true =>
        -- the last token: the state behind it plays no part
        rw [hs'] at ht
        rw [tokens_of_move_terminal hm ht, tokens_of_move_terminal hm' ht]
        rfl
      | false =>
        rw [hs'] at ht
        rw [heq hs'] at hm'
        rw [tokens_of_move_some hm ht, tokens_of_move_some hm' ht, ih (proper_of_move hm hs' hp)]
        rfl

end Scanner

end Mustache
