import Mustache.Node.Parser

/-! # One token at a time
Each parser looks at the next token of its source and decides. Here every parser is written out as
that decision, for a source whose next token is known (`expect_of_next` and its like), so that no
proof has to open the recursion of a parser to see what it does. -/

namespace Mustache.Parser

open TokenSource

variable {σ : Type} [TokenSource σ] {s s' : σ} {t : Token}

theorem expect_of_next {kind : Token.Kind} (hkind : kind.isTerminal = false)
    (hs : next s = (t, s')) :
    expect kind s hkind =
      if hk : t.kind = kind then
        .ok (t, ⟨s', remaining_lt_of_next hs (by rw [Token.isTerminal, hk, hkind])⟩)
      else if t.kind = .error then .error (.ofToken t)
      else .error (.malformed t.pos (.expected kind t)) := by
  unfold expect
  split
  rename_i heq
  cases hs.symm.trans heq
  rfl

theorem readUntil_of_next {kind : Token.Kind} (hkind : kind.isTerminal = false)
    (hs : next s = (t, s')) :
    readUntil kind s hkind =
      if hk : t.kind = kind then
        .ok ⟨[], t, ⟨s', remaining_lt_of_next hs (by rw [Token.isTerminal, hk, hkind])⟩⟩
      else if he : t.kind = .error then .error (.ofToken t)
      else if hn : t.kind = .endOfInput then .error (.malformed t.pos (.endBefore kind))
      else
        (readUntil kind s' hkind).map fun span =>
          ⟨t :: span.before, span.mark, ⟨span.rest.1,
            Nat.lt_trans span.rest.2 (remaining_lt_of_next hs (isTerminal_eq_false he hn))⟩⟩ := by
  rw [readUntil]
  split
  rename_i heq
  cases hs.symm.trans heq
  rfl

theorem readComment_of_next (hs : next s = (t, s')) :
    readComment s =
      if hk : t.kind = .rightDelimiter then
        .ok ("", ⟨s', remaining_lt_of_next hs (by rw [Token.isTerminal, hk]; rfl)⟩)
      else if he : t.kind = .error then .error (.ofToken t)
      else if hn : t.kind = .endOfInput then .error (.malformed t.pos .endInComment)
      else
        (readComment s').map fun (text, rest) =>
          (t.text ++ text, ⟨rest.1,
            Nat.lt_trans rest.2 (remaining_lt_of_next hs (isTerminal_eq_false he hn))⟩) := by
  rw [readComment]
  split
  rename_i heq
  cases hs.symm.trans heq
  rfl

theorem parseTag_of_next {bodies : Option BodyParser} (hs : next s = (t, s')) :
    parseTag bodies s =
      if he : t.kind = .error then .error (.ofToken t)
      else if hn : t.kind = .endOfInput then .error (.malformed t.pos (.unexpectedInTag t))
      else
        let s₁ : After s := ⟨s', remaining_lt_of_next hs (isTerminal_eq_false he hn)⟩
        match t.kind with
        | .identifier => do
          let (_, s₂) ← expect .rightDelimiter s₁.1
          return (.interpolation t.text true, s₁.trans s₂)
        | .sigil .rawStart => do
          let (name, s₂) ← expect .identifier s₁.1
          let (_, s₃) ← expect (.sigil .rawEnd) s₂.1
          let (_, s₄) ← expect .rightDelimiter s₃.1
          return (.interpolation name.text false, ((s₁.trans s₂).trans s₃).trans s₄)
        | .sigil .raw => do
          let (name, s₂) ← expect .identifier s₁.1
          let (_, s₃) ← expect .rightDelimiter s₂.1
          return (.interpolation name.text false, (s₁.trans s₂).trans s₃)
        | .sigil .comment => do
          let (text, s₂) ← readComment s₁.1
          return (.comment text, s₁.trans s₂)
        | .sigil .block => do
          let (node, s₂) ← parseSection bodies false s₁.1
          return (node, s₁.trans s₂)
        | .sigil .inverted => do
          let (node, s₂) ← parseSection bodies true s₁.1
          return (node, s₁.trans s₂)
        | .sigil .inclusion => do
          let (name, s₂) ← expect .identifier s₁.1
          let (_, s₃) ← expect .rightDelimiter s₂.1
          return (.inclusion name.text, (s₁.trans s₂).trans s₃)
        | _ => .error (.malformed t.pos (.unexpectedInTag t)) := by
  unfold parseTag
  split
  rename_i heq
  cases hs.symm.trans heq
  rfl

theorem parseNodes_of_next {bodies : Option BodyParser} (hs : next s = (t, s')) :
    parseNodes bodies s =
      if t.kind = .endOfInput then .ok []
      else if t.kind = .error then .error (.ofToken t)
      else if t.kind = .text then (parseNodes bodies s').map (.text t.text :: ·)
      else if t.kind = .leftDelimiter then do
        let (node, rest) ← parseTag bodies s'
        let nodes ← parseNodes bodies rest.1
        return node :: nodes
      else .error (.malformed t.pos (.unexpected t)) := by
  rw [parseNodes]
  split
  rename_i heq
  cases hs.symm.trans heq
  rfl

end Mustache.Parser
