import Mustache.Error
import Mustache.Node
import Mustache.Token.Source

/-! # From tokens to trees
A template is text and tags in turn. The body of a section is not parsed on the way: its tokens are
collected up to the tag that closes it, which is the first one with its name that no inner section
of the same name takes, and then parsed as a template of their own (`Parser.collectBody`). So a
parser is given the parser of the bodies that it meets, and has none where sections are nested too
deep (`Parser.bodies`). Every step takes tokens from its source, and says so in its type. -/

namespace Mustache

namespace Parser

open TokenSource

/-- Sections may be nested up to this depth. -/
def sectionLimit : Nat := 100

/-- A parser for the tokens of the body of a section. -/
abbrev BodyParser : Type := List Token → Except Error (List Node)

variable {σ : Type} [TokenSource σ]

theorem remaining_lt_of_next {s s' : σ} {t : Token} (h : next s = (t, s'))
    (ht : t.isTerminal = false) : remaining s' < remaining s := by
  have := remaining_next_lt s
  rw [h] at this
  exact this ht

theorem isTerminal_eq_false {t : Token} (he : t.kind ≠ .error) (hn : t.kind ≠ .endOfInput) :
    t.isTerminal = false := by
  unfold Token.isTerminal
  cases h : t.kind with
  | error => exact absurd h he
  | endOfInput => exact absurd h hn
  | _ => rfl

/-! ## Single tokens and spans -/

/-- Takes a token of the given kind. -/
def expect (kind : Token.Kind) (s : σ) (hkind : kind.isTerminal = false := by rfl) :
    Except Error (Token × After s) :=
  match h : next s with
  | (t, s') =>
    if hk : t.kind = kind then
      .ok (t, ⟨s', remaining_lt_of_next h (by rw [Token.isTerminal, hk, hkind])⟩)
    else if t.kind = .error then .error (.ofToken t)
    else .error (.malformed t.pos (.expected kind t))

/-- Tokens up to a mark. -/
structure Span (s : σ) where
  /-- The tokens before the mark. -/
  before : List Token
  /-- The mark. -/
  mark : Token
  /-- What is left behind the mark. -/
  rest : After s

/-- Takes tokens up to the first one of the given kind. -/
def readUntil (kind : Token.Kind) (s : σ) (hkind : kind.isTerminal = false := by rfl) :
    Except Error (Span s) :=
  match h : next s with
  | (t, s') =>
    if hk : t.kind = kind then
      .ok ⟨[], t, ⟨s', remaining_lt_of_next h (by rw [Token.isTerminal, hk, hkind])⟩⟩
    else if he : t.kind = .error then .error (.ofToken t)
    else if hn : t.kind = .endOfInput then .error (.malformed t.pos (.endBefore kind))
    else
      have hlt := remaining_lt_of_next h (isTerminal_eq_false he hn)
      (readUntil kind s' hkind).map fun span =>
        ⟨t :: span.before, span.mark, ⟨span.rest.1, Nat.lt_trans span.rest.2 hlt⟩⟩
termination_by remaining s

/-- Takes the text of a comment, up to its closing delimiter. -/
def readComment (s : σ) : Except Error (String × After s) :=
  match h : next s with
  | (t, s') =>
    if hk : t.kind = .rightDelimiter then
      .ok ("", ⟨s', remaining_lt_of_next h (by rw [Token.isTerminal, hk]; rfl)⟩)
    else if he : t.kind = .error then .error (.ofToken t)
    else if hn : t.kind = .endOfInput then .error (.malformed t.pos .endInComment)
    else
      have hlt := remaining_lt_of_next h (isTerminal_eq_false he hn)
      (readComment s').map fun (text, rest) =>
        (t.text ++ text, ⟨rest.1, Nat.lt_trans rest.2 hlt⟩)
termination_by remaining s

/-! ## Bodies of sections -/

/-- Whether a token opens a section. -/
def opensSection (t : Token) : Bool := t.kind = .sigil .block || t.kind = .sigil .inverted

/-- Whether a token is the given name. -/
def isName (name : String) (t : Token) : Bool := t.kind = .identifier && t.text = name

/-- The number of sections of the given name that open in some tokens. -/
def openings (name : String) : List Token → Nat
  | t :: u :: tokens =>
    openings name (u :: tokens) + if opensSection t && isName name u then 1 else 0
  | _ => 0

/-- Collects the tokens of the body of the section that the token `name` names, when `inner`
sections of the same name are open in it, up to the name in its closing tag. The body ends before
the opening delimiter of that tag. -/
def collectBody (name : Token) (inner : Nat) (s : σ) : Except Error (List Token × After s) :=
  match readUntil (.sigil .blockEnd) s with
  -- The only such fault is the end of the input, and the section is to blame for it.
  | .error (.malformed _ _) => .error (.malformed name.pos (.unclosedSection name.text))
  | .error e => .error e
  | .ok span =>
    let inner := inner + openings name.text span.before
    let goOn (inner : Nat) : Except Error (List Token × After s) :=
      (collectBody name inner span.rest.1).map fun (body, rest) =>
        (span.before ++ span.mark :: body, span.rest.trans rest)
    if isName name.text (next span.rest.1).1 then
      match inner with
      -- This tag closes the section. Its opening delimiter is not part of the body.
      | 0 =>
        if span.before.getLast?.map Token.kind = some .leftDelimiter then
          .ok (span.before.dropLast, span.rest)
        else .error (.malformed span.mark.pos .malformedEnd)
      -- This tag closes an inner section of the same name.
      | inner + 1 => goOn inner
    -- This tag closes, if anything, a section of another name.
    else goOn inner
termination_by remaining s
decreasing_by all_goals exact span.rest.2

/-- Parses a section from its name on. -/
def parseSection (bodies : Option BodyParser) (inverted : Bool) (s : σ) :
    Except Error (Node × After s) := do
  let (name, s₁) ← expect .identifier s
  match bodies with
  | none => throw (.malformed name.pos (.tooDeep sectionLimit))
  | some parseBody =>
    let (_, s₂) ← expect .rightDelimiter s₁.1
    let (body, s₃) ← collectBody name 0 s₂.1
    let (_, s₄) ← expect .identifier s₃.1
    let (_, s₅) ← expect .rightDelimiter s₄.1
    let nodes ← parseBody body
    return (.block name.text inverted nodes, (((s₁.trans s₂).trans s₃).trans s₄).trans s₅)

/-! ## Tags and templates -/

/-- Parses a tag from behind its opening delimiter. -/
def parseTag (bodies : Option BodyParser) (s : σ) : Except Error (Node × After s) :=
  match h : next s with
  | (t, s') =>
    if he : t.kind = .error then .error (.ofToken t)
    else if hn : t.kind = .endOfInput then .error (.malformed t.pos (.unexpectedInTag t))
    else
      let s₁ : After s := ⟨s', remaining_lt_of_next h (isTerminal_eq_false he hn)⟩
      match t.kind with
      | .identifier => do
        let (_, s₂) ← expect .rightDelimiter s₁.1
        return (.interpolation t.text true, s₁.trans s₂)
      | .sigil .rawStart => do
        let (name, s₂) ← expect .identifier s₁.1
        let (_, s₃) ← expect (.sigil .rawEnd) s₂.1
        let (_, s₄) ← expect .rightDelimiter s₃.1
        return (.interpolation name.text false, ((s₁.trans s₂).trans s₃).trans s₄)
      | .sigil .raw => do
        let (name, s₂) ← expect .identifier s₁.1
        let (_, s₃) ← expect .rightDelimiter s₂.1
        return (.interpolation name.text false, (s₁.trans s₂).trans s₃)
      | .sigil .comment => do
        let (text, s₂) ← readComment s₁.1
        return (.comment text, s₁.trans s₂)
      | .sigil .block => do
        let (node, s₂) ← parseSection bodies false s₁.1
        return (node, s₁.trans s₂)
      | .sigil .inverted => do
        let (node, s₂) ← parseSection bodies true s₁.1
        return (node, s₁.trans s₂)
      | .sigil .inclusion => do
        let (name, s₂) ← expect .identifier s₁.1
        let (_, s₃) ← expect .rightDelimiter s₂.1
        return (.inclusion name.text, (s₁.trans s₂).trans s₃)
      | _ => .error (.malformed t.pos (.unexpectedInTag t))

/-- Parses text and tags up to the end of the input. -/
def parseNodes (bodies : Option BodyParser) (s : σ) : Except Error (List Node) :=
  match h : next s with
  | (t, s') =>
    if t.kind = .endOfInput then .ok []
    else if t.kind = .error then .error (.ofToken t)
    else if hk : t.kind = .text then
      have := remaining_lt_of_next h (by rw [Token.isTerminal, hk]; rfl)
      (parseNodes bodies s').map (.text t.text :: ·)
    else if hk : t.kind = .leftDelimiter then do
      have := remaining_lt_of_next h (by rw [Token.isTerminal, hk]; rfl)
      let (node, rest) ← parseTag bodies s'
      have := rest.2
      let nodes ← parseNodes bodies rest.1
      return node :: nodes
    else .error (.malformed t.pos (.unexpected t))
termination_by remaining s

/-- The parser of bodies in which sections may be nested in `room` more sections. -/
def bodies : (room : Nat) → Option BodyParser
  | 0 => none
  | room + 1 => some fun tokens => parseNodes (bodies room) (TokenQueue.ofTokens tokens)

end Parser

/-- The nodes of the template that a source of tokens holds. -/
def Node.parse {σ : Type} [TokenSource σ] (s : σ) : Except Error (List Node) :=
  Parser.parseNodes (Parser.bodies Parser.sectionLimit) s

end Mustache
