import Mustache.Text.Bytes
import Mustache.Token.Scanner

/-! # A cursor over bytes
The scanner holds the text that is left, and a place that moves along with it. A `Cursor` finds the
tokens of a template by offsets: the template stays whole, and what is left of it, the text of a
token and the line in front of a place are cut out of it where they are needed. An offset inside a
character has nothing to cut (`Text.slice?`), so a move may fail for want of a slice, and everything
here yields an `Option`.

A cursor makes smaller moves than the scanner, and one may find two tokens, which wait in `pending`.
It stops by recording its last token; one that stopped without such a token would say so
(`Cursor.stopped`). -/

namespace Mustache

/-! ## Lines -/

/-- How far the lines of a text have been counted. The count goes forward only. -/
structure LineCount where
  /-- The offset up to which the lines have been counted. -/
  counted : Nat := 0
  /-- The line of this offset. -/
  line : Nat := 1
  /-- The offset at which that line begins. -/
  lineStart : Nat := 0
  deriving DecidableEq, Repr

namespace LineCount

/-- The count behind one more character. -/
def next (l : LineCount) (c : Char) : LineCount :=
  let counted := l.counted + c.utf8Size
  if c = '\n' then ⟨counted, l.line + 1, l.counted + 1⟩ else ⟨counted, l.line, l.lineStart⟩

/-- The place at an offset, and the count up to there. An offset before the one that has been
reached is taken for this one. -/
def place (source : List Char) (offset : Nat) (l : LineCount) : Option (Position × LineCount) := do
  let offset := max offset l.counted
  let passed ← Text.slice? l.counted offset source
  let l := passed.foldl next l
  let line ← Text.slice? l.lineStart offset source
  return (⟨l.line, line.length + 1⟩, l)

end LineCount

/-! ## States -/

/-- What a cursor does next. -/
inductive Cursor.Mode where
  /-- To find the next tag. -/
  | text
  /-- To read an opening delimiter. -/
  | opening
  /-- To read a closing delimiter. -/
  | closing
  /-- To read a part of a tag. -/
  | tag
  /-- To read a name. -/
  | name
  /-- To read the body of a comment. -/
  | comment
  /-- To read a tag that changes the delimiters, behind its equals sign. -/
  | change
  /-- Nothing. -/
  | done
  deriving DecidableEq, Repr

/-- The state of reading a template by offsets. -/
structure Cursor where
  /-- The template. -/
  source : List Char
  /-- The text that opens a tag. -/
  opening : List Char
  /-- The text that closes a tag. -/
  closing : List Char
  /-- What comes next. -/
  mode : Cursor.Mode := .text
  /-- The offset up to which the template has been read. -/
  pos : Nat := 0
  /-- The offset at which the next token begins. -/
  start : Nat := 0
  /-- Tokens that have been found and not handed out. -/
  pending : List Token := []
  /-- The token that ends the sequence, once it has been found. -/
  last : Option Token := none
  /-- The lines up to some token. -/
  lines : LineCount := {}

namespace Cursor

/-! ## Reading -/

/-- What is left of the template. -/
def rest (k : Cursor) : Option (List Char) := Text.slice? k.pos (Text.byteLength k.source) k.source

/-- The next character, or none at the end. -/
def peek (k : Cursor) : Option (Option Char) := k.rest.map List.head?

/-- Whether the closing delimiter comes next. -/
def atClose (k : Cursor) : Option Bool := k.rest.map k.closing.isPrefixOf

/-- Whether a closing brace and the closing delimiter come next. -/
def atRawClose (k : Cursor) : Option Bool := do
  let rest ← k.rest
  if ['\x7d'].isPrefixOf rest then
    let behind ← Text.slice? 1 (Text.byteLength rest) rest
    return k.closing.isPrefixOf behind
  else return false

/-- How many bytes there are before the next occurrence of a mark. -/
def find (mark : List Char) (k : Cursor) : Option (Option Nat) := do
  let rest ← k.rest
  return (Text.cutAt mark rest).map fun cut => Text.byteLength cut.1

theorem pos_add_byteLength_of_rest {k : Cursor} {rest : List Char} (h : k.rest = some rest) :
    k.pos + Text.byteLength rest = Text.byteLength k.source := Text.add_byteLength_of_slice? h

/-- A character that comes next stands before the end of the template. -/
theorem pos_add_utf8Size_le_of_peek {k : Cursor} {c : Char} (h : k.peek = some (some c)) :
    k.pos + c.utf8Size ≤ Text.byteLength k.source := by
  obtain ⟨rest, hrest, hhead⟩ := Option.map_eq_some_iff.1 h
  have hlength := pos_add_byteLength_of_rest hrest
  cases rest with
  | nil => cases hhead
  | cons c' rest =>
    cases hhead
    rw [Text.byteLength_cons] at hlength
    omega

/-- A mark that is found lies before the end of the template. -/
theorem pos_add_le_of_find {k : Cursor} {mark : List Char} {i : Nat}
    (h : k.find mark = some (some i)) :
    k.pos + (i + Text.byteLength mark) ≤ Text.byteLength k.source := by
  obtain ⟨rest, hrest, h⟩ := Option.bind_eq_some_iff.1 h
  obtain ⟨⟨before, behind⟩, hcut, rfl⟩ := Option.map_eq_some_iff.1 (Option.some.inj h)
  have hlength := pos_add_byteLength_of_rest hrest
  rw [Text.eq_of_cutAt hcut, Text.byteLength_append, Text.byteLength_append] at hlength
  dsimp only
  omega

/-! ## Tokens -/

/-- Passes over what has been read since the last token. -/
def ignore (k : Cursor) : Cursor := { k with start := k.pos }

/-- Makes a token of what has been read since the last one. -/
def emit (kind : Token.Kind) (k : Cursor) : Option Cursor := do
  let (place, lines) ← k.lines.place k.source k.start
  let text ← Text.slice? k.start k.pos k.source
  let token : Token := ⟨kind, String.ofList text, place⟩
  return { k with
    pending := k.pending ++ [token]
    last := if kind.isTerminal then some token else k.last
    start := k.pos
    lines := lines }

/-- Stops with an error. -/
def fail (message : String) (k : Cursor) : Option Cursor := do
  let (place, lines) ← k.lines.place k.source k.pos
  let token : Token := ⟨.error, message, place⟩
  return { k with
    pending := k.pending ++ [token], last := some token, lines := lines, mode := .done }

/-- The cursor at the start of a template, which stops at once if a delimiter is empty. -/
def ofTexts (opening closing template : String) : Option Cursor :=
  let k : Cursor :=
    { source := template.toList, opening := opening.toList, closing := closing.toList }
  if opening = "" ∨ closing = "" then k.fail ScanFault.emptyDelimiter.message else some k

/-! ## Moves -/

/-- Reads text up to the next tag or to the end. -/
def stepText (k : Cursor) : Option Cursor := do
  match ← k.find k.opening with
  | some i =>
    let k := { k with pos := k.pos + i, mode := .opening }
    if k.start < k.pos then k.emit .text else some k
  | none =>
    let k := { k with pos := Text.byteLength k.source, mode := .done }
    let k ← if k.start < k.pos then k.emit .text else some k
    k.emit .endOfInput

/-- Reads an opening delimiter, and the equals sign of a tag that changes the delimiters. -/
def stepOpening (k : Cursor) : Option Cursor := do
  let k := { k with pos := k.pos + Text.byteLength k.opening }
  if (← k.peek) = some '=' then
    let k := { k with pos := k.pos + 1 }
    return { k.ignore with mode := .change }
  else emit .leftDelimiter { k with mode := .tag }

/-- Reads a closing delimiter. -/
def stepClosing (k : Cursor) : Option Cursor :=
  emit .rightDelimiter { k with pos := k.pos + Text.byteLength k.closing, mode := .text }

/-- Reads a closing brace, a blank or a sign, or finds the start of a name or the end of the tag. -/
def stepTag (k : Cursor) : Option Cursor := do
  if ← k.atRawClose then
    emit (.sigil .rawEnd) { k with pos := k.pos + 1, mode := .closing }
  else if ← k.atClose then return { k with mode := .closing }
  else
    match ← k.peek with
    | none => k.fail ScanFault.unclosedTag.message
    | some c =>
      let k := { k with pos := k.pos + c.utf8Size }
      if c = '\n' then k.fail ScanFault.unclosedTag.message
      else if isTagBlank c then return k.ignore
      else
        match Sigil.ofChar? c with
        | some .comment => emit (.sigil .comment) { k with mode := .comment }
        | some sign => k.emit (.sigil sign)
        | none =>
          if isNameStart c then return { k with pos := k.pos - c.utf8Size, mode := .name }
          else k.fail (ScanFault.unrecognized c).message

/-- Reads on to the end of a name. -/
def skipName (k : Cursor) : Option Cursor := do
  if (← k.atRawClose) || (← k.atClose) then return k
  else
    match _hk : k.peek with
    | none => none
    | some none => return k
    | some (some c) =>
      if isTagBlank c then return k else skipName { k with pos := k.pos + c.utf8Size }
termination_by Text.byteLength k.source - k.pos
decreasing_by
  have hc := c.utf8Size_pos
  have hle := pos_add_utf8Size_le_of_peek _hk
  omega

/-- Reads a name. -/
def stepName (k : Cursor) : Option Cursor := do
  let k ← k.skipName
  emit .identifier { k with mode := .tag }

/-- Reads the body of a comment. -/
def stepComment (k : Cursor) : Option Cursor := do
  match ← k.find k.closing with
  | some i => emit .text { k with pos := k.pos + i, mode := .closing }
  | none => k.fail ScanFault.unclosedComment.message

/-- Reads a tag that changes the delimiters, from behind its equals sign. -/
def stepChange (k : Cursor) : Option Cursor := do
  let mark := '=' :: k.closing
  match ← k.find mark with
  | none => k.fail ScanFault.unclosedDelimiterTag.message
  | some i =>
    let body ← Text.slice? 0 i (← k.rest)
    match Text.fields Unicode.isBlank body with
    | [opening, closing] =>
      let k := { k with opening := opening, closing := closing }
      let k := { k with pos := k.pos + (i + Text.byteLength mark), mode := .text }
      return k.ignore
    | _ :: _ :: field :: _ => k.fail (ScanFault.extraField (String.ofList field)).message
    | _ => k.fail ScanFault.missingField.message

/-- What a cursor says that stopped without a last token. -/
def stopped : String := "lexer stopped without a terminal token"

/-- One move of the cursor. -/
def step (k : Cursor) : Option Cursor :=
  match k.mode with
  | .text => k.stepText
  | .opening => k.stepOpening
  | .closing => k.stepClosing
  | .tag => k.stepTag
  | .name => k.stepName
  | .comment => k.stepComment
  | .change => k.stepChange
  | .done => k.fail stopped

/-! ## Progress -/

/-- How many moves may follow without reading on. -/
def Mode.rank : Mode → Nat
  | .text => 2
  | .opening | .tag => 1
  | _ => 0

/-- Bounds the moves before the next token, of which there are none where a token has been found.
-/
def movesLeft (k : Cursor) : Nat :=
  match k.pending, k.last with
  | [], none => 3 * (Text.byteLength k.source - k.pos) + k.mode.rank + 1
  | _, _ => 0

theorem movesLeft_of_pending {k : Cursor} (h : k.pending ≠ []) : k.movesLeft = 0 := by
  unfold movesLeft
  split
  · contradiction
  · rfl

theorem movesLeft_of_none {k : Cursor} (hp : k.pending = []) (hl : k.last = none) :
    k.movesLeft = 3 * (Text.byteLength k.source - k.pos) + k.mode.rank + 1 := by
  rw [movesLeft, hp, hl]

/-- A token that is found waits. -/
theorem movesLeft_of_emit {k k' : Cursor} {kind : Token.Kind} (h : k.emit kind = some k') :
    k'.movesLeft = 0 := by
  obtain ⟨_, _, h⟩ := Option.bind_eq_some_iff.1 h
  obtain ⟨_, _, h⟩ := Option.bind_eq_some_iff.1 h
  cases h
  exact movesLeft_of_pending (by simp)

/-- An error that is found waits. -/
theorem movesLeft_of_fail {k k' : Cursor} {message : String} (h : k.fail message = some k') :
    k'.movesLeft = 0 := by
  obtain ⟨_, _, h⟩ := Option.bind_eq_some_iff.1 h
  cases h
  exact movesLeft_of_pending (by simp)

section Moves

variable {k k' : Cursor} (hp : k.pending = []) (hl : k.last = none)

include hp hl

theorem movesLeft_pos : 0 < k.movesLeft := by
  rw [movesLeft_of_none hp hl]
  exact Nat.succ_pos _

/-- A move to a mode of lower rank leaves fewer moves. -/
theorem movesLeft_lt_of_rank (hp' : k'.pending = k.pending) (hl' : k'.last = k.last)
    (hsource : k'.source = k.source) (hpos : k.pos ≤ k'.pos) (hrank : k'.mode.rank < k.mode.rank) :
    k'.movesLeft < k.movesLeft := by
  rw [movesLeft_of_none hp hl, movesLeft_of_none (hp'.trans hp) (hl'.trans hl), hsource]
  omega

/-- A move that reads on leaves fewer moves. -/
theorem movesLeft_lt_of_pos (hp' : k'.pending = k.pending) (hl' : k'.last = k.last)
    (hsource : k'.source = k.source) (hpos : k.pos < k'.pos)
    (hle : k'.pos ≤ Text.byteLength k.source) : k'.movesLeft < k.movesLeft := by
  have hrank : k'.mode.rank ≤ 2 := by cases k'.mode <;> decide
  rw [movesLeft_of_none hp hl, movesLeft_of_none (hp'.trans hp) (hl'.trans hl), hsource]
  omega

theorem movesLeft_stepText_lt (hm : k.mode = .text) (h : k.stepText = some k') :
    k'.movesLeft < k.movesLeft := by
  have hpos := movesLeft_pos hp hl
  obtain ⟨found, -, h⟩ := Option.bind_eq_some_iff.1 h
  cases found with
  | none =>
    dsimp only at h
    split at h <;>
    · obtain ⟨k₁, -, h⟩ := Option.bind_eq_some_iff.1 h
      rwa [movesLeft_of_emit h]
  | some i =>
    dsimp only at h
    split at h
    · rwa [movesLeft_of_emit h]
    · cases h
      exact movesLeft_lt_of_rank hp hl rfl rfl rfl (Nat.le_add_right _ _) (by simp [Mode.rank, hm])

theorem movesLeft_stepOpening_lt (hm : k.mode = .opening) (h : k.stepOpening = some k') :
    k'.movesLeft < k.movesLeft := by
  obtain ⟨next, -, h⟩ := Option.bind_eq_some_iff.1 h
  split at h
  · cases h
    have hpos : k.pos ≤ k.pos + Text.byteLength k.opening + 1 := by omega
    exact movesLeft_lt_of_rank hp hl rfl rfl rfl hpos (by simp [Mode.rank, hm])
  · rw [movesLeft_of_emit h]
    exact movesLeft_pos hp hl

theorem movesLeft_stepTag_lt (hm : k.mode = .tag) (h : k.stepTag = some k') :
    k'.movesLeft < k.movesLeft := by
  have hleft := movesLeft_pos hp hl
  obtain ⟨rawClose, -, h⟩ := Option.bind_eq_some_iff.1 h
  split at h
  · rwa [movesLeft_of_emit h]
  · obtain ⟨close, -, h⟩ := Option.bind_eq_some_iff.1 h
    split at h
    · cases h
      exact movesLeft_lt_of_rank hp hl rfl rfl rfl (Nat.le_refl _) (by simp [Mode.rank, hm])
    · obtain ⟨next, hpeek, h⟩ := Option.bind_eq_some_iff.1 h
      cases next with
      | none => rwa [movesLeft_of_fail h]
      | some c =>
        dsimp only at h
        split at h
        · rwa [movesLeft_of_fail h]
        · split at h
          · cases h
            have hpos : k.pos < k.pos + c.utf8Size := Nat.lt_add_of_pos_right c.utf8Size_pos
            have hle := pos_add_utf8Size_le_of_peek hpeek
            exact movesLeft_lt_of_pos hp hl rfl rfl rfl hpos hle
          · split at h
            · rwa [movesLeft_of_emit h]
            · rwa [movesLeft_of_emit h]
            · split at h
              · cases h
                have hpos : k.pos ≤ k.pos + c.utf8Size - c.utf8Size := by omega
                exact movesLeft_lt_of_rank hp hl rfl rfl rfl hpos (by simp [Mode.rank, hm])
              · rwa [movesLeft_of_fail h]

theorem movesLeft_stepComment_lt (h : k.stepComment = some k') :
    k'.movesLeft < k.movesLeft := by
  have hleft := movesLeft_pos hp hl
  obtain ⟨found, -, h⟩ := Option.bind_eq_some_iff.1 h
  cases found with
  | none => rwa [movesLeft_of_fail h]
  | some i => rwa [movesLeft_of_emit h]

theorem movesLeft_stepChange_lt (h : k.stepChange = some k') : k'.movesLeft < k.movesLeft := by
  have hleft := movesLeft_pos hp hl
  obtain ⟨found, hfind, h⟩ := Option.bind_eq_some_iff.1 h
  cases found with
  | none => rwa [movesLeft_of_fail h]
  | some i =>
    obtain ⟨rest, -, h⟩ := Option.bind_eq_some_iff.1 h
    obtain ⟨body, -, h⟩ := Option.bind_eq_some_iff.1 h
    split at h
    · cases h
      -- the equals sign at the end of the tag is read at least
      have hle := pos_add_le_of_find hfind
      have hpos : k.pos < k.pos + (i + Text.byteLength ('=' :: k.closing)) := by
        rw [Text.byteLength_cons]
        have hc := Char.utf8Size_pos '='
        omega
      exact movesLeft_lt_of_pos hp hl rfl rfl rfl hpos hle
    · rwa [movesLeft_of_fail h]
    · rwa [movesLeft_of_fail h]

/-- A move leaves fewer of them, unless a token has been found before. -/
theorem movesLeft_step_lt (h : k.step = some k') : k'.movesLeft < k.movesLeft := by
  have hleft := movesLeft_pos hp hl
  unfold step at h
  split at h
  · exact movesLeft_stepText_lt hp hl ‹_› h
  · exact movesLeft_stepOpening_lt hp hl ‹_› h
  · rwa [movesLeft_of_emit h]
  · exact movesLeft_stepTag_lt hp hl ‹_› h
  · obtain ⟨k₁, -, h⟩ := Option.bind_eq_some_iff.1 h
    rwa [movesLeft_of_emit h]
  · exact movesLeft_stepComment_lt hp hl h
  · exact movesLeft_stepChange_lt hp hl h
  · rwa [movesLeft_of_fail h]

end Moves

/-- The next token: one that waits, else the last one, else the one that the next moves find. -/
def next (k : Cursor) : Option (Token × Cursor) :=
  match _hp : k.pending with
  | token :: pending => some (token, { k with pending := pending })
  | [] =>
    match _hl : k.last with
    | some token => some (token, k)
    | none =>
      match _hs : k.step with
      | none => none
      | some k' => next k'
termination_by k.movesLeft
decreasing_by exact movesLeft_step_lt _hp _hl _hs

/-- The first tokens, as many as are asked for. -/
def take : Nat → Cursor → Option (List Token)
  | 0, _ => some []
  | n + 1, k => do
    let (token, k) ← k.next
    return token :: (← take n k)

end Cursor

end Mustache
