import Mustache.Delimiters
import Mustache.Text.Search
import Mustache.Token
import Mustache.Unicode.Alphanumeric
import Mustache.Unicode.Blank

/-! # The scanner
A `Scanner` is the state of reading a template: what is left of it, where that begins, and whether
it continues inside or outside a tag. `Scanner.step` makes one move, which hands out at most one
token and, unless the scanner has finished, makes it smaller (`Scanner.size_step_lt`). So the next
token (`Scanner.next`) and all tokens up to the one that ends them (`Scanner.tokens`) are found by
recursion on that size. Tags that change the delimiters are carried out here and hand out no token.
-/

namespace Mustache

/-! ## What stops a scanner -/

/-- The reasons for which a scanner stops before the end of its input. -/
inductive ScanFault where
  /-- One of the first two delimiters is empty. -/
  | emptyDelimiter
  /-- The line or the input ends inside a tag. -/
  | unclosedTag
  /-- A character that can stand nowhere in a tag. -/
  | unrecognized (c : Char)
  /-- The input ends inside a comment. -/
  | unclosedComment
  /-- The input ends inside a tag that changes the delimiters. -/
  | unclosedDelimiterTag
  /-- A tag that changes the delimiters has a third field. -/
  | extraField (field : String)
  /-- A tag that changes the delimiters has fewer than two fields. -/
  | missingField
  deriving DecidableEq, Repr

/-- The message of a fault. -/
def ScanFault.message : ScanFault → String
  | emptyDelimiter => "delimiters must not be empty"
  | unclosedTag => "unclosed action"
  | unrecognized c => "unrecognized character in action: " ++ Text.quotedChar c
  | unclosedComment => "unclosed comment"
  | unclosedDelimiterTag => "unclosed set delimiter tag"
  | extraField field => "unexpected set delimiter field " ++ Text.quoted field
  | missingField => "set delimiters should be two fields separated by whitespace"

/-! ## Characters of a tag -/

/-- The characters that may stand between the parts of a tag; a line feed, though, ends the tag. -/
def isTagBlank (c : Char) : Bool := c = ' ' || c = '\t' || c = '\n' || c = '\r'

/-- The characters with which a name can begin. -/
def isNameStart (c : Char) : Bool := c = '_' || c = '.' || Unicode.isAlphanumeric c

namespace Delimiters

/-- What follows the closing delimiter, in a text that begins with it. -/
def dropClosing? (d : Delimiters) (text : List Char) : Option (List Char) :=
  Text.dropMark? d.closing text

/-- What follows a closing brace and the closing delimiter, in a text that begins with them. -/
def dropRawClosing? (d : Delimiters) (text : List Char) : Option (List Char) :=
  Text.dropMark? ('\x7d' :: d.closing) text

/-- Whether a name ends before this text: it is blank, or the tag closes here. -/
def endsName (d : Delimiters) : List Char → Bool
  | [] => true
  | c :: text =>
    isTagBlank c || (d.dropClosing? (c :: text)).isSome || (d.dropRawClosing? (c :: text)).isSome

/-- The part of a text that belongs to a name which has begun before it, and what is left. -/
def cutName (d : Delimiters) : List Char → List Char × List Char
  | [] => ([], [])
  | c :: text =>
    if d.endsName (c :: text) then ([], c :: text)
    else
      let (name, rest) := d.cutName text
      (c :: name, rest)

/-- A cut behind a name takes nothing away. -/
theorem cutName_append (d : Delimiters) (text : List Char) :
    (d.cutName text).1 ++ (d.cutName text).2 = text := by
  induction text with
  | nil => rfl
  | cons c text ih =>
    rw [cutName]
    split
    · rfl
    · simpa using ih

/-- The rest of a cut begins where a name ends. -/
theorem endsName_cutName (d : Delimiters) (text : List Char) :
    d.endsName (d.cutName text).2 = true := by
  induction text with
  | nil => rfl
  | cons c text ih =>
    rw [cutName]
    split
    · assumption
    · exact ih

theorem length_cutName_le (d : Delimiters) (text : List Char) :
    (d.cutName text).2.length ≤ text.length := by
  conv => rhs; rw [← d.cutName_append text]
  simp

end Delimiters

/-! ## Tags that change the delimiters -/

/-- A tag that changes the delimiters, read from behind its equals sign. -/
structure DelimiterTag where
  /-- The text between the two equals signs. -/
  body : List Char
  /-- The delimiters from here on. -/
  delims : Delimiters
  /-- What follows the tag. -/
  rest : List Char

/-- Reads such a tag, which `d` closes: its body must be two fields separated by white space. -/
def Delimiters.readChange (d : Delimiters) (text : List Char) : Except ScanFault DelimiterTag :=
  match Text.cutAt ('=' :: d.closing) text with
  | none => .error .unclosedDelimiterTag
  | some (body, rest) =>
    match h : Text.fields Unicode.isBlank body with
    | [opening, closing] =>
      .ok ⟨body, ⟨opening, closing,
        Text.ne_nil_of_mem_fields (by rw [h]; exact List.mem_cons_self),
        Text.ne_nil_of_mem_fields (by rw [h]; exact List.mem_cons_of_mem _ List.mem_cons_self)⟩,
        rest⟩
    | _ :: _ :: field :: _ => .error (.extraField (String.ofList field))
    | _ => .error .missingField

/-- The tag is the body, the equals sign and the closing delimiter; the rest follows them. -/
theorem Delimiters.eq_of_readChange {d : Delimiters} {text : List Char} {tag : DelimiterTag}
    (h : d.readChange text = .ok tag) : text = tag.body ++ '=' :: d.closing ++ tag.rest := by
  unfold readChange at h
  split at h
  · cases h
  · rename_i body rest hc
    split at h
    · cases h
      exact Text.eq_of_cutAt hc
    · cases h
    · cases h

/-! ## States and moves -/

/-- The state of reading a template. Each state but the last holds the delimiters in force, and the
text that is left with the place where it begins. -/
inductive Scanner where
  /-- Outside tags. -/
  | text (delims : Delimiters) (pos : Position) (rest : List Char)
  /-- Inside a tag, behind its opening delimiter. -/
  | tag (delims : Delimiters) (pos : Position) (rest : List Char)
  /-- Inside a comment, behind its sign. -/
  | comment (delims : Delimiters) (pos : Position) (rest : List Char)
  /-- Before a closing delimiter, which is due next; here `rest` follows the delimiter. -/
  | closing (delims : Delimiters) (pos : Position) (rest : List Char)
  /-- At the end: this token is handed out again and again. -/
  | finished (last : Terminal)

namespace Scanner

/-- The outcome of a move that stops the scanner at `pos`. -/
def fail (fault : ScanFault) (pos : Position) : Option Token × Scanner :=
  let last : Terminal := { token := ⟨.error, fault.message, pos⟩ }
  (some last.token, finished last)

/-- A move outside tags: on to the next opening delimiter, or over it. -/
def stepText (d : Delimiters) (pos : Position) (rest : List Char) : Option Token × Scanner :=
  match Text.cutAt d.opening rest with
  -- No tag follows: what is left is text, and behind it the end.
  | none =>
    match rest with
    | [] =>
      let last : Terminal := { token := ⟨.endOfInput, "", pos⟩ }
      (some last.token, finished last)
    | c :: cs =>
      (some ⟨.text, String.ofList (c :: cs), pos⟩, text d (pos.after (c :: cs)) [])
  -- Text before a tag: the next move is over the delimiter.
  | some (c :: cs, behind) =>
    (some ⟨.text, String.ofList (c :: cs), pos⟩,
      text d (pos.after (c :: cs)) (d.opening ++ behind))
  -- A tag that changes the delimiters hands out nothing.
  | some ([], '=' :: behind) =>
    let bodyPos := (pos.after d.opening).next '='
    match d.readChange behind with
    | .ok change =>
      (none, text change.delims (bodyPos.after (change.body ++ '=' :: d.closing)) change.rest)
    | .error fault => fail fault bodyPos
  | some ([], behind) =>
    (some ⟨.leftDelimiter, String.ofList d.opening, pos⟩, tag d (pos.after d.opening) behind)

/-- A move inside a tag: over a closing delimiter, a blank, a sign or a name. -/
def stepTag (d : Delimiters) (pos : Position) (rest : List Char) : Option Token × Scanner :=
  -- A closing brace before the delimiter comes first: the delimiter may begin with a brace itself.
  match d.dropRawClosing? rest with
  | some behind =>
    (some ⟨.sigil .rawEnd, "\x7d", pos⟩, closing d (pos.next '\x7d') behind)
  | none =>
    match d.dropClosing? rest with
    | some behind =>
      (some ⟨.rightDelimiter, String.ofList d.closing, pos⟩, text d (pos.after d.closing) behind)
    | none =>
      match rest with
      | [] => fail .unclosedTag pos
      | c :: behind =>
        if c = '\n' then fail .unclosedTag (pos.next c)
        else if isTagBlank c then (none, tag d (pos.next c) behind)
        else
          match Sigil.ofChar? c with
          | some .comment =>
            (some ⟨.sigil .comment, String.singleton c, pos⟩, comment d (pos.next c) behind)
          | some sign =>
            (some ⟨.sigil sign, String.singleton c, pos⟩, tag d (pos.next c) behind)
          | none =>
            if isNameStart c then
              let (name, behind) := d.cutName behind
              (some ⟨.identifier, String.ofList (c :: name), pos⟩,
                tag d (pos.after (c :: name)) behind)
            else fail (.unrecognized c) (pos.next c)

/-- The move inside a comment: on to the closing delimiter. -/
def stepComment (d : Delimiters) (pos : Position) (rest : List Char) : Option Token × Scanner :=
  match Text.cutAt d.closing rest with
  | some (body, behind) =>
    (some ⟨.text, String.ofList body, pos⟩, closing d (pos.after body) behind)
  | none => fail .unclosedComment pos

/-- One move of the scanner, and the token it hands out, if any. -/
def step : Scanner → Option Token × Scanner
  | text d pos rest => stepText d pos rest
  | tag d pos rest => stepTag d pos rest
  | comment d pos rest => stepComment d pos rest
  | closing d pos rest =>
    (some ⟨.rightDelimiter, String.ofList d.closing, pos⟩, text d (pos.after d.closing) rest)
  | finished last => (some last.token, finished last)

/-! ## Progress -/

/-- Bounds the moves that are left. Each character may take two, one for itself and one for the
state it leads to. -/
def size : Scanner → Nat
  | text _ _ rest | tag _ _ rest | comment _ _ rest => 2 * rest.length + 1
  | closing _ _ rest => 2 * rest.length + 2
  | finished _ => 0

/-- Whether the scanner has handed out the last of its tokens. -/
def isFinished : Scanner → Bool
  | finished _ => true
  | _ => false

@[simp] theorem size_fail (fault : ScanFault) (pos : Position) : (fail fault pos).2.size = 0 := rfl

theorem size_stepText_lt (d : Delimiters) (pos : Position) (rest : List Char) :
    (stepText d pos rest).2.size < 2 * rest.length + 1 := by
  have hd := d.length_opening_pos
  unfold stepText
  split
  · split <;> simp [size]
  · rename_i h
    have := congrArg List.length (Text.eq_of_cutAt h)
    simp [size] at this ⊢
    omega
  · rename_i behind h
    have := congrArg List.length (Text.eq_of_cutAt h)
    dsimp only
    split
    · rename_i change hc
      have hc := congrArg List.length (Delimiters.eq_of_readChange hc)
      simp [size] at this hc ⊢
      omega
    · simp
  · rename_i h
    have := congrArg List.length (Text.eq_of_cutAt h)
    simp [size] at this ⊢
    omega

theorem size_stepTag_lt (d : Delimiters) (pos : Position) (rest : List Char) :
    (stepTag d pos rest).2.size < 2 * rest.length + 1 := by
  have hd := d.length_closing_pos
  unfold stepTag
  split
  · rename_i h
    have := congrArg List.length (Text.dropMark?_eq_some_iff.1 h)
    simp [size] at this ⊢
    omega
  · split
    · rename_i h
      have := congrArg List.length (Text.dropMark?_eq_some_iff.1 h)
      simp [size] at this ⊢
      omega
    · split
      · simp
      · rename_i c behind _ _
        have := d.length_cutName_le behind
        split
        · simp
        · split
          · simp [size]
          · split
            · simp [size]
            · simp [size]
            · split
              · simp [size]
                omega
              · simp

theorem size_stepComment_lt (d : Delimiters) (pos : Position) (rest : List Char) :
    (stepComment d pos rest).2.size < 2 * rest.length + 1 := by
  have hd := d.length_closing_pos
  unfold stepComment
  split
  · rename_i h
    have := congrArg List.length (Text.eq_of_cutAt h)
    simp [size] at this ⊢
    omega
  · simp

/-- A move makes the scanner smaller, unless it has finished. -/
theorem size_step_lt {s : Scanner} (h : s.isFinished = false) : s.step.2.size < s.size := by
  cases s with
  | text d pos rest => exact size_stepText_lt d pos rest
  | tag d pos rest => exact size_stepTag_lt d pos rest
  | comment d pos rest => exact size_stepComment_lt d pos rest
  | closing d pos rest => simp [step, size]
  | finished last => cases h

/-- A finished scanner always hands out a token, so one that does not has not finished. -/
theorem isFinished_eq_false_of_step {s s' : Scanner} (h : s.step = (none, s')) :
    s.isFinished = false := by
  cases s with
  | finished last => cases h
  | _ => rfl

/-- A finished scanner hands out a token that ends the sequence, so one that does not has not
finished. -/
theorem isFinished_eq_false_of_isTerminal {s s' : Scanner} {t : Token}
    (h : s.step = (some t, s')) (ht : t.isTerminal = false) : s.isFinished = false := by
  cases s with
  | finished last =>
    cases h
    rw [last.isTerminal] at ht
    cases ht
  | _ => rfl

/-! ## Tokens -/

/-- The next token and the state behind it. -/
def next (s : Scanner) : Token × Scanner :=
  match _hs : s.step with
  | (some t, s') => (t, s')
  | (none, s') => next s'
termination_by s.size
decreasing_by
  have := size_step_lt (isFinished_eq_false_of_step _hs)
  rwa [_hs] at this

theorem next_of_step_some {s s' : Scanner} {t : Token} (h : s.step = (some t, s')) :
    s.next = (t, s') := by
  rw [next]
  split
  · rename_i heq
    rw [h] at heq
    cases heq
    rfl
  · rename_i heq
    rw [h] at heq
    cases heq

theorem next_of_step_none {s s' : Scanner} (h : s.step = (none, s')) : s.next = s'.next := by
  rw [next]
  split
  · rename_i heq
    rw [h] at heq
    cases heq
  · rename_i heq
    rw [h] at heq
    cases heq
    rfl

@[simp] theorem next_finished (last : Terminal) :
    next (finished last) = (last.token, finished last) := next_of_step_some rfl

/-- Behind a token that does not end the sequence the scanner is smaller. -/
theorem size_next_lt (s : Scanner) (h : s.next.1.isTerminal = false) : s.next.2.size < s.size := by
  induction s using next.induct with
  | case1 s t s' hs =>
    rw [next_of_step_some hs] at h ⊢
    have := size_step_lt (isFinished_eq_false_of_isTerminal hs h)
    rwa [hs] at this
  | case2 s s' hs ih =>
    rw [next_of_step_none hs] at h ⊢
    have := size_step_lt (isFinished_eq_false_of_step hs)
    rw [hs] at this
    exact Nat.lt_trans (ih h) this

/-- All tokens from here on, up to the one that ends them. -/
def tokens (s : Scanner) : List Token :=
  if _h : s.next.1.isTerminal = false then s.next.1 :: tokens s.next.2 else [s.next.1]
termination_by s.size
decreasing_by exact size_next_lt s _h

/-- The scanner at the start of a template. Without proper delimiters it has finished already. -/
def ofTexts (opening closing template : String) : Scanner :=
  match Delimiters.ofTexts? opening closing with
  | some d => text d Position.start template.toList
  | none => (fail .emptyDelimiter Position.start).2

end Scanner

end Mustache
