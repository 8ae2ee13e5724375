import Mustache.Position
import Mustache.Text.Quoted

/-! # Tokens
A template is read as a sequence of tokens: stretches of text, the delimiters of tags, and inside a
tag a name and the signs that say what the tag does with it. A `Terminal` is a token that ends a
sequence: the end of the input, or an error that stops the scanner. -/

namespace Mustache

/-- The signs that give a tag its meaning. -/
inductive Sigil where
  /-- `!`, a comment. -/
  | comment
  /-- `#`, the start of a section. -/
  | block
  /-- `^`, the start of an inverted section. -/
  | inverted
  /-- `/`, the end of a section. -/
  | blockEnd
  /-- An opening brace: the value is not escaped. -/
  | rawStart
  /-- The closing brace that belongs to `rawStart`. -/
  | rawEnd
  /-- `&`, another sign for a value that is not escaped. -/
  | raw
  /-- `>`, the inclusion of a partial. -/
  | inclusion
  deriving DecidableEq, Repr

namespace Sigil

/-- The sign for which a character stands at the start of a tag or before a name. The closing brace
is no such sign: it counts only just before the closing delimiter. -/
def ofChar? : Char → Option Sigil
  | '!' => some comment
  | '#' => some block
  | '^' => some inverted
  | '/' => some blockEnd
  | '&' => some raw
  | '>' => some inclusion
  | '\x7b' => some rawStart
  | _ => none

/-- The name of the sign in messages. -/
def name : Sigil → String
  | comment => "comment"
  | block => "section start"
  | inverted => "inverted section start"
  | blockEnd => "section end"
  | rawStart => "raw start"
  | rawEnd => "raw end"
  | raw => "raw alt"
  | inclusion => "partial"

end Sigil

namespace Token

/-- The kinds of tokens. -/
inductive Kind where
  /-- The scanner stopped here; the text of the token is the message. -/
  | error
  /-- Nothing is left. -/
  | endOfInput
  /-- The name of a value, a section or a partial. -/
  | identifier
  /-- The delimiter that opens a tag. -/
  | leftDelimiter
  /-- The delimiter that closes a tag. -/
  | rightDelimiter
  /-- Text outside tags, or the body of a comment. -/
  | text
  /-- A sign inside a tag. -/
  | sigil (s : Sigil)
  deriving DecidableEq, Repr

namespace Kind

/-- The name of the kind in messages. -/
def name : Kind → String
  | error => "error"
  | endOfInput => "end of input"
  | identifier => "identifier"
  | leftDelimiter => "left delimiter"
  | rightDelimiter => "right delimiter"
  | text => "text"
  | sigil s => s.name

/-- The kinds that end a sequence of tokens. -/
def isTerminal : Kind → Bool
  | error | endOfInput => true
  | _ => false

@[simp] theorem isTerminal_error : isTerminal error = true := rfl
@[simp] theorem isTerminal_endOfInput : isTerminal endOfInput = true := rfl
@[simp] theorem isTerminal_identifier : isTerminal identifier = false := rfl
@[simp] theorem isTerminal_leftDelimiter : isTerminal leftDelimiter = false := rfl
@[simp] theorem isTerminal_rightDelimiter : isTerminal rightDelimiter = false := rfl
@[simp] theorem isTerminal_text : isTerminal text = false := rfl
@[simp] theorem isTerminal_sigil (s : Sigil) : isTerminal (sigil s) = false := rfl

end Kind

end Token

/-- A token: what it is, the characters it stands for, and where they begin. -/
structure Token where
  /-- What the token is. -/
  kind : Token.Kind
  /-- The characters of the token, or the message of an error. -/
  text : String
  /-- The place of the first character, or where an error was met. -/
  pos : Position
  deriving DecidableEq, Repr

namespace Token

/-- Whether the token ends its sequence. -/
def isTerminal (t : Token) : Bool := t.kind.isTerminal

/-- How messages show a token: its kind, and its text between quotes. -/
def display (t : Token) : String := t.kind.name ++ ":" ++ Text.quoted t.text

end Token

/-- A token that ends its sequence. -/
structure Terminal where
  /-- The token itself. -/
  token : Token
  /-- It is the end of the input or an error. -/
  isTerminal : token.isTerminal = true := by rfl

end Mustache
