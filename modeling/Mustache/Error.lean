import Mustache.Data
import Mustache.Token

/-! # Errors
What can go wrong between the source of a template and its output, by cause. `Error.message` gives
the text for people. -/

namespace Mustache

/-! ## Faults of a template -/

/-- The reasons for which a sequence of tokens is no template. -/
inductive SyntaxFault where
  /-- A token that cannot stand between tags. -/
  | unexpected (token : Token)
  /-- A token that cannot stand first in a tag. -/
  | unexpectedInTag (token : Token)
  /-- A token where another kind must stand. -/
  | expected (kind : Token.Kind) (token : Token)
  /-- The input ends before a token of this kind. -/
  | endBefore (kind : Token.Kind)
  /-- The input ends inside a comment. -/
  | endInComment
  /-- The section of this name is never closed. -/
  | unclosedSection (name : String)
  /-- The sign that closes a section does not stand first in its tag. -/
  | malformedEnd
  /-- There are more than this many sections in one another. -/
  | tooDeep (limit : Nat)
  deriving DecidableEq, Repr

/-- The message of a fault. -/
def SyntaxFault.message : SyntaxFault → String
  | unexpected token => "unexpected token " ++ token.display
  | unexpectedInTag token => "unexpected token " ++ token.display ++ " in tag"
  | expected kind token => "unexpected token " ++ token.display ++ ", expected " ++ kind.name
  | endBefore kind => "unexpected end of input, expected " ++ kind.name
  | endInComment => "unexpected end of input in comment"
  | unclosedSection name => "unclosed section " ++ name
  | malformedEnd => "malformed section end"
  | tooDeep limit => s!"sections nested deeper than {limit}"

/-! ## Faults of input and output -/

/-- The reasons for which bytes cannot be read or written. -/
inductive IoFault where
  /-- A stream of bytes is not UTF-8. -/
  | streamNotText
  /-- Bytes at hand are not UTF-8. -/
  | notText (fault : Utf8.Fault)
  /-- There is no room for all that should be written. -/
  | full
  /-- There is no file of this name. -/
  | notFound
  /-- A component of the path is no directory. -/
  | notDirectory
  /-- A directory has no bytes to read. -/
  | isDirectory
  /-- A path or one of its components is longer than names may be. -/
  | nameTooLong
  /-- The operating system refuses for another reason, to which it gives a number. -/
  | system (reason : String) (number : Nat)
  deriving DecidableEq, Repr

/-- The message of a fault. -/
def IoFault.message : IoFault → String
  | streamNotText => "stream did not contain valid UTF-8"
  | notText fault => fault.message
  | full => "failed to write whole buffer"
  | notFound => "No such file or directory (os error 2)"
  | notDirectory => "Not a directory (os error 20)"
  | isDirectory => "Is a directory (os error 21)"
  | nameTooLong => "File name too long (os error 36)"
  | system reason number => s!"{reason} (os error {number})"

/-! ## Errors -/

/-- What can go wrong with a template. -/
inductive Error where
  /-- The scanner stopped at `pos` with this message. -/
  | lexical (pos : Position) (message : String)
  /-- The tokens are no template; the fault is at `pos`. -/
  | malformed (pos : Position) (fault : SyntaxFault)
  /-- A name stands for nothing. -/
  | missing (name : String)
  /-- The partial of this name would be included at a depth beyond the limit. -/
  | partialDepth (name : String) (limit : Nat)
  /-- Data or output has no value. -/
  | value (fault : ValueFault)
  /-- Bytes cannot be read or written. -/
  | io (fault : IoFault)

namespace Error

/-- The error of a token that stopped the scanner. -/
def ofToken (token : Token) : Error := lexical token.pos token.text

/-- The message of an error. -/
def message : Error → String
  | lexical pos message => pos.text ++ " lexical error: " ++ message
  | malformed pos fault => pos.text ++ " syntax error: " ++ fault.message
  | missing name => "failed to lookup " ++ name
  | partialDepth name limit => s!"partial {name} nested deeper than {limit} levels"
  | value fault => "Value error: " ++ fault.message
  | io fault => "I/O error: " ++ fault.message

/-- The place of an error in the source of a template, if it has one. -/
def position? : Error → Option Position
  | lexical pos _ | malformed pos _ => some pos
  | _ => none

end Error

end Mustache
