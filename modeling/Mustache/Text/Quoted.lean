import Mustache.Unicode.Printable

/-! # Quoted text
How messages show a text or a character that may hold anything: between quotes, on one line, and in
visible characters only. A text stands between double quotes and escapes these, a character stands
between single quotes and escapes those; the backslash and four control characters have short
escapes, and every other character that has no visible form or joins the one before it is written by
its code point. -/

namespace Mustache.Text

/-- The escape of a character by its code point: hexadecimal digits between braces. -/
def codePointEscape (c : Char) : List Char :=
  '\\' :: 'u' :: '\x7b' :: Nat.toDigits 16 c.toNat ++ ['\x7d']

/-- How a character is written between quotes of the kind `quote`. -/
def escape (quote c : Char) : List Char :=
  if c = '\x00' then ['\\', '0']
  else if c = '\t' then ['\\', 't']
  else if c = '\r' then ['\\', 'r']
  else if c = '\n' then ['\\', 'n']
  else if c = '\\' then ['\\', '\\']
  else if c = quote then ['\\', c]
  else if Unicode.isExtender c || !Unicode.isPrintable c then codePointEscape c
  else [c]

/-- A text between double quotes. -/
def quoted (text : String) : String :=
  String.ofList ('"' :: text.toList.flatMap (escape '"') ++ ['"'])

/-- A character between single quotes. -/
def quotedChar (c : Char) : String :=
  String.ofList ('\'' :: escape '\'' c ++ ['\''])

end Mustache.Text
