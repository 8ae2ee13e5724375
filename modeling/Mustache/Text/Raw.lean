import Mustache.Text.Utf8

/-! # Raw texts
The names of files are bytes of any content. Most often they are the UTF-8 form of a text
(`RawText.ofText`), which can be read back (`RawText.text?`). All others can be shown only, with a
replacement character for what is no text (`RawText.display`). -/

namespace Mustache

/-- What a file system takes for a text: bytes of any content. -/
structure RawText where
  /-- The bytes. -/
  bytes : List UInt8
  deriving DecidableEq, Repr

namespace RawText

/-- The raw form of a text. -/
def ofText (s : String) : RawText := ⟨s.toList.flatMap String.utf8EncodeChar⟩

instance : Coe String RawText := ⟨ofText⟩

/-- The text that has this raw form, if there is one. -/
def text? (raw : RawText) : Option String :=
  (Utf8.decodeFrom 0 raw.bytes).toOption.map String.ofList

/-- What messages show of a raw text. -/
def display (raw : RawText) : String := String.ofList (Utf8.decodeLossyList raw.bytes)

end RawText

end Mustache
