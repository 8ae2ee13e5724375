/-! # Digests of texts
Texts are told apart by digests of 64 bits. The digest is SipHash with the key zero, with one round
for each word of the bytes and three rounds at the end. -/

namespace Mustache.Text

/-- The four words that a digest is computed with. -/
structure DigestState where
  /-- The first word. -/
  v0 : UInt64
  /-- The second word. -/
  v1 : UInt64
  /-- The third word. -/
  v2 : UInt64
  /-- The fourth word. -/
  v3 : UInt64

namespace DigestState

/-- The bits of a word, moved to the left by `n` places; those that fall out come in on the right.
-/
def rotate (x : UInt64) (n : UInt64) : UInt64 := (x <<< n) ||| (x >>> (64 - n))

/-- The state before the first word, for the key zero. -/
def start : DigestState :=
  ⟨0x736f6d6570736575, 0x646f72616e646f6d, 0x6c7967656e657261, 0x7465646279746573⟩

/-- A round. -/
def round (s : DigestState) : DigestState :=
  let a := s.v0 + s.v1
  let b := rotate s.v1 13 ^^^ a
  let c := s.v2 + s.v3
  let d := rotate s.v3 16 ^^^ c
  let a' := rotate a 32 + d
  let c' := c + b
  ⟨a', rotate b 17 ^^^ c', rotate c' 32, rotate d 21 ^^^ a'⟩

/-- Takes a word in. -/
def absorb (s : DigestState) (word : UInt64) : DigestState :=
  let s := round { s with v3 := s.v3 ^^^ word }
  { s with v0 := s.v0 ^^^ word }

/-- The digest when all words have been taken in. -/
def finish (s : DigestState) : UInt64 :=
  let s := round (round (round { s with v2 := s.v2 ^^^ 0xff }))
  s.v0 ^^^ s.v1 ^^^ s.v2 ^^^ s.v3

end DigestState

/-- The word of some bytes, the lowest one first. -/
def wordOfBytes (bytes : List UInt8) : UInt64 :=
  bytes.foldr (fun b word => word <<< 8 ||| b.toUInt64) 0

/-- The digest of some bytes, of which there are `size` in all, from the state before them. -/
def digestFrom (size : Nat) (s : DigestState) : List UInt8 → UInt64
  | b₀ :: b₁ :: b₂ :: b₃ :: b₄ :: b₅ :: b₆ :: b₇ :: bytes =>
    digestFrom size (s.absorb (wordOfBytes [b₀, b₁, b₂, b₃, b₄, b₅, b₆, b₇])) bytes
  | bytes => (s.absorb (size.toUInt64 <<< 56 ||| wordOfBytes bytes)).finish

/-- The digest of some bytes. -/
def digestBytes (bytes : List UInt8) : UInt64 := digestFrom bytes.length .start bytes

/-- The digest of a text: that of its UTF-8 form, which a byte that is never part of one ends. -/
def digest (text : String) : UInt64 :=
  digestBytes (text.toList.flatMap String.utf8EncodeChar ++ [0xff])

end Mustache.Text
