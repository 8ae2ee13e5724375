import Mustache.Node
import Mustache.Proofs.Token.Moves

/-! # Printed trees
A tree has many written forms, as blanks may stand between the parts of its tags: `Prints` relates
it to all of them. Not every tree has a written form that can be read: a text may look like a tag, a
name may look like the end of one. `Fits` says which trees do, and `Delimiters.Tame` which
delimiters cannot be taken for a part of a tag. -/

namespace Mustache

open Text

/-! ## Delimiters and names -/

/-- **Delimiters that no part of a tag begins like**: the default pair, and those of which the
closing one begins with a character that is no blank, begins no name, and is no sign. -/
def Delimiters.Tame (d : Delimiters) : Prop :=
  d = braces ∨ ∀ c ∈ d.closing.head?, isTagBlank c = false ∧ isNameStart c = false ∧
    Sigil.ofChar? c = none ∧ c ≠ '\x7d'

/-- A character at which a tag cannot close. -/
def Delimiters.Inside (d : Delimiters) (c : Char) : Prop :=
  c ≠ '\x7d' ∧ d.closing.head? ≠ some c

instance (d : Delimiters) (c : Char) : Decidable (d.Inside c) := inferInstanceAs (Decidable (_ ∧ _))

/-- **Names that can be read**: they begin as a name must, and hold neither a blank nor a character
at which the tag could close. -/
structure Delimiters.Names (d : Delimiters) (name : String) : Prop where
  /-- The first character begins a name. -/
  start : ∃ c cs, name.toList = c :: cs ∧ isNameStart c = true
  /-- No character ends the name. -/
  inside : ∀ c ∈ name.toList, isTagBlank c = false ∧ d.Inside c

instance (d : Delimiters) (name : String) : Decidable (d.Names name) :=
  decidable_of_iff (name.toList.head?.any isNameStart ∧
      name.toList.all fun c => !isTagBlank c && decide (d.Inside c)) <| by
    constructor
    · rintro ⟨hstart, hinside⟩
      refine ⟨?_, by simpa using hinside⟩
      cases hname : name.toList with
      | nil => simp [hname] at hstart
      | cons c cs => exact ⟨c, cs, rfl, by simpa [hname] using hstart⟩
    · rintro ⟨⟨c, cs, hname, hstart⟩, hinside⟩
      exact ⟨by simp [hname, hstart], by simpa using hinside⟩

/-! ## Trees that can be read -/

/-- A text is the first of some nodes. -/
def Node.isText : Node → Bool
  | text _ => true
  | _ => false

/-- **Trees whose written forms can be read**, when a tag stands right before them (`behindTag`)
or right behind them (`beforeTag`). -/
inductive Node.Fits (d : Delimiters) : (behindTag beforeTag : Bool) → List Node → Prop where
  /-- No nodes. -/
  | nil {behindTag beforeTag : Bool} : Fits d behindTag beforeTag []
  /-- A text is not empty, no other text follows it, it does not begin with a brace that a tag
  before it could take, and no tag seems to begin in it before the next one does. -/
  | text {behindTag beforeTag : Bool} {t : String} {nodes : List Node} (hne : t.toList ≠ [])
      (hfirst : behindTag = true → t.toList.head? ≠ some '\x7d')
      (hnext : ∀ node ∈ nodes.head?, node.isText = false)
      (hlast : nodes = [] → beforeTag = false → ¬ d.opening <:+: t.toList)
      (hclear : nodes ≠ [] ∨ beforeTag = true → Clear d.opening t.toList)
      (h : Fits d false beforeTag nodes) : Fits d behindTag beforeTag (.text t :: nodes)
  /-- A value. -/
  | interpolation {behindTag beforeTag escaped : Bool} {name : String} {nodes : List Node}
      (hname : d.Names name) (h : Fits d true beforeTag nodes) :
      Fits d behindTag beforeTag (.interpolation name escaped :: nodes)
  /-- A section; its body stands between two tags. -/
  | block {behindTag beforeTag inverted : Bool} {name : String} {body nodes : List Node}
      (hname : d.Names name) (hbody : Fits d true true body) (h : Fits d true beforeTag nodes) :
      Fits d behindTag beforeTag (.block name inverted body :: nodes)
  /-- A comment, which does not seem to end before it does. -/
  | comment {behindTag beforeTag : Bool} {t : String} {nodes : List Node}
      (hclear : Clear d.closing t.toList) (h : Fits d true beforeTag nodes) :
      Fits d behindTag beforeTag (.comment t :: nodes)
  /-- A partial. -/
  | inclusion {behindTag beforeTag : Bool} {name : String} {nodes : List Node}
      (hname : d.Names name) (h : Fits d true beforeTag nodes) :
      Fits d behindTag beforeTag (.inclusion name :: nodes)

/-! ## Written forms -/

/-- **The written forms of a tag** with this sign, name, and mark before the closing delimiter: any
blanks stand before the sign, before the name and behind it. -/
inductive Delimiters.Written (d : Delimiters) (sign : List Char) (name : String)
    (mark : List Char) : List Char → Prop where
  /-- The parts of the tag with blanks between them. -/
  | mk {before between behind : List Char} (hbefore : Blanks before) (hbetween : Blanks between)
      (hbehind : Blanks behind) :
      Written d sign name mark
        (d.opening ++ (before ++ (sign ++ (between ++ (name.toList ++ (behind ++
          (mark ++ d.closing)))))))

/-- **The written forms of a tree.** -/
inductive Node.Prints (d : Delimiters) : List Node → List Char → Prop where
  /-- No nodes. -/
  | nil : Prints d [] []
  /-- A text as it stands. -/
  | text {t : String} {nodes : List Node} {text : List Char} (h : Prints d nodes text) :
      Prints d (.text t :: nodes) (t.toList ++ text)
  /-- A value that may be escaped: its name. -/
  | value {name : String} {nodes : List Node} {tag text : List Char}
      (htag : d.Written [] name [] tag) (h : Prints d nodes text) :
      Prints d (.interpolation name true :: nodes) (tag ++ text)
  /-- A value as it stands: its name between braces. -/
  | braces {name : String} {nodes : List Node} {tag text : List Char}
      (htag : d.Written ['\x7b'] name ['\x7d'] tag) (h : Prints d nodes text) :
      Prints d (.interpolation name false :: nodes) (tag ++ text)
  /-- A value as it stands: its name behind a sign. -/
  | raw {name : String} {nodes : List Node} {tag text : List Char}
      (htag : d.Written ['&'] name [] tag) (h : Prints d nodes text) :
      Prints d (.interpolation name false :: nodes) (tag ++ text)
  /-- A section: a tag that opens it, its body, and a tag that closes it. -/
  | block {name : String} {inverted : Bool} {body nodes : List Node}
      {opener inner closer text : List Char}
      (ho : d.Written [if inverted then '^' else '#'] name [] opener) (hbody : Prints d body inner)
      (hc : d.Written ['/'] name [] closer) (h : Prints d nodes text) :
      Prints d (.block name inverted body :: nodes) (opener ++ (inner ++ (closer ++ text)))
  /-- A comment: its text as it stands behind the sign. -/
  | comment {t : String} {nodes : List Node} {before text : List Char} (hbefore : Blanks before)
      (h : Prints d nodes text) :
      Prints d (.comment t :: nodes)
        (d.opening ++ (before ++ ('!' :: (t.toList ++ (d.closing ++ text)))))
  /-- A partial. -/
  | inclusion {name : String} {nodes : List Node} {tag text : List Char}
      (htag : d.Written ['>'] name [] tag) (h : Prints d nodes text) :
      Prints d (.inclusion name :: nodes) (tag ++ text)

end Mustache
