import Mustache.Node.Parser

/-! # The grammar of templates
Which tokens make up which nodes, as rules read from left to right: a template is text and tags in
turn, and a section is a tag that opens it, a template, and the tag that closes it under the same
name (`Template`). Nothing here counts names or collects spans. Which section is the first inside
too many others is seen from the tokens alone (`firstBeyond`). -/

namespace Mustache.Grammar

open Mustache.Parser

/-! ## Tags and templates -/

/-- **Tags without a body**, delimiters included, and the nodes they stand for. -/
inductive Tag : List Token → Node → Prop where
  /-- A name alone: its value, escaped. -/
  | value {left name right : Token} (hl : left.kind = .leftDelimiter)
      (hn : name.kind = .identifier) (hr : right.kind = .rightDelimiter) :
      Tag [left, name, right] (.interpolation name.text true)
  /-- A name between braces: its value as it stands. -/
  | braces {left opening name closing right : Token} (hl : left.kind = .leftDelimiter)
      (ho : opening.kind = .sigil .rawStart) (hn : name.kind = .identifier)
      (hc : closing.kind = .sigil .rawEnd) (hr : right.kind = .rightDelimiter) :
      Tag [left, opening, name, closing, right] (.interpolation name.text false)
  /-- A name behind the other sign for a value as it stands. -/
  | raw {left sign name right : Token} (hl : left.kind = .leftDelimiter)
      (hs : sign.kind = .sigil .raw) (hn : name.kind = .identifier)
      (hr : right.kind = .rightDelimiter) :
      Tag [left, sign, name, right] (.interpolation name.text false)
  /-- A comment: the text of all its tokens up to the closing delimiter. -/
  | comment {left sign right : Token} {body : List Token} (hl : left.kind = .leftDelimiter)
      (hs : sign.kind = .sigil .comment) (hb : ∀ t ∈ body, t.kind ≠ .rightDelimiter)
      (hr : right.kind = .rightDelimiter) :
      Tag (left :: sign :: (body ++ [right])) (.comment (String.join (body.map Token.text)))
  /-- A partial. -/
  | inclusion {left sign name right : Token} (hl : left.kind = .leftDelimiter)
      (hs : sign.kind = .sigil .inclusion) (hn : name.kind = .identifier)
      (hr : right.kind = .rightDelimiter) :
      Tag [left, sign, name, right] (.inclusion name.text)

/-- A comment of a single token stands for the text of that token. -/
theorem tag_comment {left sign body right : Token} (hl : left.kind = .leftDelimiter)
    (hs : sign.kind = .sigil .comment) (hb : body.kind ≠ .rightDelimiter)
    (hr : right.kind = .rightDelimiter) : Tag [left, sign, body, right] (.comment body.text) := by
  have htag : Tag (left :: sign :: ([body] ++ [right]))
      (.comment (String.join ([body].map Token.text))) :=
    .comment hl hs (by simpa using hb) hr
  simpa using htag

/-- The tag that opens a section, with its name. -/
inductive Opener (inverted : Bool) (name : Token) : List Token → Prop where
  /-- A sign and the name between delimiters. -/
  | mk {left sign right : Token} (hl : left.kind = .leftDelimiter)
      (hs : sign.kind = .sigil (if inverted then .inverted else .block))
      (hn : name.kind = .identifier) (hr : right.kind = .rightDelimiter) :
      Opener inverted name [left, sign, name, right]

/-- The tag that closes a section of this name. -/
inductive Closer (name : String) : List Token → Prop where
  /-- A sign and the name between delimiters. -/
  | mk {left sign close right : Token} (hl : left.kind = .leftDelimiter)
      (hs : sign.kind = .sigil .blockEnd) (hn : close.kind = .identifier)
      (hname : close.text = name) (hr : right.kind = .rightDelimiter) :
      Closer name [left, sign, close, right]

/-- **Templates**: the tokens of a template and its nodes. -/
inductive Template : List Token → List Node → Prop where
  /-- Nothing. -/
  | nil : Template [] []
  /-- Text, and a template behind it. -/
  | text {t : Token} {ts : List Token} {nodes : List Node} (ht : t.kind = .text)
      (h : Template ts nodes) : Template (t :: ts) (.text t.text :: nodes)
  /-- A tag without a body, and a template behind it. -/
  | tag {tag ts : List Token} {node : Node} {nodes : List Node} (ht : Tag tag node)
      (h : Template ts nodes) : Template (tag ++ ts) (node :: nodes)
  /-- A section, and a template behind it. -/
  | block {inverted : Bool} {name : Token} {opener body closer ts : List Token}
      {children nodes : List Node} (ho : Opener inverted name opener) (hb : Template body children)
      (hc : Closer name.text closer) (h : Template ts nodes) :
      Template (opener ++ (body ++ (closer ++ ts))) (.block name.text inverted children :: nodes)

/-- **What a scanner accepts**: it comes to the end of its input, and the tokens before it make up a
template with these nodes. -/
def Accepts (s : Scanner) (ts : List Token) (nodes : List Node) : Prop :=
  ∃ last, s.tokens = ts ++ [last] ∧ last.kind = .endOfInput ∧ Template ts nodes

/-! ## Nesting -/

/-- The name behind the first sign that opens a section inside `limit` others, in tokens before
which `level` sections are open. -/
def firstBeyond (limit : Nat) : (level : Nat) → List Token → Option Token
  | _, [] => none
  | level, t :: ts =>
    if opensSection t then
      if level = limit then ts.head? else firstBeyond limit (level + 1) ts
    else if t.kind = .sigil .blockEnd then firstBeyond limit (level - 1) ts
    else firstBeyond limit level ts

end Mustache.Grammar
