import Mustache.Text.Quoted

/-! # Template trees
A parsed template is a list of nodes. Only sections have nodes inside. -/

namespace Mustache

/-- A part of a template. -/
inductive Node where
  /-- Text that is written as it stands. -/
  | text (text : String)
  /-- The text of the value called `name`, which may be escaped for HTML. -/
  | interpolation (name : String) (escaped : Bool)
  /-- A section: its body is written for the value called `name`, or, if `inverted`, for lack of
  one. -/
  | block (name : String) (inverted : Bool) (body : List Node)
  /-- A comment, which writes nothing. -/
  | comment (text : String)
  /-- The partial called `name`. -/
  | inclusion (name : String)
  deriving Repr

namespace Node

/-! ## Descriptions of nodes -/

mutual

/-- A description of a node on one line: its kind and its tags, always between braces. -/
def describe : Node → String
  | text t => "text_node: " ++ Text.quoted t
  | interpolation name true => "var_node: \x7b\x7b" ++ name ++ "\x7d\x7d"
  | interpolation name false => "var_node: \x7b\x7b\x7b" ++ name ++ "\x7d\x7d\x7d"
  | block name inverted body =>
    "section_node: \x7b\x7b" ++ (if inverted then "^" else "#") ++ name ++ "\x7d\x7d" ++
      describeAll body ++ "\x7b\x7b/" ++ name ++ "\x7d\x7d"
  | comment t => "comment_node: " ++ Text.quoted t
  | inclusion name => "partial_node: \x7b\x7b>" ++ name ++ "\x7d\x7d"

/-- The descriptions of some nodes, one after the other. -/
def describeAll : List Node → String
  | [] => ""
  | node :: nodes => describe node ++ describeAll nodes

end

/-! ## Nesting -/

mutual

/-- The greatest number of sections in one another in a node. -/
def depth : Node → Nat
  | block _ _ body => depthAll body + 1
  | _ => 0

/-- The greatest number of sections in one another in some nodes. -/
def depthAll : List Node → Nat
  | [] => 0
  | node :: nodes => max (depth node) (depthAll nodes)

end

end Node

end Mustache
