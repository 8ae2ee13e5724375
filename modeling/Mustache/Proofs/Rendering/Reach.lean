import Mustache.Rendering

/-! # What a rendering can reach
The nodes that a rendering comes to, whatever the values are, can be told from the templates: they
are the nodes at hand with all that stands in their sections (`Node.partsOf`), and those of the
partials that can be found for their tags while depth is left (`Rendering.CanInclude`). -/

namespace Mustache

namespace Node

mutual

/-- A node and all nodes inside it. -/
def parts : Node → List Node
  | text t => [text t]
  | interpolation name escaped => [interpolation name escaped]
  | block name inverted body => block name inverted body :: partsOf body
  | comment t => [comment t]
  | inclusion name => [inclusion name]

/-- Some nodes and all nodes inside them. -/
def partsOf : List Node → List Node
  | [] => []
  | node :: nodes => parts node ++ partsOf nodes

end

@[simp] theorem partsOf_nil : partsOf [] = [] := rfl

@[simp] theorem partsOf_cons (node : Node) (nodes : List Node) :
    partsOf (node :: nodes) = parts node ++ partsOf nodes := rfl

/-- A node is a part of itself. -/
theorem mem_parts_self (node : Node) : node ∈ parts node := by
  cases node <;> exact List.mem_cons_self

/-- **What a node uses by itself**: it writes no other texts, whatever the values are, and looks up
no other names. -/
def Uses (texts names : String → Prop) : Node → Prop
  | text t => texts t
  | interpolation name escaped =>
    names name ∧ ∀ v : Value, texts (if escaped then Html.escape v.text else v.text)
  | block name _ _ => names name
  | comment _ => True
  | inclusion _ => True

end Node

namespace Rendering

variable {depth : Nat} {resolver : Resolver} {nodes : List Node} {node : Node} {name : String}
variable {t u : Template}

/-- **The templates that a rendering can include**, when it is inside `depth` others: those that are
found for the tags of partials where depth is left for them, and those that these can include in
turn. -/
inductive CanInclude : (depth : Nat) → Resolver → List Node → Template → Prop where
  /-- A partial of the nodes. -/
  | tag {depth : Nat} {resolver : Resolver} {nodes : List Node} {name : String} {t : Template}
      (hn : .inclusion name ∈ Node.partsOf nodes) (hr : resolver name = some t)
      (hd : depth < inclusionLimit) : CanInclude depth resolver nodes t
  /-- A partial inside a partial of the nodes. -/
  | inside {depth : Nat} {resolver : Resolver} {nodes : List Node} {name : String} {t u : Template}
      (hn : .inclusion name ∈ Node.partsOf nodes) (hr : resolver name = some t)
      (hd : depth < inclusionLimit) (hu : CanInclude (depth + 1) (t.within resolver) t.nodes u) :
      CanInclude depth resolver nodes u

/-- **The nodes that a rendering can reach**: those of the list, and those of the templates that it
can include. -/
def CanReach (depth : Nat) (resolver : Resolver) (nodes : List Node) (node : Node) : Prop :=
  node ∈ Node.partsOf nodes ∨
    ∃ t, CanInclude depth resolver nodes t ∧ node ∈ Node.partsOf t.nodes

/-- What can be reached in a partial can be reached from its tag. -/
theorem CanReach.of_partial (hn : .inclusion name ∈ Node.partsOf nodes)
    (hr : resolver name = some t) (hd : depth < inclusionLimit)
    (h : CanReach (depth + 1) (t.within resolver) t.nodes node) :
    CanReach depth resolver nodes node := by
  rcases h with h | ⟨u, hu, h⟩
  · exact .inr ⟨t, .tag hn hr hd, h⟩
  · exact .inr ⟨u, .inside hn hr hd hu, h⟩

/-- Finds a single template, by its name. -/
def only (t : Template) : Resolver := fun name => if name = t.name then some t else none

theorem eq_of_only (h : only t name = some u) : u = t := by
  unfold only at h
  split at h
  · exact (Option.some.inj h).symm
  · cases h

/-- With a single template at hand that includes nothing, a rendering can reach its nodes and no
others besides those of the list. -/
theorem CanReach.mem_of_only (h : CanReach depth (only t) nodes node)
    (hleaf : ∀ name, .inclusion name ∉ Node.partsOf t.nodes) :
    node ∈ Node.partsOf nodes ++ Node.partsOf t.nodes := by
  rcases h with h | ⟨u, hu, h⟩
  · exact List.mem_append_left _ h
  · refine List.mem_append_right _ ?_
    cases hu with
    | tag _ hr _ => exact eq_of_only hr ▸ h
    | inside _ hr _ hu =>
      rw [eq_of_only hr] at hu
      cases hu with
      | tag hn _ _ => exact absurd hn (hleaf _)
      | inside hn _ _ _ => exact absurd hn (hleaf _)

end Rendering

end Mustache
