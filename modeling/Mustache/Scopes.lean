import Mustache.Text.Search
import Mustache.Value

/-! # Scopes
The names in a template are looked up in a stack of values, its scopes. A plain name belongs to the
innermost scope that has a member of that name. A dotted name finds its first component so and every
further one inside what was found before; it never goes back to an outer scope. A single dot is the
innermost scope itself. -/

namespace Mustache

/-- A stack of values, the innermost one first. -/
abbrev Scopes : Type := List Value

namespace Scopes

/-- The stack of some values, given from the outermost to the innermost. -/
def ofOutermost (values : List Value) : Scopes := values.reverse

/-- Adds an innermost scope. -/
def push (scopes : Scopes) (v : Value) : Scopes := v :: scopes

/-- Takes the innermost scope away, if there is one. -/
def pop (scopes : Scopes) : Scopes := scopes.tail

@[simp] theorem pop_push (scopes : Scopes) (v : Value) : (scopes.push v).pop = scopes := rfl

/-- The member called `name` of the innermost scope that has one. -/
def member? (scopes : Scopes) (name : String) : Option Value :=
  scopes.findSome? fun v => v.get? name

@[simp] theorem member?_nil (name : String) : member? [] name = none := rfl

theorem member?_cons (v : Value) (scopes : Scopes) (name : String) :
    member? (v :: scopes) name = (v.get? name).or (member? scopes name) := by
  simp only [member?, List.findSome?_cons]
  cases v.get? name <;> rfl

/-- What the characters of a name stand for. -/
def resolve (scopes : Scopes) (name : List Char) : Option Value :=
  if name = ['.'] then scopes.head?
  else
    match _h : Text.cutAt ['.'] name with
    | some (first, rest) =>
      match scopes.member? (String.ofList first) with
      | some v => resolve [v] rest
      | none => none
    | none => scopes.member? (String.ofList name)
termination_by name.length
decreasing_by
  rw [Text.eq_of_cutAt _h]
  simp
  omega

/-- What a name stands for. -/
def lookup (scopes : Scopes) (name : String) : Option Value := scopes.resolve name.toList

/-- A single dot stands for the innermost scope. -/
@[simp] theorem lookup_dot (scopes : Scopes) : scopes.lookup "." = scopes.head? := by
  unfold lookup resolve
  simp

end Scopes

end Mustache
