import Mustache.Html
import Mustache.Scopes
import Mustache.Sink
import Mustache.Template

/-! # Rendering
Rendering writes the nodes of a template to a sink, for the values in a stack of scopes. A section
renders its body with its value as a new innermost scope, and takes that scope away again however
the body ends (`Rendering.withScope`). A partial is found by a `Resolver` and rendered with the
scopes as they stand, by its own rule for missing names, and with its own partials before those of
the template that includes it (`Template.within`). Inclusions go down to a fixed depth only, and the
recursion of `Rendering.renderWithin` is on what is left of it. -/

namespace Mustache

/-- Finds partials by name. -/
abbrev Resolver : Type := String → Option Template

/-- Finds what a template includes: its own partials come first. -/
def Template.within (t : Template) (outer : Resolver) : Resolver :=
  fun name => (t.ownPartial? name).or (outer name)

@[simp] theorem Template.within_apply (t : Template) (outer : Resolver) (name : String) :
    t.within outer name = (t.ownPartial? name).or (outer name) := rfl

namespace Rendering

/-! ## The state of a rendering -/

/-- What changes while a template is rendered. -/
structure State where
  /-- The values in which names are looked up. -/
  scopes : Scopes
  /-- Where output goes. -/
  sink : Sink

/-- A part of a rendering. What was written before an error stays written. -/
abbrev RenderM : Type → Type := EStateM Error State

/-- Writes a text. -/
def write (text : String) : RenderM Unit := fun s =>
  match s.sink.write text.toUTF8 with
  | (.ok (), sink) => .ok () { s with sink := sink }
  | (.error fault, sink) => .error (.io fault) { s with sink := sink }

/-- Does something with `v` as the innermost scope. -/
def withScope (v : Value) (act : RenderM Unit) : RenderM Unit := fun s =>
  match act { s with scopes := s.scopes.push v } with
  | .ok () s' => .ok () { s' with scopes := s'.scopes.pop }
  | .error e s' => .error e { s' with scopes := s'.scopes.pop }

/-- Looks a name up. -/
def lookup (name : String) : RenderM (Option Value) := fun s => .ok (s.scopes.lookup name) s

/-- What comes of a name that stands for nothing. -/
def miss (strict : Bool) (name : String) : RenderM Unit :=
  if strict then throw (.missing name) else pure ()

/-- Does something for each item of a list, with the item as the innermost scope. -/
def forItems (act : RenderM Unit) : List Value → RenderM Unit
  | [] => pure ()
  | v :: vs => do
    withScope v act
    forItems act vs

/-- Does something for a value as a section does it: for each item of a list, and once for any other
value. -/
def forValue (act : RenderM Unit) (v : Value) : RenderM Unit :=
  match v.asList? with
  | some items => forItems act items
  | none => withScope v act

/-! ## Nodes -/

mutual

/-- Renders a node. Partials are rendered by `incl`. -/
def renderNode (strict : Bool) (incl : String → RenderM Unit) : Node → RenderM Unit
  | .text t => write t
  | .interpolation name escaped => do
    match ← lookup name with
    | some v => write (if escaped then Html.escape v.text else v.text)
    | none => miss strict name
  | .block name true body => do
    match ← lookup name with
    | some v => if v.isTruthy then pure () else renderNodes strict incl body
    | none => renderNodes strict incl body
  | .block name false body => do
    match ← lookup name with
    | some v => if v.isTruthy then forValue (renderNodes strict incl body) v else pure ()
    | none => miss strict name
  | .comment _ => pure ()
  | .inclusion name => incl name

/-- Renders nodes one after the other. -/
def renderNodes (strict : Bool) (incl : String → RenderM Unit) : List Node → RenderM Unit
  | [] => pure ()
  | node :: nodes => do
    renderNode strict incl node
    renderNodes strict incl nodes

end

/-! ## Partials -/

/-- Partials may be nested up to this depth. -/
def inclusionLimit : Nat := 64

/-- Renders nodes in which partials may be nested `room` deep. A name for which there is no partial
writes nothing at any depth. -/
def renderWithin : (room : Nat) → Resolver → (strict : Bool) → List Node → RenderM Unit
  | 0, resolver, strict, nodes =>
    renderNodes strict (fun name =>
      match resolver name with
      | some _ => throw (.partialDepth name inclusionLimit)
      | none => pure ()) nodes
  | room + 1, resolver, strict, nodes =>
    renderNodes strict (fun name =>
      match resolver name with
      | some t => renderWithin room (t.within resolver) t.strict t.nodes
      | none => pure ()) nodes

/-- Renders nodes that stand inside `depth` partials. -/
def renderAt (depth : Nat) (resolver : Resolver) (strict : Bool) (nodes : List Node) :
    RenderM Unit :=
  renderWithin (inclusionLimit - depth) resolver strict nodes

/-- How a rendering ends: its result, and the state that it leaves behind. -/
def run (act : RenderM Unit) (s : State) : Except Error Unit × State :=
  match act s with
  | .ok () s' => (.ok (), s')
  | .error e s' => (.error e, s')

end Rendering

/-! ## Templates -/

namespace Template

/-- Renders a template for a stack of values, given from the outermost to the innermost. Partials
that the template does not have are found by `outer`. -/
def renderStack (t : Template) (outer : Resolver) (values : List Value) (sink : Sink) :
    Except Error Unit × Sink :=
  let (result, s) := Rendering.run (Rendering.renderAt 0 (t.within outer) t.strict t.nodes)
    { scopes := Scopes.ofOutermost values, sink := sink }
  (result, s.sink)

/-- Renders a template for the data of a host program. -/
def render (t : Template) (outer : Resolver) (data : Data) (sink : Sink) :
    Except Error Unit × Sink :=
  match Value.ofData data with
  | .ok v => t.renderStack outer [v] sink
  | .error fault => (.error (.value fault), sink)

/-- All bytes that a template writes. -/
def renderBytes (t : Template) (outer : Resolver) (data : Data) : Except Error ByteArray :=
  let (result, sink) := t.render outer data Sink.unbounded
  result.map fun () => sink.written

/-- The text that a template writes. -/
def renderText (t : Template) (outer : Resolver) (data : Data) : Except Error String := do
  let bytes ← t.renderBytes outer data
  match Utf8.decode bytes with
  | .ok text => return text
  | .error fault => throw (.value (.notText fault))

/-- Reads a template with the settings at their defaults from a stream, and renders it. -/
def renderStream (source : ByteArray) (outer : Resolver) (data : Data) (sink : Sink) :
    Except Error Unit × Sink :=
  match parseStream {} source with
  | .ok t => t.render outer data sink
  | .error e => (.error e, sink)

end Template

end Mustache
