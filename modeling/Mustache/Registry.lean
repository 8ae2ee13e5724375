import Mustache.Rendering
import Mustache.Text.Digest

/-! # The registry
A `Registry` holds templates by name, each with the digest of the source from which it was parsed.
Asking for a name with a source of the same digest again gives the same template; with another
source it is parsed anew and takes the place of the old one. A source that does not parse changes
nothing. Each parse gets a number of its own, which tells templates apart that look alike. -/

namespace Mustache

/-- A template in the registry. -/
structure Registered where
  /-- The template. -/
  template : Template
  /-- The digest of its source. -/
  digest : UInt64
  /-- The number of the parse that made it. -/
  serial : Nat

/-- Templates by name. -/
structure Registry where
  /-- The digest by which a change of a source is noticed. -/
  digest : String → UInt64
  /-- The templates, with ascending names. -/
  entries : Entries Registered
  /-- The number of parses so far. -/
  parses : Nat

namespace Registry

/-- The registry without templates, where sources have this digest. -/
def emptyWith (digest : String → UInt64) : Registry := ⟨digest, [], 0⟩

/-- The registry without templates. -/
def empty : Registry := emptyWith Text.digest

instance : Inhabited Registry := ⟨empty⟩

/-- The template of this name. -/
def get? (r : Registry) (name : String) : Option Registered := Entries.get? r.entries name

/-- Finds partials in the registry. -/
def resolver (r : Registry) : Resolver := fun name => (r.get? name).map (·.template)

/-- A template of this name and source, with the settings at their defaults. -/
def parse (name source : String) : Except Error Template :=
  Template.parse (Template.Options.withName {} name) source

/-- Puts the result of a parse in its place. -/
def insert (r : Registry) (name source : String) (t : Template) : Registered × Registry :=
  let entry : Registered := ⟨t, r.digest source, r.parses⟩
  (entry, { r with entries := Entries.insert name entry r.entries, parses := r.parses + 1 })

/-- The template of this name and source, and the registry that holds it. -/
def getOrParse (r : Registry) (name source : String) : Except Error (Registered × Registry) :=
  let parsed : Except Error (Registered × Registry) :=
    (parse name source).map (r.insert name source)
  match r.get? name with
  | some entry => if entry.digest = r.digest source then .ok (entry, r) else parsed
  | none => parsed

/-- Registers a template under a name. -/
def register (r : Registry) (name source : String) : Except Error Registry :=
  (r.getOrParse name source).map (·.2)

/-- Takes a template out of the registry; the answer is whether there was one. -/
def remove (r : Registry) (name : String) : Bool × Registry :=
  ((r.get? name).isSome, { r with entries := Entries.erase name r.entries })

/-- Renders the template of this name and source, which the registry holds afterwards. -/
def render (r : Registry) (name source : String) (data : Data) :
    Except Error String × Registry :=
  match r.getOrParse name source with
  | .ok (entry, r) => (entry.template.renderText r.resolver data, r)
  | .error e => (.error e, r)

/-- The partial that a template of its own would include by this name. -/
def partialOf (r : Registry) (t : Template) (name : String) : Option Template :=
  t.within r.resolver name

end Registry

end Mustache
