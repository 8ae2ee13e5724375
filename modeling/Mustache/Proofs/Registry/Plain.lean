import Mustache.Proofs.Registry.Transparency
import Mustache.Proofs.Rendering.Failure
import Mustache.Proofs.Rendering.Inlining

/-! # Plain templates
A template is plain if it was parsed with the settings at their defaults: no name has to stand for
something in it, and it has no partials of its own (`Template.Plain`). Registering sources and
loading files puts only plain templates into a registry (`Registry.Plain`). Where plain templates
find only plain ones, renderings come to no others, however the partials are nested, and the depth
of partials is the one thing that can go wrong besides the sink. -/

namespace Mustache

/-! ## Renderings of plain templates -/

/-- **A plain template**: the settings were at their defaults. -/
structure Template.Plain (t : Template) : Prop where
  /-- It has no partials of its own. -/
  partials : t.partials = []
  /-- A name may stand for nothing. -/
  lenient : t.strict = false

/-- A resolver that finds only plain templates. -/
def Resolver.Plain (resolver : Resolver) : Prop :=
  ∀ ⦃name : String⦄ ⦃t : Template⦄, resolver name = some t → t.Plain

/-- **Plain templates include only plain ones**: none brings partials of its own into the chain. -/
theorem Rendering.CanInclude.plain {depth : Nat} {resolver : Resolver} {nodes : List Node}
    {u : Template} (h : CanInclude depth resolver nodes u) (hr : resolver.Plain) : u.Plain := by
  induction h with
  | tag _ ht _ => exact hr ht
  | inside _ ht _ _ ih =>
    -- the partial finds what is found around it, and no other templates
    rw [within_of_partials_eq_nil (hr ht).partials] at ih
    exact ih hr

/-- A sink without a limit refuses nothing. -/
theorem Sink.not_refusedSince_unbounded (sink : Sink) (fault : IoFault) :
    ¬ unbounded.RefusedSince sink fault := by
  rintro ⟨bytes, since, taken, -, h⟩
  cases h

namespace Template

open Rendering

variable {t : Template} {outer : Resolver}

/-- **Plain templates go wrong only by depth**, in a sink without a limit. -/
theorem Plain.tooDeep_of_renderStack (ht : t.Plain) (ho : outer.Plain) {values : List Value}
    {e : Error} (h : (t.renderStack outer values Sink.unbounded).1 = .error e) :
    ∃ name, e = .partialDepth name inclusionLimit := by
  obtain ⟨_, _, _, _, _, -, hf⟩ := exists_failed_of_renderStack h
  -- a name is missing only by the rule of a template that the rendering is in, and all are plain
  have hmissing (name : String) : e ≠ .missing name := by
    rintro rfl
    obtain ⟨_, _, _, K, _, -, -, -, hstrict, -, hroot | hu⟩ := missing_of_renderStack h
    · rw [hroot, ht.lenient] at hstrict
      cases hstrict
    · rw [within_of_partials_eq_nil ht.partials] at hu
      rw [(hu.plain ho).lenient] at hstrict
      cases hstrict
  cases hf with
  | refused => exact absurd (refusedSince_of_renderStack h) (Sink.not_refusedSince_unbounded _ _)
  | value => exact absurd rfl (hmissing _)
  | block => exact absurd rfl (hmissing _)
  | tooDeep => exact ⟨_, rfl⟩

/-- A source parsed with the settings at their defaults, but for the name, is plain. -/
theorem plain_of_parse {name source : String}
    (h : parse (Options.withName {} name) source = .ok t) : t.Plain := by
  obtain ⟨fresh, -, rfl⟩ := Registry.exists_of_parse_eq_ok h
  exact ⟨rfl, rfl⟩

/-- So is the content of a stream. -/
theorem plain_of_parseStream {name : String} {content : ByteArray}
    (h : parseStream (Options.withName {} name) content = .ok t) : t.Plain := by
  unfold parseStream at h
  split at h
  · exact plain_of_parse h
  · cases h

end Template

/-! ## Registries of plain templates -/

namespace Registry

variable {r r' : Registry} {name source : String}

/-- **A plain registry** holds only plain templates. -/
def Plain (r : Registry) : Prop :=
  ∀ ⦃name : String⦄ ⦃entry : Registered⦄, r.get? name = some entry → entry.template.Plain

/-- The registry without templates is plain. -/
theorem plain_empty : Registry.empty.Plain := fun _ _ h => nomatch h

/-- What a plain registry finds is plain. -/
theorem Plain.resolver (h : r.Plain) : r.resolver.Plain := by
  intro name t ht
  obtain ⟨entry, hentry, rfl⟩ := Option.map_eq_some_iff.1 ht
  exact h hentry

/-- Putting a plain template in its place leaves the registry plain. -/
theorem Plain.insert (h : r.Plain) {t : Template} (ht : t.Plain) :
    (r.insert name source t).2.Plain := by
  intro n entry hn
  rw [get?_insert] at hn
  split at hn
  · cases hn
    exact ht
  · exact h hn

/-- Registering a source leaves the registry plain. -/
theorem Plain.register (h : r.Plain) (hr : r.register name source = .ok r') : r'.Plain := by
  obtain ⟨entry, hgp⟩ := exists_getOrParse_of_register hr
  -- either the template is there already, or it was parsed with the settings at their defaults
  rcases getOrParse_cases hgp with ⟨-, rfl⟩ | ⟨t, ht, hinsert⟩
  · exact h
  · have hplain : (r.insert name source t).2.Plain := h.insert (Template.plain_of_parse ht)
    rw [hinsert] at hplain
    exact hplain

/-- **Loading leaves the registry plain**, also when a fault ends it early. -/
theorem Plain.loadFrom (h : r.Plain) (seen : List String) (files : List LibraryFile) :
    (r.loadFrom seen files).2.Plain :=
  loadFrom_keeps (fun _ hplain hr => hplain.register hr) h seen

end Registry

end Mustache
