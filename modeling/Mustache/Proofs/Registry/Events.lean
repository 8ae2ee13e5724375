import Mathlib.Data.List.Induction
import Mustache.Library

/-! # Histories of a registry
The calls on a registry, and what each of them registers or removes: this hangs on the sources alone,
and on no registry (`Call.events`). The last event of a name tells whether a source stands under it
and which one. -/

namespace Mustache.Registry

/-! ## Events -/

/-- A change of what stands under a name. -/
inductive Event where
  /-- A source was registered under the name. -/
  | registered (name source : String)
  /-- What stood under the name, if anything, was removed. -/
  | removed (name : String)

/-- The name that an event is about. -/
def Event.name : Event → String
  | .registered name _ => name
  | .removed name => name

/-- The source that stands under a name after an event, if `current` stood there before. -/
def Event.apply (name : String) (current : Option String) : Event → Option String
  | .registered n source => if n = name then some source else current
  | .removed n => if n = name then none else current

/-- The source that stands under a name after some events. -/
def standing (events : List Event) (name : String) : Option String :=
  events.foldl (Event.apply name) none

/-- The last event of the name is that this source was registered. -/
def LastRegistered (events : List Event) (name source : String) : Prop :=
  ∃ before after, events = before ++ .registered name source :: after ∧
    ∀ e ∈ after, e.name ≠ name

/-- A source was registered under the name and none was removed since. -/
def Kept (events : List Event) (name : String) : Prop :=
  ∃ source before after, events = before ++ .registered name source :: after ∧
    .removed name ∉ after

@[simp] theorem standing_nil (name : String) : standing [] name = none := rfl

@[simp] theorem standing_concat (events : List Event) (e : Event) (name : String) :
    standing (events ++ [e]) name = e.apply name (standing events name) := by
  simp [standing]

theorem apply_registered (name source n : String) (current : Option String) :
    Event.apply n current (.registered name source) = if name = n then some source else current :=
  rfl

theorem apply_removed (name n : String) (current : Option String) :
    Event.apply n current (.removed name) = if name = n then none else current := rfl

/-- An event of another name changes nothing. -/
theorem apply_of_name_ne {e : Event} {name : String} (h : e.name ≠ name)
    (current : Option String) : e.apply name current = current := by
  cases e with
  | registered n source => exact if_neg h
  | removed n => exact if_neg h

/-- Where an event stands in a history that goes one event further: at its end, or before. -/
theorem concat_eq_append_cons {events before after : List Event} {e e' : Event} :
    events ++ [e] = before ++ e' :: after ↔
      before = events ∧ e' = e ∧ after = [] ∨
        ∃ after', after = after' ++ [e] ∧ events = before ++ e' :: after' := by
  constructor
  · intro h
    rcases List.eq_nil_or_concat after with rfl | ⟨after', last, rfl⟩
    · obtain ⟨hb, he⟩ := List.append_inj' h rfl
      exact .inl ⟨hb.symm, (List.singleton_inj.1 he).symm, rfl⟩
    · have h' : events ++ [e] = (before ++ e' :: after') ++ [last] := by simpa using h
      obtain ⟨hb, he⟩ := List.append_inj' h' rfl
      rw [List.singleton_inj.1 he]
      exact .inr ⟨after', List.concat_eq_append, hb⟩
  · rintro (⟨rfl, rfl, rfl⟩ | ⟨after', rfl, rfl⟩)
    · rfl
    · simp

theorem lastRegistered_concat {events : List Event} {e : Event} {name source : String} :
    LastRegistered (events ++ [e]) name source ↔
      e = .registered name source ∨ e.name ≠ name ∧ LastRegistered events name source := by
  constructor
  · rintro ⟨before, after, heq, hafter⟩
    rcases concat_eq_append_cons.1 heq with ⟨-, he, -⟩ | ⟨after', rfl, rfl⟩
    · exact .inl he.symm
    · refine .inr ⟨hafter e (by simp), before, after', rfl, fun e' he' => ?_⟩
      exact hafter e' (List.mem_append_left _ he')
  · rintro (rfl | ⟨hne, before, after, rfl, hafter⟩)
    · exact ⟨events, [], rfl, by simp⟩
    · refine ⟨before, after ++ [e], by simp, fun e' he' => ?_⟩
      rcases List.mem_append.1 he' with he' | he'
      · exact hafter e' he'
      · rw [List.mem_singleton.1 he']
        exact hne

theorem kept_concat {events : List Event} {e : Event} {name : String} :
    Kept (events ++ [e]) name ↔
      (∃ source, e = .registered name source) ∨ e ≠ .removed name ∧ Kept events name := by
  constructor
  · rintro ⟨source, before, after, heq, hafter⟩
    rcases concat_eq_append_cons.1 heq with ⟨-, he, -⟩ | ⟨after', rfl, rfl⟩
    · exact .inl ⟨source, he.symm⟩
    · refine .inr ⟨fun he => hafter (by simp [he]), source, before, after', rfl, fun he => ?_⟩
      exact hafter (List.mem_append_left _ he)
  · rintro (⟨source, rfl⟩ | ⟨hne, source, before, after, rfl, hafter⟩)
    · exact ⟨source, events, [], rfl, by simp⟩
    · refine ⟨source, before, after ++ [e], by simp, fun he => ?_⟩
      rcases List.mem_append.1 he with he | he
      · exact hafter he
      · exact hne (List.mem_singleton.1 he).symm

/-- **What stands under a name** is the source of its last event. -/
theorem standing_eq_some_iff {events : List Event} {name source : String} :
    standing events name = some source ↔ LastRegistered events name source := by
  -- the last event decides, unless it has another name
  induction events using List.reverseRecOn with
  | nil => simp [LastRegistered]
  | append_singleton events e ih =>
    rw [standing_concat, lastRegistered_concat, ← ih]
    by_cases hn : e.name = name
    · subst hn
      cases e <;> simp [Event.apply, Event.name]
    · rw [apply_of_name_ne hn]
      have he : e ≠ .registered name source := by
        rintro rfl
        exact hn rfl
      simp [hn, he]

/-- **Something stands under a name** if a source was registered and none removed since. -/
theorem isSome_standing_iff {events : List Event} {name : String} :
    (standing events name).isSome ↔ Kept events name := by
  induction events using List.reverseRecOn with
  | nil => simp [Kept]
  | append_singleton events e ih =>
    rw [standing_concat, kept_concat, ← ih]
    cases e with
    | registered n source =>
      by_cases hn : n = name <;> simp [Event.apply, hn]
    | removed n =>
      by_cases hn : n = name <;> simp [Event.apply, hn]

/-! ## Calls -/

/-- A call on a registry. -/
inductive Call where
  /-- A source is registered under a name. -/
  | register (name source : String)
  /-- The template of a name and a source is asked for. -/
  | getOrParse (name source : String)
  /-- The template of a name and a source is rendered. -/
  | render (name source : String) (data : Data)
  /-- A name is removed; whether the answer is of interest makes no difference. -/
  | remove (name : String)
  /-- Templates at hand are registered, given by path and text. -/
  | loadTexts (texts : List (String × String))

/-- The sources in a call. -/
def Call.sources : Call → List String
  | .register _ source | .getOrParse _ source | .render _ source _ => [source]
  | .remove _ => []
  | .loadTexts texts => texts.map (·.2)

/-- The registry after a call. -/
def perform (r : Registry) : Call → Registry
  | .register name source => ((r.register name source).toOption).getD r
  | .getOrParse name source => ((r.getOrParse name source).toOption.map (·.2)).getD r
  | .render name source data => (r.render name source data).2
  | .remove name => (r.remove name).2
  | .loadTexts texts => (r.loadTexts texts).2

/-- Registering a source is an event if the source is that of a template. -/
def registering (name source : String) : List Event :=
  match Template.parse {} source with
  | .ok _ => [.registered name source]
  | .error _ => []

/-- What comes of registering templates at hand when those with the names in `seen` came before them:
the events, and the fault that ends them. It is the first path without a stem, the first stem that
was seen, or the first text that is no template. -/
def loading (seen : List String) : List (String × String) → List Event × Option LoadFault
  | [] => ([], none)
  | (path, text) :: texts =>
    match Path.stem? path with
    | none => ([], some (.noName path))
    | some name =>
      if name ∈ seen then ([], some (.duplicate name path))
      else match Template.parse {} text with
        | .ok _ =>
          let (events, fault) := loading (name :: seen) texts
          (.registered name text :: events, fault)
        | .error e => ([], some (.unparsable path e))

/-- The answer to this many texts that are loaded, unless a fault ends it. -/
def answer (count : Nat) : Option LoadFault → Except LoadFault Nat
  | none => .ok count
  | some fault => .error fault

/-- **The events of a call.** -/
def Call.events : Call → List Event
  | .register name source | .getOrParse name source | .render name source _ =>
    registering name source
  | .remove name => [.removed name]
  | .loadTexts texts => (loading [] texts).1

end Mustache.Registry
