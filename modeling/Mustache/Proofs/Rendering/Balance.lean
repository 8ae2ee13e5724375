import Mustache.Proofs.Rendering.Machine

/-! # Scopes in balance
The scopes at the start of a rendering lie below all that it adds to them, and it never takes one of
them away: at every step the tasks that are left take away as many scopes as there are above them
(`Fits`). So the scopes at the end are those at the start, whether the rendering succeeds, comes to
a missing name or to a partial that is too deep, or the sink refuses a write. The same holds of
every part of it: of the body of a section for each item, and of each partial. -/

namespace Mustache.Rendering

/-! ## What nodes do to the scopes -/

/-- The action leaves the scopes as they are, whether it succeeds or not. -/
def KeepsScopes {α : Type} (m : RenderM α) : Prop :=
  ∀ s, (∀ x s', m s = .ok x s' → s'.scopes = s.scopes) ∧
    ∀ e s', m s = .error e s' → s'.scopes = s.scopes

section KeepsScopes

variable {α β : Type}

theorem keepsScopes_pure (x : α) : KeepsScopes (pure x : RenderM α) := by
  intro s
  refine ⟨fun x' s' h => ?_, fun e s' h => ?_⟩ <;> cases h
  rfl

theorem keepsScopes_throw (e : Error) : KeepsScopes (throw e : RenderM α) := by
  intro s
  refine ⟨fun x s' h => ?_, fun e' s' h => ?_⟩ <;> cases h
  rfl

/-- Actions that keep the scopes keep them one after the other. -/
theorem KeepsScopes.bind {m : RenderM α} {f : α → RenderM β} (hm : KeepsScopes m)
    (hf : ∀ x, KeepsScopes (f x)) : KeepsScopes (m >>= f) := by
  intro s
  cases h : m s with
  | ok x t =>
    have hst := (hm s).1 x t h
    rw [bind_of_ok h, ← hst]
    exact hf x t
  | error e t =>
    have hst := (hm s).2 e t h
    rw [bind_of_error h]
    refine ⟨fun x s' h' => ?_, fun e' s' h' => ?_⟩ <;> cases h'
    exact hst

theorem keepsScopes_lookup_bind (name : String) {f : Option Value → RenderM α}
    (hf : ∀ v, KeepsScopes (f v)) : KeepsScopes (lookup name >>= f) :=
  fun s => hf (s.scopes.lookup name) s

/-- A composition keeps the scopes, and so it does before any result. -/
theorem Composed.keepsScopes {texts names : String → Prop} {a : RenderM Unit}
    (ha : Composed texts names a) (x : α) : KeepsScopes (do a; return x) := by
  have hkeeps : KeepsScopes a := by
    intro s
    have hs := composable_restores.of_composed ha s
    refine ⟨fun x s' h => ?_, fun e s' h => ?_⟩
    · rwa [h] at hs
    · rwa [h] at hs
  exact hkeeps.bind fun _ => keepsScopes_pure x

end KeepsScopes

/-- What a node does at once leaves the scopes as they are. -/
theorem keepsScopes_visit (env : Env) (node : Node) : KeepsScopes (env.visit node) := by
  have hwrite (text : String) : Composed (fun _ => True) (fun _ => True) (write text) :=
    .write trivial
  have hmiss (name : String) : Composed (fun _ => True) (fun _ => True) (miss env.strict name) :=
    .miss env.strict name
  cases node with
  | text t => exact (hwrite t).keepsScopes _
  | interpolation name escaped =>
    refine keepsScopes_lookup_bind name fun v => ?_
    cases v with
    | some v => exact (hwrite _).keepsScopes _
    | none => exact (hmiss name).keepsScopes _
  | block name inverted body =>
    cases inverted with
    | true =>
      refine keepsScopes_lookup_bind name fun v => ?_
      cases v with
      | some v => exact keepsScopes_pure _
      | none => exact keepsScopes_pure _
    | false =>
      refine keepsScopes_lookup_bind name fun v => ?_
      cases v with
      | some v => exact keepsScopes_pure _
      | none => exact (hmiss name).keepsScopes _
  | comment t => exact keepsScopes_pure _
  | inclusion name =>
    cases hr : env.resolver name with
    | none =>
      rw [visit_inclusion_of_none hr]
      exact keepsScopes_pure _
    | some t =>
      by_cases hd : env.depth < inclusionLimit
      · rw [visit_inclusion_of_some hr hd]
        exact keepsScopes_pure _
      · rw [visit_inclusion_of_le hr (Nat.not_lt.1 hd)]
        exact keepsScopes_throw _

/-- What nodes do at once leaves the scopes as they are. -/
theorem keepsScopes_nodes (env : Env) (nodes : List Node) :
    KeepsScopes (Task.visit (.nodes env nodes)) := by
  cases nodes with
  | nil => exact keepsScopes_pure _
  | cons node rest => exact (keepsScopes_visit env node).bind fun _ => keepsScopes_pure _

/-! ## Scopes above the first ones -/

/-- **Tasks fit the scopes**: they take away those that lie above `base`, and no more. -/
inductive Fits (base : Scopes) : List Task → Scopes → Prop where
  /-- Nothing is left to be done, and no scopes lie above. -/
  | done : Fits base [] base
  /-- Nodes leave the scopes as they are. -/
  | nodes {env : Env} {nodes : List Node} {K : List Task} {scopes : Scopes}
      (h : Fits base K scopes) : Fits base (.nodes env nodes :: K) scopes
  /-- A section for some items leaves the scopes as they are. -/
  | items {env : Env} {body : List Node} {items : List Value} {K : List Task} {scopes : Scopes}
      (h : Fits base K scopes) : Fits base (.items env body items :: K) scopes
  /-- The innermost scope lies above and is taken away. -/
  | leave {v : Value} {K : List Task} {scopes : Scopes} (h : Fits base K scopes) :
      Fits base (.leave :: K) (scopes.push v)
  /-- The end of a partial leaves the scopes as they are. -/
  | finish {t : Template} {K : List Task} {scopes : Scopes} (h : Fits base K scopes) :
      Fits base (.finish t :: K) scopes

theorem Fits.suffix {base scopes : Scopes} {K : List Task} (h : Fits base K scopes) :
    base <:+ scopes := by
  induction h with
  | done => exact List.suffix_refl base
  | nodes _ ih => exact ih
  | items _ ih => exact ih
  | leave _ ih => exact ih.trans (List.suffix_cons _ _)
  | finish _ ih => exact ih

/-- **A rendering in balance**: its tasks fit the scopes, or they do so once the scope of a section
is there. -/
inductive Config.Balanced (base : Scopes) : Config → Prop where
  /-- The tasks fit the scopes. -/
  | fits {K : List Task} {s : State} {fault : Option Error} (h : Fits base K s.scopes) :
      Balanced base ⟨K, s, fault⟩
  /-- The scope of a section is about to be added. -/
  | entering {v : Value} {env : Env} {body : List Node} {K : List Task} {s : State}
      (h : Fits base K s.scopes) :
      Balanced base ⟨.enter v :: .nodes env body :: .leave :: K, s, none⟩

variable {base : Scopes}

/-- The first scopes lie below all others. -/
theorem Config.Balanced.suffix {c : Config} (h : c.Balanced base) : base <:+ c.state.scopes := by
  cases h with
  | fits h => exact h.suffix
  | entering h => exact h.suffix

/-- At the end only the first scopes are left. -/
theorem Config.Balanced.eq_of_nil {s : State} {fault : Option Error}
    (h : Config.Balanced base ⟨[], s, fault⟩) : s.scopes = base := by
  cases h with
  | fits h =>
    generalize s.scopes = scopes at h
    cases h
    rfl

/-- What a section asks for its value leaves the rendering in balance. -/
theorem balanced_tasksFor {env : Env} {body : List Node} {K : List Task} {s : State}
    (h : Fits base K s.scopes) (v : Value) :
    Config.Balanced base ⟨env.tasksFor body v ++ K, s, none⟩ := by
  unfold Env.tasksFor
  cases v.asList? with
  | some items => exact .fits (.items h)
  | none => exact .entering h

/-- **One step of some nodes** leaves the rendering in balance. -/
theorem balanced_nodes {env : Env} {nodes : List Node} {tasks K : List Task} {s s' : State}
    (hv : Task.visit (.nodes env nodes) s = .ok tasks s') (h : Fits base K s.scopes) :
    Config.Balanced base ⟨tasks ++ K, s', none⟩ := by
  -- the scopes are those from before, and what the nodes ask for takes away what it adds
  rw [← (keepsScopes_nodes env nodes s).1 tasks s' hv] at h
  cases Task.asked_of_visit hv with
  | noNodes => exact .fits h
  | nodes ha =>
    rw [List.append_assoc, List.singleton_append]
    cases ha with
    | done => exact .fits (.nodes h)
    | body => exact .fits (.nodes (.nodes h))
    | value => exact balanced_tasksFor (.nodes h) _
    | inclusion hr hd => exact .fits (.nodes (.finish (.nodes h)))

/-- **Every step leaves the rendering in balance**, also when tasks are given up. -/
theorem balanced_of_step {c c' : Config} (hstep : Step c c') (h : c.Balanced base) :
    c'.Balanced base := by
  cases hstep with
  | @goOn task tasks K s s' hv =>
    cases h with
    | entering h =>
      cases hv
      exact .fits (.nodes (.leave h))
    | fits h =>
      -- how the tasks fit the scopes is told by the first task alone
      generalize hscopes : s.scopes = scopes at h
      cases h with
      | nodes h => exact balanced_nodes hv (hscopes ▸ h)
      | @items env body items _ _ h =>
        cases items with
        | nil =>
          cases hv
          exact .fits (hscopes ▸ h)
        | cons v vs =>
          cases hv
          exact .entering (.items (hscopes ▸ h))
      | leave h =>
        cases hv
        refine .fits ?_
        show Fits base K s.scopes.pop
        rwa [hscopes]
      | finish h =>
        cases hv
        exact .fits (hscopes ▸ h)
  | @fail task K e s s' hv =>
    -- only nodes fail, and they leave the scopes as they are
    obtain ⟨env, node, rest, rfl, -⟩ := Task.failed_of_visit hv
    cases h with
    | fits h =>
      cases h with
      | nodes h =>
        refine .fits ?_
        rwa [(keepsScopes_nodes env (node :: rest) s).2 e s' hv]
  | @unwind task K e s =>
    cases h with
    | fits h =>
      -- what is given up still takes its scope away
      generalize hscopes : s.scopes = scopes at h
      refine .fits ?_
      cases h with
      | nodes h => exact hscopes ▸ h
      | items h => exact hscopes ▸ h
      | leave h =>
        show Fits base K s.scopes.pop
        rwa [hscopes]
      | finish h => exact hscopes ▸ h

/-- **A rendering is in balance all the way.** -/
theorem balanced_of_steps {c c' : Config} (hsteps : Steps c c') (h : c.Balanced base) :
    c'.Balanced base := by
  induction hsteps with
  | refl => exact h
  | tail _ hstep ih => exact balanced_of_step hstep ih

/-- Nodes are rendered to their end, with or without an error, and leave the scopes as they found
them. -/
theorem steps_nodes (env : Env) (nodes : List Node) (K : List Task) (s : State) :
    ∃ s' fault, Steps ⟨.nodes env nodes :: K, s, none⟩ ⟨K, s', fault⟩ ∧ s'.scopes = s.scopes := by
  have hsteps := performs_render env nodes K s
  have hscopes := composable_restores.renderAt env.depth env.resolver env.strict nodes s
  rw [← Env.render] at hscopes
  cases h : env.render nodes s with
  | ok x s' =>
    rw [h] at hsteps hscopes
    exact ⟨s', none, hsteps, hscopes⟩
  | error e s' =>
    rw [h] at hsteps hscopes
    exact ⟨s', some e, hsteps, hscopes⟩

/-- **Scopes are restored.** Whatever the nodes, the depth, what finds the partials, the rule about
missing names, the scopes and the sink, and however the rendering ends:

* the scopes at the end are those at the start, in the same order;
* on the way they lie below all others;
* wherever it comes to render some nodes, such as the body of a section or the nodes of a partial,
  it comes to the end of them, with or without an error, and then the scopes are those from before.
-/
theorem renderAt_restores_scopes (depth : Nat) (resolver : Resolver) (strict : Bool)
    (nodes : List Node) (s : State) :
    let start := Config.start ⟨resolver, strict, depth⟩ nodes s
    (run (renderAt depth resolver strict nodes) s).2.scopes = s.scopes ∧
    (∀ c, Steps start c → s.scopes <:+ c.state.scopes) ∧
    ∀ env nodes' K s', Steps start ⟨.nodes env nodes' :: K, s', none⟩ →
      ∃ s'' fault, Steps ⟨.nodes env nodes' :: K, s', none⟩ ⟨K, s'', fault⟩ ∧
        s''.scopes = s'.scopes := by
  intro start
  have hstart : start.Balanced s.scopes := .fits (.nodes .done)
  have hend := steps_renderAt ⟨resolver, strict, depth⟩ nodes s
  refine ⟨(balanced_of_steps hend hstart).eq_of_nil, ?_, ?_⟩
  · intro c hc
    exact (balanced_of_steps hc hstart).suffix
  · intro env nodes' K s' _
    exact steps_nodes env nodes' K s'

end Mustache.Rendering
