import Mustache.Proofs.Rendering.Placement

/-! # The depth of partials
A resolver may find templates that include themselves or one another without end. Renderings end all
the same: nodes are never rendered inside more than 64 partials, or more than there were around
them at the start, and the one error for this comes up exactly at the tag of a partial which is
found where no depth is left (`renderAt_bounded`). A partial that is not found is no error anywhere.
-/

namespace Mustache.Rendering

/-! ## The bound -/

/-- **No node asks for anything too deep**: a partial is entered only where depth is left for it. -/
theorem inherited_depth {bound : Nat} (hb : inclusionLimit ≤ bound) :
    Inherited fun _ env _ => env.depth ≤ bound where
  rest h := h
  body h := h
  inclusion {ts env name t nodes} _ _ hd := by
    show env.depth + 1 ≤ bound
    omega

/-! ## The error -/

/-- The tag of a partial is next, the partial is found, and there is no depth left for it. -/
def Config.TooDeep (c : Config) (name : String) : Prop :=
  ∃ env rest K s, c = ⟨.nodes env (.inclusion name :: rest) :: K, s, none⟩ ∧
    (env.resolver name).isSome ∧ inclusionLimit ≤ env.depth

/-- An error for the depth of a partial comes from a place where no depth was left for it. -/
theorem exists_tooDeep_of_steps {c c' : Config} {name : String} {limit : Nat} (h : Steps c c')
    (hc : c.fault = none) (hc' : c'.fault = some (.partialDepth name limit)) :
    limit = inclusionLimit ∧ ∃ d, Steps c d ∧ d.TooDeep name := by
  obtain ⟨env, node, rest, K, s, hd, hf⟩ := exists_failed_of_steps h hc hc'
  cases hf with
  | tooDeep hr hdeep =>
    exact ⟨rfl, _, hd, env, rest, K, s, rfl, Option.isSome_of_eq_some hr, hdeep⟩

/-- Where no depth is left for a partial, the run ends with the error for it. -/
theorem fault_of_tooDeep {c d : Config} {name : String} {s : State} {fault : Option Error}
    (hend : Steps c ⟨[], s, fault⟩) (hd : Steps c d) (h : d.TooDeep name) :
    fault = some (.partialDepth name inclusionLimit) := by
  obtain ⟨env, rest, K, s', rfl, hr, hdeep⟩ := h
  obtain ⟨t, hr⟩ := Option.isSome_iff_exists.1 hr
  have hlast := steps_end_of_step hend hd (step_of_tooDeep hr hdeep rest K s')
  exact (fault_of_steps hlast rfl).1

/-! ## Renderings end -/

/-- **Renderings end and their depth is bounded**, whatever templates the resolver finds. Of a
rendering that starts inside `depth` partials:

* no run of steps goes on forever, and the run comes to the end that the rendering has;
* nodes are rendered inside at most `max depth 64` partials;
* the error for the depth of a partial comes up exactly if the run comes to the tag of that partial,
  finds the partial, and is inside 64 partials or more;
* a partial that is not found is passed over. -/
theorem renderAt_bounded (depth : Nat) (resolver : Resolver) (strict : Bool) (nodes : List Node)
    (s : State) :
    let start := Config.start ⟨resolver, strict, depth⟩ nodes s
    let ending := run (renderAt depth resolver strict nodes) s
    (Acc (fun c' c => Step c c') start ∧ Steps start ⟨[], ending.2, faultOf ending.1⟩) ∧
    (∀ c, Steps start c → ∀ env nodes', .nodes env nodes' ∈ c.control →
      env.depth ≤ max depth 64) ∧
    (∀ name limit, ending.1 = .error (.partialDepth name limit) ↔ limit = 64 ∧
      ∃ c, Steps start c ∧ c.TooDeep name) ∧
    ∀ env name rest K s', Steps start ⟨.nodes env (.inclusion name :: rest) :: K, s', none⟩ →
      env.resolver name = none →
      Step ⟨.nodes env (.inclusion name :: rest) :: K, s', none⟩
        ⟨.nodes env rest :: K, s', none⟩ := by
  intro start ending
  have hend : Steps start ⟨[], ending.2, faultOf ending.1⟩ :=
    steps_renderAt ⟨resolver, strict, depth⟩ nodes s
  refine ⟨⟨acc_of_steps_end hend, hend⟩, ?_, ?_, ?_⟩
  · intro c hc env nodes' hmem
    have hplaced := placed_of_start (inherited_depth (Nat.le_max_right depth 64)) hc
      (Nat.le_max_left depth 64)
    obtain ⟨-, hdepth⟩ := hplaced.exists_of_mem hmem
    exact hdepth
  · intro name limit
    constructor
    · intro he
      rw [he] at hend
      exact exists_tooDeep_of_steps hend rfl rfl
    · rintro ⟨rfl, c, hc, hdeep⟩
      have hf := fault_of_tooDeep hend hc hdeep
      cases hr : ending.1 with
      | ok x =>
        rw [hr] at hf
        cases hf
      | error e =>
        rw [hr] at hf
        cases hf
        rfl
  · intro env name rest K s' _ hr
    exact step_of_absent hr rest K s'

end Mustache.Rendering
