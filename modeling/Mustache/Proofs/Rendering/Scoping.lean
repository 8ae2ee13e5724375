import Mustache.Proofs.Rendering.Placement
import Mustache.Registry

/-! # The scoping of partials
Which template the tag of a partial stands for depends on the templates that are being included
there, one inside the other: the partials of the innermost one come first, those of the root
template come last, and behind them the templates of the registry. The rule about missing names is
that of the innermost template. All this is a property of the tasks alone (`inherited_within`): what
holds for nodes can be read off the partials that are still to come to their end. -/

namespace Mustache

namespace Rendering

/-! ## Inside templates -/

/-- What holds for the nodes of a template in which others are included, when these are. -/
def Env.within (root : Env) : List Template → Env
  | [] => root
  | t :: ts => (root.within ts).inside t

theorem depth_within (root : Env) (ts : List Template) :
    (root.within ts).depth = root.depth + ts.length := by
  induction ts with
  | nil => rfl
  | cons t ts ih =>
    show (root.within ts).depth + 1 = root.depth + (ts.length + 1)
    rw [ih]
    omega

/-- **Partials are looked for from the inside out**: first among those of the innermost template,
and last by what finds the partials of the root. -/
theorem resolver_within (root : Env) (ts : List Template) (name : String) :
    (root.within ts).resolver name =
      (ts.findSome? (·.ownPartial? name)).or (root.resolver name) := by
  induction ts with
  | nil => rfl
  | cons t ts ih =>
    show t.within (root.within ts).resolver name = _
    rw [Template.within_apply, ih, List.findSome?_cons]
    cases t.ownPartial? name <;> rfl

/-- **What holds for nodes follows from the templates that are being included.** -/
theorem inherited_within (root : Env) : Inherited fun ts env _ => env = root.within ts where
  rest h := h
  body h := h
  inclusion h _ _ := congrArg (Env.inside · _) h

/-- What a partial that is found leads to: what stands behind its tag, with the scopes as they stood
there, or the error in it. -/
theorem steps_part {env : Env} {name : String} {t : Template} (h : env.resolver name = some t)
    (hd : env.depth < inclusionLimit) (rest : List Node) (K : List Task) (s : State) :
    let here : Config := ⟨.nodes env (.inclusion name :: rest) :: K, s, none⟩
    let part := run ((env.inside t).render t.nodes) s
    (part.1 = .ok () → Steps here ⟨.nodes env rest :: K, ⟨s.scopes, part.2.sink⟩, none⟩) ∧
      ∀ e, part.1 = .error e →
        ∃ c, Steps here c ∧ c.fault = some e ∧ c.state.sink = part.2.sink := by
  intro here part
  have hsteps := steps_inclusion h hd rest K s
  have hscopes := composable_restores.renderAt (env.inside t).depth (env.inside t).resolver
    (env.inside t).strict t.nodes s
  rw [← Env.render] at hscopes
  cases hp : (env.inside t).render t.nodes s with
  | ok x s' =>
    have hpart : part = (.ok (), s') := run_of_ok hp
    rw [hp] at hsteps hscopes
    rw [hpart]
    refine ⟨fun _ => ?_, fun e he => ?_⟩
    · rw [← hscopes]
      exact hsteps
    · cases he
  | error e s' =>
    have hpart : part = (.error e, s') := run_of_error hp
    rw [hp] at hsteps
    rw [hpart]
    refine ⟨fun hok => ?_, fun e' he => ?_⟩
    · cases hok
    · cases he
      exact ⟨_, hsteps, rfl, rfl⟩

end Rendering

/-! ## Partials of a rendering -/

open Rendering

namespace Template

/-- What holds for the nodes of a template that is no partial. -/
def rootEnv (t : Template) (outer : Resolver) : Env where
  resolver := t.within outer
  strict := t.strict
  depth := 0

/-- The rendering of a template before its first step. -/
def start (t : Template) (outer : Resolver) (values : List Value) (sink : Sink) : Config :=
  .start (t.rootEnv outer) t.nodes { scopes := Scopes.ofOutermost values, sink := sink }

/-- The steps of the rendering lead to its end. -/
theorem steps_renderStack (t : Template) (outer : Resolver) (values : List Value) (sink : Sink) :
    ∃ scopes, Steps (t.start outer values sink)
      ⟨[], { scopes := scopes, sink := (t.renderStack outer values sink).2 },
        faultOf (t.renderStack outer values sink).1⟩ :=
  ⟨_, steps_renderAt (t.rootEnv outer) t.nodes _⟩

/-- What holds for the nodes of a template that others are included in, when these are: the rule
about missing names is that of the innermost template. -/
theorem strict_within_rootEnv (t₀ : Template) (outer : Resolver) (ts : List Template) :
    ((t₀.rootEnv outer).within ts).strict = (ts.headD t₀).strict := by
  cases ts with
  | nil => rfl
  | cons t ts => rfl

/-- The partials of the root come last, before those that are found elsewhere. -/
theorem resolver_within_rootEnv (t₀ : Template) (outer : Resolver) (ts : List Template)
    (name : String) :
    ((t₀.rootEnv outer).within ts).resolver name =
      ((ts ++ [t₀]).findSome? (·.ownPartial? name)).or (outer name) := by
  have hroot : (t₀.rootEnv outer).resolver name =
      ([t₀].findSome? (·.ownPartial? name)).or (outer name) := by
    show t₀.within outer name = _
    rw [within_apply, List.findSome?_singleton]
  rw [resolver_within, List.findSome?_append, Option.or_assoc, hroot]

/-- What holds for the nodes that a rendering reaches is what the partials around them make it. -/
theorem env_of_steps {t₀ : Template} {outer : Resolver} {values : List Value} {sink : Sink}
    {env : Env} {nodes : List Node} {K : List Task} {s : State} {fault : Option Error}
    (h : Steps (t₀.start outer values sink) ⟨.nodes env nodes :: K, s, fault⟩) :
    env = (t₀.rootEnv outer).within (included K) :=
  (placed_of_start (inherited_within (t₀.rootEnv outer)) h rfl).1

/-- An error on the way is the result of the rendering, and nothing is written after it. -/
theorem result_of_fault {t : Template} {outer : Resolver} {values : List Value} {sink : Sink}
    {c : Config} {e : Error} (h : Steps (t.start outer values sink) c) (he : c.fault = some e) :
    t.renderStack outer values sink = (.error e, c.state.sink) := by
  obtain ⟨scopes, hend⟩ := t.steps_renderStack outer values sink
  obtain ⟨hf, hs⟩ := fault_of_steps (steps_end_of_steps hend h) he
  generalize t.renderStack outer values sink = ending at hf hs
  obtain ⟨result, sink'⟩ := ending
  cases result with
  | ok x => cases hf
  | error e' =>
    cases hf
    cases hs
    rfl

/-- **The scoping of partials**, along any chain of templates that include one another. A rendering
of the root `t₀` runs to the end that `renderStack` gives. Whenever its next node is the tag of a
partial, and `chain` are the templates that are being included there, the innermost one first:

* the rule about missing names is that of the innermost template;
* the tag stands for the first template of this name among the partials of the innermost template,
  those of the next one, and so on to those of the root, and then in the registry;
* if there is none, the rendering goes on as if the tag were not there;
* if there is one and fewer than 64 templates are being included, its nodes are rendered with the
  scopes as they stand, by its own rule and with its own partials first. Unless an error in it ends
  the whole rendering, what stands behind the tag comes next, with the same scopes and all that held
  there before;
* inside 64 templates a partial that is found ends the rendering. -/
theorem renderStack_scoping (t₀ : Template) (r : Registry) (values : List Value) (sink : Sink) :
    let start := t₀.start r.resolver values sink
    let ending := t₀.renderStack r.resolver values sink
    (∃ scopes, Steps start ⟨[], ⟨scopes, ending.2⟩, faultOf ending.1⟩) ∧
    ∀ env name rest K s,
      let here : Config := ⟨.nodes env (.inclusion name :: rest) :: K, s, none⟩
      let chain := included K
      let found := ((chain ++ [t₀]).findSome? (·.ownPartial? name)).or (r.resolver name)
      Steps start here →
      (env.strict = (chain.headD t₀).strict ∧ env.depth = chain.length ∧
        env.resolver name = found) ∧
      (found = none → Step here ⟨.nodes env rest :: K, s, none⟩) ∧
      (∀ t, found = some t → chain.length < 64 →
        let inside : Env := ⟨t.within env.resolver, t.strict, chain.length + 1⟩
        let part := run (inside.render t.nodes) s
        Step here ⟨.nodes inside t.nodes :: .finish t :: .nodes env rest :: K, s, none⟩ ∧
        (part.1 = .ok () → Steps here ⟨.nodes env rest :: K, ⟨s.scopes, part.2.sink⟩, none⟩) ∧
        ∀ e, part.1 = .error e → ending = (.error e, part.2.sink)) ∧
      (∀ t, found = some t → 64 ≤ chain.length →
        ending = (.error (.partialDepth name 64), s.sink)) := by
  intro start ending
  refine ⟨t₀.steps_renderStack r.resolver values sink, ?_⟩
  intro env name rest K s here chain found hreach
  have henv : env = (t₀.rootEnv r.resolver).within chain := env_of_steps hreach
  have hstrict : env.strict = (chain.headD t₀).strict := by
    rw [henv, strict_within_rootEnv]
  have hdepth : env.depth = chain.length := by
    rw [henv, depth_within]
    exact Nat.zero_add _
  have hfound : env.resolver name = found := by
    rw [henv, resolver_within_rootEnv]
  refine ⟨⟨hstrict, hdepth, hfound⟩, ?_, ?_, ?_⟩
  · intro hnone
    exact step_of_absent (hfound.trans hnone) rest K s
  · intro t ht hlt inside part
    have hd : env.depth < inclusionLimit := by
      rw [hdepth]
      exact hlt
    have hinside : env.inside t = inside := by
      show (⟨_, _, env.depth + 1⟩ : Env) = _
      rw [hdepth]
    have hstep := step_of_present (hfound.trans ht) hd rest K s
    have hpart := steps_part (hfound.trans ht) hd rest K s
    rw [hinside] at hstep hpart
    refine ⟨hstep, hpart.1, fun e he => ?_⟩
    obtain ⟨c, hc, hfault, hsink⟩ := hpart.2 e he
    rw [← hsink]
    exact result_of_fault (hreach.trans hc) hfault
  · intro t ht hle
    have hd : inclusionLimit ≤ env.depth := by
      rw [hdepth]
      exact hle
    exact result_of_fault (hreach.tail (step_of_tooDeep (hfound.trans ht) hd rest K s)) rfl

/-! ## Partials that are too deep -/

/-- The name of the n-th rung of a ladder. -/
def rung (n : Nat) : String := String.ofList (List.replicate n 'p')

theorem rung_inj {m n : Nat} : rung m = rung n ↔ m = n := by
  simp [rung, String.ofList_inj]

/-- A partial that includes the next one, up to the last of 65. -/
def rungAt (n : Nat) : Template where
  name := rung n
  nodes := if n = 65 then [.text "x"] else [.inclusion (rung (n + 1))]
  partials := []
  strict := false

/-- A template with 65 partials that include one another in turn. -/
def ladder : Template where
  name := ""
  nodes := [.inclusion (rung 1)]
  partials := (List.range' 1 65).map fun n => (rung n, rungAt n)
  strict := false

theorem ownPartial?_ladder {n : Nat} (h : 1 ≤ n) (h' : n ≤ 65) :
    ladder.ownPartial? (rung n) = some (rungAt n) := by
  have hrange : ∀ start count, start ≤ n → n < start + count →
      Entries.get? ((List.range' start count).map fun n => (rung n, rungAt n)) (rung n) =
        some (rungAt n) := by
    intro start count
    induction count generalizing start with
    | zero => omega
    | succ count ih =>
      intro hs hc
      rw [List.range'_succ, List.map_cons, Entries.get?_cons]
      by_cases hn : n = start
      · rw [if_pos (rung_inj.2 hn), hn]
      · rw [if_neg (mt rung_inj.1 hn)]
        exact ih (start + 1) (by omega) (by omega)
  exact hrange 1 65 h (by omega)

/-- The rungs are reached one by one. -/
theorem steps_ladder (outer : Resolver) (values : List Value) (sink : Sink) :
    ∀ n ≤ 64, ∃ env K, Steps (ladder.start outer values sink)
        ⟨.nodes env [.inclusion (rung (n + 1))] :: K, ⟨Scopes.ofOutermost values, sink⟩, none⟩ ∧
      env.depth = n ∧ ∀ m, 1 ≤ m → m ≤ 65 → env.resolver (rung m) = some (rungAt m) := by
  intro n hn
  induction n with
  | zero =>
    refine ⟨ladder.rootEnv outer, [], .refl, rfl, fun m h h' => ?_⟩
    show ladder.within outer (rung m) = _
    rw [within_apply, ownPartial?_ladder h h']
    rfl
  | succ n ih =>
    obtain ⟨env, K, hsteps, hdepth, hresolver⟩ := ih (by omega)
    have hstep := step_of_present (hresolver (n + 1) (by omega) (by omega))
      (show env.depth < 64 by omega) [] K ⟨Scopes.ofOutermost values, sink⟩
    have hnodes : (rungAt (n + 1)).nodes = [.inclusion (rung (n + 2))] :=
      if_neg (show n + 1 ≠ 65 by omega)
    rw [hnodes] at hstep
    exact ⟨env.inside (rungAt (n + 1)), _, hsteps.tail hstep, congrArg (· + 1) hdepth,
      hresolver⟩

/-- **The depth is limited**: the last rung is found by its name but never rendered, and the
rendering ends with an error for it. -/
theorem ladder_tooDeep :
    ∃ env K s,
      let here : Config := ⟨.nodes env [.inclusion (rung 65)] :: K, s, none⟩
      Steps (ladder.start Registry.empty.resolver [.null] Sink.unbounded) here ∧
      ((included K ++ [ladder]).findSome? (·.ownPartial? (rung 65))).or
        (Registry.empty.resolver (rung 65)) = some (rungAt 65) ∧
      (∀ env' K' s', ¬ Steps here ⟨.nodes env' (rungAt 65).nodes :: K', s', none⟩) ∧
      ladder.renderStack Registry.empty.resolver [.null] Sink.unbounded =
        (.error (.partialDepth (rung 65) 64), Sink.unbounded) := by
  obtain ⟨env, K, hsteps, hdepth, hresolver⟩ :=
    steps_ladder Registry.empty.resolver [.null] Sink.unbounded 64 (Nat.le_refl 64)
  have hfound := hresolver 65 (by omega) (by omega)
  have hfail := step_of_tooDeep hfound (Nat.le_of_eq hdepth.symm) [] K
    ⟨Scopes.ofOutermost [.null], Sink.unbounded⟩
  refine ⟨env, K, _, hsteps, ?_, fun env' K' s' h => ?_,
    result_of_fault (hsteps.tail hfail) rfl⟩
  · rw [← resolver_within_rootEnv, ← env_of_steps hsteps]
    exact hfound
  · obtain h | ⟨d, hd, hrest⟩ := h.cases_head
    · cases h
    · rw [step_unique hd hfail] at hrest
      cases (fault_of_steps hrest rfl).1

end Template

end Mustache
