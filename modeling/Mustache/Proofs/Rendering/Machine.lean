import Mathlib.Logic.Relation
import Mustache.Proofs.Rendering.Tasks

/-! # Rendering step by step
A rendering as the steps of a machine with a list of tasks. A step does the first thing that the
first task asks for. When one fails, the tasks that are left are given up one by one and only their
scopes are taken away (`Step.unwind`).

Every step is the only one that is possible (`step_unique`), and the steps of the machine lead to
what `renderAt` gives (`steps_renderAt`). What a rendering comes to on its way is seen here: the
nodes that it reaches, with the scopes as they stand there, and the partials that it is in. -/

namespace Mustache.Rendering

open Relation

/-! ## Steps -/

/-- A rendering on its way. -/
structure Config where
  /-- What is to be done, in this order. -/
  control : List Task
  /-- The scopes and the sink. -/
  state : State
  /-- The error, if there was one. -/
  fault : Option Error

/-- **The steps of a rendering.** -/
inductive Step : Config → Config → Prop where
  /-- The first task is begun; what it still asks for comes before the other tasks. -/
  | goOn {task : Task} {tasks K : List Task} {s s' : State} (h : task.visit s = .ok tasks s') :
      Step ⟨task :: K, s, none⟩ ⟨tasks ++ K, s', none⟩
  /-- The first task fails. -/
  | fail {task : Task} {K : List Task} {e : Error} {s s' : State}
      (h : task.visit s = .error e s') : Step ⟨task :: K, s, none⟩ ⟨K, s', some e⟩
  /-- After an error the first task is given up. -/
  | unwind {task : Task} {K : List Task} {e : Error} {s : State} :
      Step ⟨task :: K, s, some e⟩ ⟨K, task.giveUp s, some e⟩

/-- Any number of steps. -/
abbrev Steps : Config → Config → Prop := ReflTransGen Step

/-- A step that is all that a task asks for. -/
theorem step_done {task : Task} {K : List Task} {s s' : State} (h : task.visit s = .ok [] s') :
    Step ⟨task :: K, s, none⟩ ⟨K, s', none⟩ := by
  have hstep : Step ⟨task :: K, s, none⟩ ⟨[] ++ K, s', none⟩ := .goOn h
  exact hstep

/-- There is only one way to go on. -/
theorem step_unique {c c₁ c₂ : Config} (h₁ : Step c c₁) (h₂ : Step c c₂) : c₁ = c₂ := by
  cases h₁ with
  | goOn h =>
    cases h₂ with
    | goOn h' =>
      rw [h] at h'
      cases h'
      rfl
    | fail h' =>
      rw [h] at h'
      cases h'
  | fail h =>
    cases h₂ with
    | goOn h' =>
      rw [h] at h'
      cases h'
    | fail h' =>
      rw [h] at h'
      cases h'
      rfl
  | unwind =>
    cases h₂
    rfl

/-- When nothing is left to be done, there is no further step. -/
theorem not_step_of_nil {s : State} {fault : Option Error} {c : Config} :
    ¬ Step ⟨[], s, fault⟩ c := by
  intro h
  cases h

/-- Two runs from the same start are parts of one run. -/
theorem steps_total {c c₁ c₂ : Config} (h₁ : Steps c c₁) (h₂ : Steps c c₂) :
    Steps c₁ c₂ ∨ Steps c₂ c₁ :=
  ReflTransGen.total_of_right_unique (fun _ _ _ => step_unique) h₁ h₂

/-- A run to the end comes through everything that is reached. -/
theorem steps_end_of_steps {c c' : Config} {s : State} {fault : Option Error}
    (hend : Steps c ⟨[], s, fault⟩) (h : Steps c c') : Steps c' ⟨[], s, fault⟩ := by
  rcases steps_total h hend with h' | h'
  · exact h'
  · obtain h' | ⟨d, hd, -⟩ := h'.cases_head
    · rw [← h']
    · exact absurd hd not_step_of_nil

/-- **A run that comes to an end is the only one**, so that no run goes on forever. -/
theorem acc_of_steps_end {c : Config} {s : State} {fault : Option Error}
    (h : Steps c ⟨[], s, fault⟩) : Acc (fun c' c => Step c c') c := by
  -- from the end backwards: the only step from a place leads to one that is known already
  induction h using ReflTransGen.head_induction_on with
  | refl => exact ⟨_, fun d hd => absurd hd not_step_of_nil⟩
  | head hstep _ ih =>
    refine ⟨_, fun d hd => ?_⟩
    rw [step_unique hd hstep]
    exact ih

/-- What a step leads to is on the way to the end. -/
theorem steps_end_of_step {c c' c'' : Config} {s : State} {fault : Option Error}
    (hend : Steps c ⟨[], s, fault⟩) (h : Steps c c') (hstep : Step c' c'') :
    Steps c'' ⟨[], s, fault⟩ :=
  steps_end_of_steps hend (h.tail hstep)

/-- An error stays the same to the end, and nothing is written after it. -/
theorem fault_of_steps {c c' : Config} {e : Error} (h : Steps c c') (he : c.fault = some e) :
    c'.fault = some e ∧ c'.state.sink = c.state.sink := by
  induction h with
  | refl => exact ⟨he, rfl⟩
  | tail _ hstep ih =>
    cases hstep with
    | goOn _ => cases ih.1
    | fail _ => cases ih.1
    | @unwind task K e s =>
      have hs : (task.giveUp s).sink = s.sink := by cases task <;> rfl
      exact ⟨ih.1, hs.trans ih.2⟩

/-- **Where an error comes from**: a run that ends with one came to a node that failed with it. -/
theorem exists_failed_of_steps {c c' : Config} {e : Error} (h : Steps c c') (hc : c.fault = none)
    (hc' : c'.fault = some e) :
    ∃ env node rest K s, Steps c ⟨.nodes env (node :: rest) :: K, s, none⟩ ∧
      env.Failed s node e := by
  induction h with
  | refl =>
    rw [hc] at hc'
    cases hc'
  | tail hd hstep ih =>
    -- only a failing step brings the error up, and later steps keep it
    cases hstep with
    | goOn hv => cases hc'
    | fail hv =>
      cases hc'
      obtain ⟨env, node, rest, rfl, hf⟩ := Task.failed_of_visit hv
      exact ⟨env, node, rest, _, _, hd, hf⟩
    | unwind => exact ih hc'

/-- The tag of a partial that is not found is passed over. -/
theorem step_of_absent {env : Env} {name : String} (h : env.resolver name = none)
    (rest : List Node) (K : List Task) (s : State) :
    Step ⟨.nodes env (.inclusion name :: rest) :: K, s, none⟩ ⟨.nodes env rest :: K, s, none⟩ := by
  have hv : (Task.nodes env (.inclusion name :: rest)).visit s = .ok [.nodes env rest] s := by
    rw [Task.visit, visit_inclusion_of_none h]
    rfl
  exact .goOn hv

/-- The tag of a partial that is found is followed by its nodes. -/
theorem step_of_present {env : Env} {name : String} {t : Template}
    (h : env.resolver name = some t) (hd : env.depth < inclusionLimit) (rest : List Node)
    (K : List Task) (s : State) :
    Step ⟨.nodes env (.inclusion name :: rest) :: K, s, none⟩
      ⟨.nodes (env.inside t) t.nodes :: .finish t :: .nodes env rest :: K, s, none⟩ := by
  have hv : (Task.nodes env (.inclusion name :: rest)).visit s =
      .ok [.nodes (env.inside t) t.nodes, .finish t, .nodes env rest] s := by
    rw [Task.visit, visit_inclusion_of_some h hd]
    rfl
  exact .goOn hv

/-- The tag of a partial for which no depth is left is an error. -/
theorem step_of_tooDeep {env : Env} {name : String} {t : Template}
    (h : env.resolver name = some t) (hd : inclusionLimit ≤ env.depth) (rest : List Node)
    (K : List Task) (s : State) :
    Step ⟨.nodes env (.inclusion name :: rest) :: K, s, none⟩
      ⟨K, s, some (.partialDepth name inclusionLimit)⟩ := by
  refine .fail ?_
  rw [Task.visit, visit_inclusion_of_le h hd]
  rfl

/-- What a step makes of the tasks: the first one is replaced by what it asks for, or it is gone. -/
theorem control_of_step {c c' : Config} (h : Step c c') :
    ∃ task tasks K, c.control = task :: K ∧ c'.control = tasks ++ K ∧
      (tasks = [] ∨ task.Asked tasks) := by
  cases h with
  | @goOn task tasks K s s' h =>
    exact ⟨task, tasks, K, rfl, rfl, .inr (Task.asked_of_visit h)⟩
  | @fail task K e s s' h => exact ⟨task, [], K, rfl, rfl, .inl rfl⟩
  | @unwind task K e s => exact ⟨task, [], K, rfl, rfl, .inl rfl⟩

/-! ## Tasks as actions -/

/-- What is left of a rendering when a part of it has ended so. -/
def Config.after (K : List Task) : Outcome → Config
  | .ok _ s => ⟨K, s, none⟩
  | .error e s => ⟨K, s, some e⟩

/-- The tasks do what the action does, whatever is to be done after them. -/
def Performs (tasks : List Task) (a : RenderM Unit) : Prop :=
  ∀ K s, Steps ⟨tasks ++ K, s, none⟩ (.after K (a s))

/-- The action begins like `m`, which tells what the rest of it is. -/
def Expands (m : RenderM (List Task)) (a : RenderM Unit) : Prop :=
  ∀ s, (∃ tasks s' b, m s = .ok tasks s' ∧ Performs tasks b ∧ a s = b s') ∨
    ∃ e s', m s = .error e s' ∧ a s = .error e s'

/-- Tasks that take no scope away. -/
def Level (tasks : List Task) : Prop := ∀ task ∈ tasks, task ≠ .leave

/-- Giving up tasks that take no scope away changes nothing. -/
theorem steps_giveUp {tasks : List Task} (h : Level tasks) (K : List Task) (s : State)
    (e : Error) : Steps ⟨tasks ++ K, s, some e⟩ ⟨K, s, some e⟩ := by
  induction tasks with
  | nil => exact .refl
  | cons task tasks ih =>
    have hs : task.giveUp s = s := by
      cases task with
      | leave => exact absurd rfl (h .leave List.mem_cons_self)
      | _ => rfl
    have hstep : Step ⟨task :: (tasks ++ K), s, some e⟩ ⟨tasks ++ K, task.giveUp s, some e⟩ :=
      .unwind
    rw [hs] at hstep
    exact .head hstep (ih fun t ht => h t (List.mem_cons_of_mem _ ht))

theorem performs_nil : Performs [] (pure ()) := fun _ _ => .refl

/-- Tasks one after the other do what the actions do one after the other. -/
theorem Performs.seq {ts us : List Task} {a b : RenderM Unit} (ha : Performs ts a)
    (hb : Performs us b) (hl : Level us) : Performs (ts ++ us) (a >>= fun _ => b) := by
  intro K s
  rw [List.append_assoc]
  have hs := ha (us ++ K) s
  cases h : a s with
  | ok x s' =>
    rw [h] at hs
    rw [bind_of_ok h]
    exact hs.trans (hb K s')
  | error e s' =>
    rw [h] at hs
    rw [bind_of_error h]
    exact hs.trans (steps_giveUp hl K s' e)

/-- Tasks between the begin and the end of a scope do what the action does in that scope. -/
theorem Performs.scope {tasks : List Task} {a : RenderM Unit} (ha : Performs tasks a)
    (v : Value) : Performs (.enter v :: (tasks ++ [.leave])) (withScope v a) := by
  intro K s
  rw [List.cons_append, List.append_assoc, List.singleton_append]
  have henter : Step ⟨.enter v :: (tasks ++ .leave :: K), s, none⟩
      ⟨tasks ++ .leave :: K, { s with scopes := s.scopes.push v }, none⟩ := step_done rfl
  have hs := ha (.leave :: K) { s with scopes := s.scopes.push v }
  cases h : a { s with scopes := s.scopes.push v } with
  | ok x s' =>
    rw [h] at hs
    rw [withScope_of_ok h]
    exact (ReflTransGen.head henter hs).tail (step_done rfl)
  | error e s' =>
    rw [h] at hs
    rw [withScope_of_error h]
    exact (ReflTransGen.head henter hs).tail .unwind

/-- A task does what its action does if it begins like it. -/
theorem Expands.performs {m : RenderM (List Task)} {a : RenderM Unit} (h : Expands m a)
    {task : Task} (hm : task.visit = m) : Performs [task] a := by
  intro K s
  rw [← hm] at h
  obtain ⟨tasks, s', b, hv, hb, ha⟩ | ⟨e, s', hv, ha⟩ := h s
  · rw [ha]
    exact .head (.goOn hv) (hb K s')
  · rw [ha]
    exact .single (.fail hv)

/-- An action that is done at once. -/
theorem Expands.act (a : RenderM Unit) : Expands (do a; return []) a := by
  intro s
  cases h : a s with
  | ok x s' => exact .inl ⟨[], s', pure (), bind_of_ok h, performs_nil, rfl⟩
  | error e s' => exact .inr ⟨e, s', bind_of_error h, rfl⟩

/-- An action of which nothing is done at once. -/
theorem Performs.expands {tasks : List Task} {a : RenderM Unit} (h : Performs tasks a) :
    Expands (return tasks) a :=
  fun s => .inl ⟨tasks, s, a, rfl, h, rfl⟩

theorem Expands.look (name : String) {f : Option Value → RenderM (List Task)}
    {g : Option Value → RenderM Unit} (h : ∀ v, Expands (f v) (g v)) :
    Expands (lookup name >>= f) (lookup name >>= g) :=
  fun s => h (s.scopes.lookup name) s

/-- Further tasks do what comes after the action. -/
theorem Expands.seq {m : RenderM (List Task)} {us : List Task} {a b : RenderM Unit}
    (ha : Expands m a) (hb : Performs us b) (hl : Level us) :
    Expands (do return (← m) ++ us) (a >>= fun _ => b) := by
  intro s
  obtain ⟨tasks, s', c, hm, hc, h⟩ | ⟨e, s', hm, h⟩ := ha s
  · exact .inl ⟨tasks ++ us, s', c >>= fun _ => b, bind_of_ok hm, hc.seq hb hl,
      bind_congr_of_eq h _⟩
  · exact .inr ⟨e, s', bind_of_error hm, bind_of_error h⟩

/-! ## The machine renders -/

/-- The tasks of a section for a list. -/
theorem performs_items {env : Env} {body : List Node} {a : RenderM Unit}
    (ha : Performs [.nodes env body] a) (items : List Value) :
    Performs [.items env body items] (forItems a items) := by
  induction items with
  | nil => exact performs_nil.expands.performs rfl
  | cons v vs ih =>
    have hseq : Performs ([.enter v, .nodes env body, .leave] ++ [.items env body vs])
        (withScope v a >>= fun _ => forItems a vs) :=
      (ha.scope v).seq ih (by simp [Level])
    exact hseq.expands.performs rfl

/-- The tasks for the value of a section. -/
theorem performs_tasksFor {env : Env} {body : List Node} {a : RenderM Unit}
    (ha : Performs [.nodes env body] a) (v : Value) :
    Performs (env.tasksFor body v) (forValue a v) := by
  unfold Env.tasksFor forValue
  cases v.asList? with
  | some items => exact performs_items ha items
  | none => exact ha.scope v

section Nodes

variable {env : Env} {incl : String → RenderM Unit}

mutual

/-- What a node asks for is what rendering it does, if that holds of the partials. -/
theorem expands_visit (hi : ∀ name, Expands (env.visit (.inclusion name)) (incl name)) :
    ∀ node, Expands (env.visit node) (renderNode env.strict incl node)
  | .text t => .act (write t)
  | .interpolation name escaped => by
    refine .look name fun v => ?_
    cases v with
    | some v => exact .act _
    | none => exact .act _
  | .block name true body => by
    refine .look name fun v => ?_
    have hb : Performs [.nodes env body] (renderNodes env.strict incl body) :=
      performs_nodes hi body
    cases v with
    | some v =>
      cases hv : v.isTruthy with
      | true => simpa [hv] using performs_nil.expands
      | false => simpa [hv] using hb.expands
    | none => exact hb.expands
  | .block name false body => by
    refine .look name fun v => ?_
    have hb : Performs [.nodes env body] (renderNodes env.strict incl body) :=
      performs_nodes hi body
    cases v with
    | some v =>
      cases hv : v.isTruthy with
      | true => simpa [hv] using (performs_tasksFor hb v).expands
      | false => simpa [hv] using performs_nil.expands
    | none => exact .act _
  | .comment _ => performs_nil.expands
  | .inclusion name => hi name

/-- The task of rendering some nodes does so, if that holds of the partials. -/
theorem performs_nodes (hi : ∀ name, Expands (env.visit (.inclusion name)) (incl name)) :
    ∀ nodes, Performs [.nodes env nodes] (renderNodes env.strict incl nodes)
  | [] => performs_nil.expands.performs rfl
  | node :: nodes =>
    ((expands_visit hi node).seq (performs_nodes hi nodes) (by simp [Level])).performs rfl

end

end Nodes

/-- The end of a partial does nothing more. -/
theorem Performs.finish {tasks : List Task} {a : RenderM Unit} (ha : Performs tasks a)
    (t : Template) : Performs (tasks ++ [.finish t]) a := by
  have hfinish : Performs [.finish t] (pure ()) := performs_nil.expands.performs rfl
  have hseq : Performs (tasks ++ [.finish t]) (a >>= fun _ => pure ()) :=
    ha.seq hfinish (by simp [Level])
  rw [bind_pure_unit] at hseq
  exact hseq

/-- What the tag of a partial asks for is what including the partial does, if that holds of the
nodes of partials one level deeper. -/
theorem expands_visit_inclusion {env : Env} (h : env.depth < inclusionLimit → ∀ t : Template,
      Performs [.nodes (env.inside t) t.nodes] ((env.inside t).render t.nodes)) (name : String) :
    Expands (env.visit (.inclusion name)) (includeAt env.depth env.resolver name) := by
  cases hr : env.resolver name with
  | none =>
    rw [visit_inclusion_of_none hr, includeAt_of_none hr]
    exact performs_nil.expands
  | some t =>
    by_cases hd : env.depth < inclusionLimit
    · rw [visit_inclusion_of_some hr hd, includeAt_of_some hr hd]
      exact ((h hd t).finish t).expands
    · rw [visit_inclusion_of_le hr (Nat.not_lt.1 hd), includeAt_of_le hr (Nat.not_lt.1 hd)]
      exact fun s => .inr ⟨_, s, rfl, rfl⟩

/-- **The task of rendering some nodes does so**, at any depth. -/
theorem performs_render (env : Env) (nodes : List Node) :
    Performs [.nodes env nodes] (env.render nodes) := by
  induction hdepth : env.depth using induction_on_depth generalizing env nodes with
  | step depth ih =>
    subst hdepth
    unfold Env.render
    rw [renderAt_eq]
    exact performs_nodes (expands_visit_inclusion fun hd t => ih hd (env.inside t) t.nodes rfl) nodes

/-- The tag of a partial that is found: the partial is rendered, and then what stands behind the
tag. -/
theorem steps_inclusion {env : Env} {name : String} {t : Template}
    (h : env.resolver name = some t) (hd : env.depth < inclusionLimit) (rest : List Node)
    (K : List Task) (s : State) :
    Steps ⟨.nodes env (.inclusion name :: rest) :: K, s, none⟩
      (.after (.nodes env rest :: K) ((env.inside t).render t.nodes s)) :=
  .head (step_of_present h hd rest K s)
    ((performs_render (env.inside t) t.nodes).finish t (.nodes env rest :: K) s)

/-! ## Whole runs -/

/-- A rendering before its first step. -/
def Config.start (env : Env) (nodes : List Node) (s : State) : Config :=
  ⟨[.nodes env nodes], s, none⟩

/-- The error of a result. -/
def faultOf : Except Error Unit → Option Error
  | .ok () => none
  | .error e => some e

/-- **The steps of a rendering lead to its end**, with the result and the state that `renderAt`
gives. -/
theorem steps_renderAt (env : Env) (nodes : List Node) (s : State) :
    Steps (.start env nodes s) ⟨[], (run (env.render nodes) s).2,
      faultOf (run (env.render nodes) s).1⟩ := by
  have hs := performs_render env nodes [] s
  cases h : env.render nodes s with
  | ok x s' =>
    rw [h] at hs
    rw [run_of_ok h]
    exact hs
  | error e s' =>
    rw [h] at hs
    rw [run_of_error h]
    exact hs

end Mustache.Rendering
