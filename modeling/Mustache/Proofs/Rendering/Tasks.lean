import Mustache.Proofs.Rendering.Composition

/-! # The tasks of a rendering
What is still to be done in a rendering, as a list of tasks: nodes that are left of a template or of
a section, items of a list for which a section is still to be rendered, scopes that are to be taken
away, partials that are to come to their end. `Task.visit` does the first thing that a task asks for
and tells what it still asks for; `Task.Asked` and `Env.Failed` say what that can be. -/

namespace Mustache.Rendering

/-! ## Tasks -/

/-- What holds for all nodes of a template while it is rendered. -/
structure Env where
  /-- Finds the partials of the template. -/
  resolver : Resolver
  /-- Whether it is an error that a name stands for nothing. -/
  strict : Bool
  /-- The number of partials around the nodes. -/
  depth : Nat

/-- What holds for the nodes of a partial. -/
def Env.inside (env : Env) (t : Template) : Env where
  resolver := t.within env.resolver
  strict := t.strict
  depth := env.depth + 1

/-- Renders nodes for which this holds. -/
def Env.render (env : Env) (nodes : List Node) : RenderM Unit :=
  renderAt env.depth env.resolver env.strict nodes

/-- Something that is still to be done. -/
inductive Task where
  /-- Nodes are to be rendered. -/
  | nodes (env : Env) (nodes : List Node)
  /-- The body of a section is to be rendered for some items. -/
  | items (env : Env) (body : List Node) (items : List Value)
  /-- A value becomes the innermost scope. -/
  | enter (v : Value)
  /-- The innermost scope is taken away. -/
  | leave
  /-- A partial has come to its end. -/
  | finish (t : Template)

/-- What is to be done for the value of a section. -/
def Env.tasksFor (env : Env) (body : List Node) (v : Value) : List Task :=
  match v.asList? with
  | some items => [.items env body items]
  | none => [.enter v, .nodes env body, .leave]

/-- Does the first thing that a node asks for, and tells what the node still asks for. -/
def Env.visit (env : Env) : Node → RenderM (List Task)
  | .text t => do
    write t
    return []
  | .interpolation name escaped => do
    match ← lookup name with
    | some v => do
      write (if escaped then Html.escape v.text else v.text)
      return []
    | none => do
      miss env.strict name
      return []
  | .block name true body => do
    match ← lookup name with
    | some v => return if v.isTruthy then [] else [.nodes env body]
    | none => return [.nodes env body]
  | .block name false body => do
    match ← lookup name with
    | some v => return if v.isTruthy then env.tasksFor body v else []
    | none => do
      miss env.strict name
      return []
  | .comment _ => return []
  | .inclusion name =>
    match env.resolver name with
    | none => return []
    | some t =>
      if env.depth < inclusionLimit then return [.nodes (env.inside t) t.nodes, .finish t]
      else throw (.partialDepth name inclusionLimit)

/-- The tag of a partial that is not found asks for nothing. -/
theorem visit_inclusion_of_none {env : Env} {name : String} (h : env.resolver name = none) :
    env.visit (.inclusion name) = return [] := by
  simp only [Env.visit, h]

/-- The tag of a partial asks for its nodes. -/
theorem visit_inclusion_of_some {env : Env} {name : String} {t : Template}
    (h : env.resolver name = some t) (hd : env.depth < inclusionLimit) :
    env.visit (.inclusion name) = return [.nodes (env.inside t) t.nodes, .finish t] := by
  simp only [Env.visit, h, if_pos hd]

/-- The tag of a partial for which no depth is left fails. -/
theorem visit_inclusion_of_le {env : Env} {name : String} {t : Template}
    (h : env.resolver name = some t) (hd : inclusionLimit ≤ env.depth) :
    env.visit (.inclusion name) = throw (.partialDepth name inclusionLimit) := by
  simp only [Env.visit, h, if_neg (Nat.not_lt.2 hd)]

/-- Does the first thing that a task asks for, and tells what the task still asks for. -/
def Task.visit : Task → RenderM (List Task)
  | .nodes _ [] => return []
  | .nodes env (node :: rest) => do
    let tasks ← env.visit node
    return tasks ++ [.nodes env rest]
  | .items _ _ [] => return []
  | .items env body (v :: vs) => return [.enter v, .nodes env body, .leave, .items env body vs]
  | .enter v => fun s => .ok [] { s with scopes := s.scopes.push v }
  | .leave => fun s => .ok [] { s with scopes := s.scopes.pop }
  | .finish _ => return []

/-- What giving up a task does: a scope that was to be taken away is taken away. -/
def Task.giveUp : Task → State → State
  | .leave, s => { s with scopes := s.scopes.pop }
  | _, s => s

/-! ## What tasks ask for -/

theorem ok_of_act {a : RenderM Unit} {tasks : List Task} {s s' : State}
    (h : (do a; return ([] : List Task) : RenderM (List Task)) s = .ok tasks s') : tasks = [] := by
  cases ha : a s with
  | ok x s'' =>
    rw [bind_of_ok ha] at h
    cases h
    rfl
  | error e s'' =>
    rw [bind_of_error ha] at h
    cases h

theorem error_of_act {a : RenderM Unit} {e : Error} {s s' : State}
    (h : (do a; return ([] : List Task) : RenderM (List Task)) s = .error e s') :
    a s = .error e s' := by
  cases ha : a s with
  | ok x s'' =>
    rw [bind_of_ok ha] at h
    cases h
  | error e' s'' =>
    rw [bind_of_error ha] at h
    cases h
    rfl

/-- **What a node asks for**: nothing more, its body once or for a value, or the nodes of a
partial. -/
inductive Env.Asked (env : Env) : Node → List Task → Prop where
  /-- Nothing more. -/
  | done {node : Node} : Asked env node []
  /-- The body of a section with the scopes as they stand. -/
  | body {name : String} {inverted : Bool} {body : List Node} :
      Asked env (.block name inverted body) [.nodes env body]
  /-- The body of a section for a value. -/
  | value {name : String} {inverted : Bool} {body : List Node} {v : Value} :
      Asked env (.block name inverted body) (env.tasksFor body v)
  /-- The nodes of a partial. -/
  | inclusion {name : String} {t : Template} (h : env.resolver name = some t)
      (hd : env.depth < inclusionLimit) :
      Asked env (.inclusion name) [.nodes (env.inside t) t.nodes, .finish t]

theorem Env.asked_of_visit {env : Env} {node : Node} {tasks : List Task} {s s' : State}
    (h : env.visit node s = .ok tasks s') : env.Asked node tasks := by
  cases node with
  | text t =>
    rw [ok_of_act h]
    exact .done
  | interpolation name escaped =>
    rw [Env.visit, lookup_bind] at h
    cases hv : s.scopes.lookup name with
    | some v =>
      rw [hv] at h
      rw [ok_of_act h]
      exact .done
    | none =>
      rw [hv] at h
      rw [ok_of_act h]
      exact .done
  | block name inverted body =>
    cases inverted with
    | true =>
      rw [Env.visit, lookup_bind] at h
      cases hv : s.scopes.lookup name with
      | some v =>
        rw [hv] at h
        cases ht : v.isTruthy with
        | true =>
          simp only [ht] at h
          cases h
          exact .done
        | false =>
          simp only [ht] at h
          cases h
          exact .body
      | none =>
        rw [hv] at h
        cases h
        exact .body
    | false =>
      rw [Env.visit, lookup_bind] at h
      cases hv : s.scopes.lookup name with
      | some v =>
        rw [hv] at h
        cases ht : v.isTruthy with
        | true =>
          simp only [ht] at h
          cases h
          exact .value
        | false =>
          simp only [ht] at h
          cases h
          exact .done
      | none =>
        rw [hv] at h
        rw [ok_of_act h]
        exact .done
  | comment t =>
    cases h
    exact .done
  | inclusion name =>
    cases hr : env.resolver name with
    | none =>
      rw [visit_inclusion_of_none hr] at h
      cases h
      exact .done
    | some t =>
      by_cases hd : env.depth < inclusionLimit
      · rw [visit_inclusion_of_some hr hd] at h
        cases h
        exact .inclusion hr hd
      · rw [visit_inclusion_of_le hr (Nat.not_lt.1 hd)] at h
        cases h

/-- **Why a node fails.** -/
inductive Env.Failed (env : Env) (s : State) : Node → Error → Prop where
  /-- The sink refuses a text. -/
  | refused {node : Node} {text : String} {fault : IoFault} {sink : Sink}
      (h : s.sink.write text.toUTF8 = (.error fault, sink)) : Failed env s node (.io fault)
  /-- The name of a value stands for nothing. -/
  | value {name : String} {escaped : Bool} (hs : env.strict = true)
      (h : s.scopes.lookup name = none) : Failed env s (.interpolation name escaped) (.missing name)
  /-- The name of a section stands for nothing. -/
  | block {name : String} {body : List Node} (hs : env.strict = true)
      (h : s.scopes.lookup name = none) : Failed env s (.block name false body) (.missing name)
  /-- No depth is left for a partial. -/
  | tooDeep {name : String} {t : Template} (h : env.resolver name = some t)
      (hd : inclusionLimit ≤ env.depth) :
      Failed env s (.inclusion name) (.partialDepth name inclusionLimit)

theorem eq_of_write_error {text : String} {e : Error} {s s' : State}
    (h : write text s = .error e s') :
    ∃ fault sink, s.sink.write text.toUTF8 = (.error fault, sink) ∧ e = .io fault := by
  obtain ⟨sink, -, hw⟩ | ⟨fault, sink, hr, hw⟩ := write_cases text s
  · rw [hw] at h
    cases h
  · rw [hw] at h
    cases h
    exact ⟨fault, sink, hr, rfl⟩

theorem eq_of_miss_error {strict : Bool} {name : String} {e : Error} {s s' : State}
    (h : miss strict name s = .error e s') : strict = true ∧ e = .missing name := by
  cases strict with
  | true =>
    cases h
    exact ⟨rfl, rfl⟩
  | false => cases h

theorem Env.failed_of_visit {env : Env} {node : Node} {e : Error} {s s' : State}
    (h : env.visit node s = .error e s') : env.Failed s node e := by
  cases node with
  | text t =>
    obtain ⟨fault, sink, hr, rfl⟩ := eq_of_write_error (error_of_act h)
    exact .refused hr
  | interpolation name escaped =>
    rw [Env.visit, lookup_bind] at h
    cases hv : s.scopes.lookup name with
    | some v =>
      rw [hv] at h
      obtain ⟨fault, sink, hr, rfl⟩ := eq_of_write_error (error_of_act h)
      exact .refused hr
    | none =>
      rw [hv] at h
      obtain ⟨hs, rfl⟩ := eq_of_miss_error (error_of_act h)
      exact .value hs hv
  | block name inverted body =>
    cases inverted with
    | true =>
      rw [Env.visit, lookup_bind] at h
      cases hv : s.scopes.lookup name <;> rw [hv] at h <;> cases h
    | false =>
      rw [Env.visit, lookup_bind] at h
      cases hv : s.scopes.lookup name with
      | some v =>
        rw [hv] at h
        cases h
      | none =>
        rw [hv] at h
        obtain ⟨hs, rfl⟩ := eq_of_miss_error (error_of_act h)
        exact .block hs hv
  | comment t => cases h
  | inclusion name =>
    cases hr : env.resolver name with
    | none =>
      rw [visit_inclusion_of_none hr] at h
      cases h
    | some t =>
      by_cases hd : env.depth < inclusionLimit
      · rw [visit_inclusion_of_some hr hd] at h
        cases h
      · rw [visit_inclusion_of_le hr (Nat.not_lt.1 hd)] at h
        cases h
        exact .tooDeep hr (Nat.not_lt.1 hd)

/-- **What a task asks for.** -/
inductive Task.Asked : Task → List Task → Prop where
  /-- No nodes are left. -/
  | noNodes {env : Env} : Asked (.nodes env []) []
  /-- What the first node asks for, and then the other nodes. -/
  | nodes {env : Env} {node : Node} {rest : List Node} {tasks : List Task}
      (h : env.Asked node tasks) :
      Asked (.nodes env (node :: rest)) (tasks ++ [.nodes env rest])
  /-- No items are left. -/
  | noItems {env : Env} {body : List Node} : Asked (.items env body []) []
  /-- The body with the first item as a scope, and then the other items. -/
  | items {env : Env} {body : List Node} {v : Value} {vs : List Value} :
      Asked (.items env body (v :: vs)) [.enter v, .nodes env body, .leave, .items env body vs]
  /-- Nothing more. -/
  | enter {v : Value} : Asked (.enter v) []
  /-- Nothing more. -/
  | leave : Asked .leave []
  /-- Nothing more. -/
  | finish {t : Template} : Asked (.finish t) []

theorem Task.asked_of_visit {task : Task} {tasks : List Task} {s s' : State}
    (h : task.visit s = .ok tasks s') : task.Asked tasks := by
  cases task with
  | nodes env nodes =>
    cases nodes with
    | nil =>
      cases h
      exact .noNodes
    | cons node rest =>
      rw [Task.visit] at h
      cases hv : env.visit node s with
      | ok tasks' s'' =>
        rw [bind_of_ok hv] at h
        cases h
        exact .nodes (Env.asked_of_visit hv)
      | error e s'' =>
        rw [bind_of_error hv] at h
        cases h
  | items env body items =>
    cases items with
    | nil =>
      cases h
      exact .noItems
    | cons v vs =>
      cases h
      exact .items
  | enter v =>
    cases h
    exact .enter
  | leave =>
    cases h
    exact .leave
  | finish t =>
    cases h
    exact .finish

/-- Only nodes fail. -/
theorem Task.failed_of_visit {task : Task} {e : Error} {s s' : State}
    (h : task.visit s = .error e s') :
    ∃ env node rest, task = .nodes env (node :: rest) ∧ env.Failed s node e := by
  cases task with
  | nodes env nodes =>
    cases nodes with
    | nil => cases h
    | cons node rest =>
      rw [Task.visit] at h
      cases hv : env.visit node s with
      | ok tasks' s'' =>
        rw [bind_of_ok hv] at h
        cases h
      | error e s'' =>
        rw [bind_of_error hv] at h
        cases h
        exact ⟨env, node, rest, rfl, Env.failed_of_visit hv⟩
  | items env body items =>
    cases items with
    | nil => cases h
    | cons v vs => cases h
  | enter v => cases h
  | leave => cases h
  | finish t => cases h

end Mustache.Rendering
