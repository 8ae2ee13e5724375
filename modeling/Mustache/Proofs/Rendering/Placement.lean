import Mustache.Proofs.Rendering.Machine

/-! # Where the nodes of a rendering belong
The tasks of a rendering show which templates are being included (`included`): they are the partials
that are still to come to their end. So what holds for the nodes of a task can be said in terms of
these templates. If it is handed on from nodes to the body of a section, to the nodes of a partial
and to the nodes behind (`Inherited`), it holds for all nodes that a run comes to
(`placed_of_steps`). -/

namespace Mustache.Rendering

/-! ## The templates that are being included -/

/-- The templates that are being included when these tasks are left, the innermost one first. -/
def included : List Task → List Template
  | [] => []
  | .finish t :: K => t :: included K
  | _ :: K => included K

/-! ## What tasks hand on -/

/-- **What holds for the nodes of each task**, with the templates that are being included there and
what holds for all nodes of the innermost one. -/
def Placed (P : List Template → Env → List Node → Prop) : List Task → Prop
  | [] => True
  | .nodes env nodes :: K => P (included K) env nodes ∧ Placed P K
  | .items env body _ :: K => P (included K) env body ∧ Placed P K
  | _ :: K => Placed P K

/-- **What holds for nodes holds for all that they ask for.** -/
structure Inherited (P : List Template → Env → List Node → Prop) : Prop where
  /-- It holds for the nodes behind the first one. -/
  rest {ts : List Template} {env : Env} {node : Node} {nodes : List Node}
    (h : P ts env (node :: nodes)) : P ts env nodes
  /-- It holds for the body of a section. -/
  body {ts : List Template} {env : Env} {name : String} {inverted : Bool} {body nodes : List Node}
    (h : P ts env (.block name inverted body :: nodes)) : P ts env body
  /-- It holds for the nodes of a partial. -/
  inclusion {ts : List Template} {env : Env} {name : String} {t : Template} {nodes : List Node}
    (h : P ts env (.inclusion name :: nodes)) (hr : env.resolver name = some t)
    (hd : env.depth < inclusionLimit) : P (t :: ts) (env.inside t) t.nodes

section Placed

variable {P : List Template → Env → List Node → Prop}

/-- The first task may be taken away. -/
theorem Placed.tail {task : Task} {K : List Task} (h : Placed P (task :: K)) : Placed P K := by
  cases task with
  | nodes env nodes => exact h.2
  | items env body items => exact h.2
  | enter v => exact h
  | leave => exact h
  | finish t => exact h

/-- What is done for the value of a section. -/
theorem placed_tasksFor {env : Env} {body : List Node} {K : List Task} (v : Value)
    (hb : P (included K) env body) (h : Placed P K) : Placed P (env.tasksFor body v ++ K) := by
  unfold Env.tasksFor
  cases v.asList? with
  | some items => exact ⟨hb, h⟩
  | none => exact ⟨hb, h⟩

/-- What the first of some nodes asks for. -/
theorem placed_of_env_asked (hP : Inherited P) {env : Env} {node : Node} {nodes : List Node}
    {tasks K : List Task} (ha : env.Asked node tasks) (hn : P (included K) env (node :: nodes))
    (h : Placed P K) : Placed P (tasks ++ K) := by
  cases ha with
  | done => exact h
  | body => exact ⟨hP.body hn, h⟩
  | value => exact placed_tasksFor _ (hP.body hn) h
  | inclusion hr hd => exact ⟨hP.inclusion hn hr hd, h⟩

/-- What a task asks for. -/
theorem placed_of_asked (hP : Inherited P) {task : Task} {tasks K : List Task}
    (ha : task.Asked tasks) (h : Placed P (task :: K)) : Placed P (tasks ++ K) := by
  cases ha with
  | noNodes => exact h.2
  | nodes ha =>
    rw [List.append_assoc]
    exact placed_of_env_asked hP ha h.1 ⟨hP.rest h.1, h.2⟩
  | noItems => exact h.2
  | items => exact ⟨h.1, h⟩
  | enter => exact h
  | leave => exact h
  | finish => exact h

/-- **Every step keeps what nodes hand on**, and so does a whole run. -/
theorem placed_of_steps (hP : Inherited P) {c c' : Config} (h : Steps c c')
    (hc : Placed P c.control) : Placed P c'.control := by
  induction h with
  | refl => exact hc
  | tail _ hstep ih =>
    obtain ⟨task, tasks, K, hK, hK', ha⟩ := control_of_step hstep
    rw [hK] at ih
    rw [hK']
    -- a task that fails or is given up is only taken away, and the others depend on none before
    rcases ha with rfl | ha
    · exact ih.tail
    · exact placed_of_asked hP ha ih

/-- **What holds for the nodes of a rendering** and is handed on holds for all nodes on the way. -/
theorem placed_of_start (hP : Inherited P) {root : Env} {nodes : List Node} {s : State} {c : Config}
    (h : Steps (.start root nodes s) c) (hroot : P [] root nodes) : Placed P c.control :=
  placed_of_steps hP h ⟨hroot, trivial⟩

/-- It holds for each of the tasks. -/
theorem Placed.exists_of_mem {env : Env} {nodes : List Node} {K : List Task} (h : Placed P K)
    (hmem : .nodes env nodes ∈ K) : ∃ ts, P ts env nodes := by
  induction K with
  | nil => cases hmem
  | cons task K ih =>
    rcases List.mem_cons.1 hmem with rfl | hmem
    · exact ⟨included K, h.1⟩
    · exact ih h.tail hmem

end Placed

end Mustache.Rendering
