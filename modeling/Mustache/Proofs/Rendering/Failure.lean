import Mustache.Proofs.Rendering.Scoping

/-! # Why renderings fail
A rendering fails for one of four reasons, and for each there is a place where it came up: the data
have no value, and then nothing is rendered; the sink refused the last write; a name stood for
nothing, in a template with the strict rule; or a partial stood too deep. The rule is that of the
template in which the name stands (`inherited_belongs`), and not that of a template around it. A
template that was parsed has no lexical or syntactic faults left. -/

namespace Mustache

/-! ## Sinks -/

/-- **What was refused**: the last write since `sink` was refused for this reason. -/
def Sink.RefusedSince (sink sink' : Sink) (fault : IoFault) : Prop :=
  ∃ bytes since taken, sink'.handed = bytes :: (since ++ sink.handed) ∧
    sink.refusal? (since ++ sink.handed) bytes = some (taken, fault)

/-- A sink after some more writes. -/
structure Sink.Follows (sink sink' : Sink) : Prop where
  /-- More was handed to it. -/
  handed : ∃ since, sink'.handed = since ++ sink.handed
  /-- What it refuses is settled as before. -/
  refusal : sink'.refusal? = sink.refusal?

theorem Sink.Follows.refl (sink : Sink) : sink.Follows sink := ⟨⟨[], rfl⟩, rfl⟩

theorem Sink.Follows.trans {a b c : Sink} (h : a.Follows b) (h' : b.Follows c) : a.Follows c := by
  obtain ⟨since, hs⟩ := h.handed
  obtain ⟨since', hs'⟩ := h'.handed
  exact ⟨⟨since' ++ since, by rw [hs', hs, List.append_assoc]⟩, h'.refusal.trans h.refusal⟩

/-- What was refused later was refused since the beginning. -/
theorem Sink.Follows.refusedSince {a b c : Sink} {fault : IoFault} (h : a.Follows b)
    (h' : b.RefusedSince c fault) : a.RefusedSince c fault := by
  obtain ⟨since, hs⟩ := h.handed
  obtain ⟨bytes, since', taken, hc, hr⟩ := h'
  refine ⟨bytes, since' ++ since, taken, ?_, ?_⟩
  · rw [hc, hs, List.append_assoc]
  · rw [List.append_assoc, ← hs, ← h.refusal, hr]

/-- A sink follows itself with a write, also when this is refused. -/
theorem Sink.follows_write (sink : Sink) (bytes : ByteArray) :
    sink.Follows (sink.write bytes).2 := by
  cases h : sink.refusal? sink.handed bytes with
  | none =>
    rw [write_of_refusal?_eq_none h]
    exact ⟨⟨[bytes], rfl⟩, rfl⟩
  | some refusal =>
    rw [write_of_refusal?_eq_some h]
    exact ⟨⟨[bytes], rfl⟩, rfl⟩

/-- A write that fails was refused. -/
theorem Sink.refusedSince_write {sink sink' : Sink} {bytes : ByteArray} {fault : IoFault}
    (h : sink.write bytes = (.error fault, sink')) : sink.RefusedSince sink' fault := by
  cases hr : sink.refusal? sink.handed bytes with
  | none =>
    rw [write_of_refusal?_eq_none hr] at h
    cases h
  | some refusal =>
    obtain ⟨taken, fault'⟩ := refusal
    rw [write_of_refusal?_eq_some hr] at h
    cases h
    exact ⟨bytes, [], taken, rfl, hr⟩

namespace Rendering

/-- **How an action uses the sink**: it hands more to it, and fails for it only at a write that the
sink refuses. -/
structure UsesSink (a : RenderM Unit) : Prop where
  /-- More is handed to the sink, whether the action succeeds or not. -/
  follows (s : State) : s.sink.Follows (Outcome.state (a s)).sink
  /-- A failure of the sink is that of the last write. -/
  refused {s s' : State} {fault : IoFault} (h : a s = .error (.io fault) s') :
    s.sink.RefusedSince s'.sink fault

/-- Renderings only hand more to the sink. -/
theorem composable_follows :
    Composable fun a => ∀ s : State, s.sink.Follows (Outcome.state (a s)).sink :=
  composable_sink .refl .trans Sink.follows_write

/-- Renderings fail for the sink only at the last write. -/
theorem composable_usesSink : Composable UsesSink where
  skip := ⟨composable_follows.skip, fun h => nomatch h⟩
  write text := by
    refine ⟨composable_follows.write text, ?_⟩
    intro s s' fault he
    obtain ⟨sink, -, h⟩ | ⟨fault', sink, hs, h⟩ := write_cases text s
    · cases h.symm.trans he
    · cases h.symm.trans he
      exact Sink.refusedSince_write hs
  missing name := ⟨composable_follows.missing name, fun h => nomatch h⟩
  tooDeep name := ⟨composable_follows.tooDeep name, fun h => nomatch h⟩
  seq {a b} ha hb := by
    refine ⟨composable_follows.seq ha.follows hb.follows, ?_⟩
    intro s s' fault he
    -- what the first action hands over comes before a write that the second one fails at
    have hs := ha.follows s
    cases h : a s with
    | ok x s'' =>
      rw [h] at hs
      rw [bind_of_ok h] at he
      exact hs.refusedSince (hb.refused he)
    | error e s'' =>
      rw [bind_of_error h] at he
      cases he
      exact ha.refused h
  look name f hf :=
    ⟨composable_follows.look name fun v => (hf v).follows,
      fun {s} _ _ h => (hf (s.scopes.lookup name)).refused h⟩
  scope v a ha := by
    refine ⟨composable_follows.scope v ha.follows, ?_⟩
    intro s s' fault he
    cases h : a { s with scopes := s.scopes.push v } with
    | ok x s'' =>
      rw [withScope_of_ok h] at he
      cases he
    | error e s'' =>
      rw [withScope_of_error h] at he
      cases he
      have hrefused := ha.refused h
      exact hrefused

/-! ## Names that stand for nothing -/

/-- What the nodes include is included by more nodes too. -/
theorem CanInclude.mono {depth : Nat} {resolver : Resolver} {nodes nodes' : List Node}
    {u : Template} (h : CanInclude depth resolver nodes u)
    (hsub : Node.partsOf nodes ⊆ Node.partsOf nodes') : CanInclude depth resolver nodes' u := by
  cases h with
  | tag hn hr hd => exact .tag (hsub hn) hr hd
  | inside hn hr hd hu => exact .inside (hsub hn) hr hd hu

/-- **Where nodes belong** in the rendering of a root template: they are parts of the innermost
template that is being included, or of the root. What they can include and what is being included
there, the root can include. -/
structure Belongs (root : Template) (outer : Resolver) (ts : List Template) (env : Env)
    (nodes : List Node) : Prop where
  /-- The nodes are parts of the innermost template. -/
  parts : Node.partsOf nodes ⊆ Node.partsOf (ts.headD root).nodes
  /-- What they can include the root can include. -/
  includes {u : Template} (h : CanInclude env.depth env.resolver nodes u) :
    CanInclude 0 (root.within outer) root.nodes u
  /-- What is being included the root can include. -/
  chain {u : Template} (h : u ∈ ts) : CanInclude 0 (root.within outer) root.nodes u

/-- **Nodes hand on where they belong.** -/
theorem inherited_belongs (root : Template) (outer : Resolver) :
    Inherited (Belongs root outer) where
  rest {ts env node nodes} h := by
    have hsub : Node.partsOf nodes ⊆ Node.partsOf (node :: nodes) := List.subset_append_right _ _
    exact ⟨List.Subset.trans hsub h.parts, fun hu => h.includes (hu.mono hsub), h.chain⟩
  body {ts env name inverted body nodes} h := by
    have hsub : Node.partsOf body ⊆ Node.partsOf (.block name inverted body :: nodes) :=
      List.Subset.trans (List.subset_cons_self _ _) (List.subset_append_left _ _)
    exact ⟨List.Subset.trans hsub h.parts, fun hu => h.includes (hu.mono hsub), h.chain⟩
  inclusion {ts env name t nodes} h hr hd := by
    have hn : Node.inclusion name ∈ Node.partsOf (.inclusion name :: nodes) :=
      List.mem_append_left _ (Node.mem_parts_self _)
    refine ⟨fun _ hp => hp, fun hu => h.includes (.inside hn hr hd hu), ?_⟩
    -- the partial is new in the chain, and its tag stands where the root can include
    intro u hu
    rcases List.mem_cons.1 hu with rfl | hu
    · exact h.includes (.tag hn hr hd)
    · exact h.chain hu

end Rendering

/-- **Nodes that ask for a name**: tags of values, and sections that are not inverted. -/
inductive Node.AsksFor (name : String) : Node → Prop where
  /-- The value is written. -/
  | interpolation (escaped : Bool) : AsksFor name (.interpolation name escaped)
  /-- The section is for the value. -/
  | block (body : List Node) : AsksFor name (.block name false body)

namespace Template

open Rendering

variable {t : Template} {outer : Resolver} {values : List Value} {sink : Sink}

/-- The root belongs to itself. -/
theorem belongs_root (t : Template) (outer : Resolver) :
    Belongs t outer [] (t.rootEnv outer) t.nodes :=
  ⟨fun _ h => h, fun h => h, fun h => nomatch h⟩

/-- **Where the error of a rendering comes from**: a node that the rendering came to. -/
theorem exists_failed_of_renderStack {e : Error}
    (h : (t.renderStack outer values sink).1 = .error e) :
    ∃ env node rest K s,
      Steps (t.start outer values sink) ⟨.nodes env (node :: rest) :: K, s, none⟩ ∧
        env.Failed s node e := by
  obtain ⟨scopes, hend⟩ := t.steps_renderStack outer values sink
  rw [h] at hend
  exact exists_failed_of_steps hend rfl rfl

/-- **A name is missing** where a node asks for it, in a template with the strict rule: the innermost
one that is being included there, or the root. -/
theorem missing_of_renderStack {name : String}
    (h : (t.renderStack outer values sink).1 = .error (.missing name)) :
    ∃ env node rest K s,
      Steps (t.start outer values sink) ⟨.nodes env (node :: rest) :: K, s, none⟩ ∧
        node.AsksFor name ∧ s.scopes.lookup name = none ∧
        ((included K).headD t).strict = true ∧
        node ∈ Node.partsOf ((included K).headD t).nodes ∧
        ((included K).headD t = t ∨
          CanInclude 0 (t.within outer) t.nodes ((included K).headD t)) := by
  obtain ⟨env, node, rest, K, s, hsteps, hf⟩ := exists_failed_of_renderStack h
  -- the rule at the node is that of the template to which the node belongs
  have hstrict : env.strict = ((included K).headD t).strict := by
    rw [env_of_steps hsteps, strict_within_rootEnv]
  have hbelongs : Belongs t outer (included K) env (node :: rest) :=
    (placed_of_start (inherited_belongs t outer) hsteps (belongs_root t outer)).1
  have hpart : node ∈ Node.partsOf ((included K).headD t).nodes :=
    hbelongs.parts (List.mem_append_left _ (Node.mem_parts_self node))
  have hentered : (included K).headD t = t ∨
      CanInclude 0 (t.within outer) t.nodes ((included K).headD t) := by
    cases hK : included K with
    | nil => exact .inl rfl
    | cons u ts =>
      rw [hK] at hbelongs
      exact .inr (hbelongs.chain List.mem_cons_self)
  refine ⟨env, node, rest, K, s, hsteps, ?_⟩
  cases hf with
  | value hs hl => exact ⟨.interpolation _, hl, hstrict ▸ hs, hpart, hentered⟩
  | block hs hl => exact ⟨.block _, hl, hstrict ▸ hs, hpart, hentered⟩

/-- The sink of a rendering that fails for it refused the last write. -/
theorem refusedSince_of_renderStack {fault : IoFault}
    (h : (t.renderStack outer values sink).1 = .error (.io fault)) :
    sink.RefusedSince (t.renderStack outer values sink).2 fault := by
  have huses : UsesSink (renderAt 0 (t.within outer) t.strict t.nodes) :=
    composable_usesSink.renderAt _ _ _ _
  unfold renderStack at h ⊢
  cases hr : renderAt 0 (t.within outer) t.strict t.nodes ⟨Scopes.ofOutermost values, sink⟩ with
  | ok x s =>
    rw [run_of_ok hr] at h
    cases h
  | error e s =>
    rw [run_of_error hr] at h ⊢
    cases h
    exact huses.refused hr

/-- **Why renderings fail.** For every template, whatever finds its partials, for all data and any
sink:

* the error is never lexical or syntactic;
* it is that of a value exactly if the data have none, and then nothing is written;
* it is that of the sink only if the sink refused the last write, for this reason;
* it is a missing name only where the rendering comes to the tag of a value or of a section that is
  not inverted, and the name stands for nothing in the scopes as they stand there. The tag is part of
  the innermost template that is being included there, or of the root, and the rule of this template
  about missing names is the strict one;
* so no name is missing if neither the root nor any template that it can include has that rule. -/
theorem render_error (t : Template) (outer : Resolver) (data : Data) (sink : Sink) :
    let ending := t.render outer data sink
    (∀ pos message, ending.1 ≠ .error (.lexical pos message)) ∧
    (∀ pos fault, ending.1 ≠ .error (.malformed pos fault)) ∧
    (∀ fault, ending.1 = .error (.value fault) ↔
      Value.ofData data = .error fault ∧ ending.2 = sink) ∧
    (∀ fault, ending.1 = .error (.io fault) → sink.RefusedSince ending.2 fault) ∧
    (∀ name, ending.1 = .error (.missing name) →
      ∃ v env node rest K s, Value.ofData data = .ok v ∧
        Steps (t.start outer [v] sink) ⟨.nodes env (node :: rest) :: K, s, none⟩ ∧
        node.AsksFor name ∧ s.scopes.lookup name = none ∧
        let u := (included K).headD t
        u.strict = true ∧ node ∈ Node.partsOf u.nodes ∧
          (u = t ∨ CanInclude 0 (t.within outer) t.nodes u)) ∧
    (t.strict = false → (∀ u, CanInclude 0 (t.within outer) t.nodes u → u.strict = false) →
      ∀ name, ending.1 ≠ .error (.missing name)) := by
  intro ending
  cases hdata : Value.ofData data with
  | error fault =>
    have hending : ending = (.error (.value fault), sink) := by
      simp only [ending, render, hdata]
    simp [hending]
  | ok v =>
    have hending : ending = t.renderStack outer [v] sink := by
      simp only [ending, render, hdata]
    rw [hending]
    refine ⟨?_, ?_, ?_, fun fault h => refusedSince_of_renderStack h, ?_, ?_⟩
    · intro pos message h
      obtain ⟨_, _, _, _, _, -, hf⟩ := exists_failed_of_renderStack h
      cases hf
    · intro pos fault h
      obtain ⟨_, _, _, _, _, -, hf⟩ := exists_failed_of_renderStack h
      cases hf
    · refine fun fault => ⟨fun h => ?_, fun h => nomatch h.1⟩
      obtain ⟨_, _, _, _, _, -, hf⟩ := exists_failed_of_renderStack h
      cases hf
    · intro name h
      obtain ⟨env, node, rest, K, s, hmissing⟩ := missing_of_renderStack h
      exact ⟨v, env, node, rest, K, s, rfl, hmissing⟩
    · intro ht hsilent name h
      obtain ⟨_, _, _, K, _, -, -, -, hstrict, -, hentered⟩ := missing_of_renderStack h
      rcases hentered with hroot | hu
      · rw [hroot, ht] at hstrict
        cases hstrict
      · rw [hsilent _ hu] at hstrict
        cases hstrict

/-- The rule of a partial holds inside of it and no longer. -/
example :
    let quiet : Template := ⟨"quiet", [.interpolation "a" true, .text "-"], [], false⟩
    let t : Template := ⟨"", [.inclusion "quiet", .block "b" true [.inclusion "quiet"],
      .interpolation "c" true], [], true⟩
    (match (t.render (only quiet) .unit Sink.unbounded).1 with
      | .ok () => ""
      | .error e => e.message) = "failed to lookup c" := by decide +kernel

end Template

end Mustache
