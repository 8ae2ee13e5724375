import Mustache.Proofs.Rendering.Reach

/-! # Renderings as compositions
Every rendering is put together from a few actions: it writes, looks names up, fails, and adds
scopes around other renderings. The texts that it writes and the names that it looks up can be told
from the nodes that it can reach (`Composed.renderAt`). What holds of these actions and is kept when
they are put together holds of all renderings (`Composable.renderAt`), for any resolver and at any
depth. Two such facts are that renderings only add to the output and that they leave the scopes as
they found them. -/

namespace Mustache

/-! ## Output -/

/-- What `sink'` has written begins with all that `sink` has written. -/
def Sink.Precedes (sink sink' : Sink) : Prop := ∃ more, sink'.written = sink.written ++ more

theorem Sink.Precedes.refl (sink : Sink) : sink.Precedes sink :=
  ⟨ByteArray.empty, ByteArray.append_empty.symm⟩

theorem Sink.Precedes.trans {s t u : Sink} (h : s.Precedes t) (h' : t.Precedes u) :
    s.Precedes u := by
  obtain ⟨more, hm⟩ := h
  obtain ⟨more', hm'⟩ := h'
  exact ⟨more ++ more', by rw [hm', hm, ByteArray.append_assoc]⟩

/-- A write adds to what was written before, also when it is refused. -/
theorem Sink.precedes_write (sink : Sink) (bytes : ByteArray) :
    sink.Precedes (sink.write bytes).2 := by
  cases h : sink.refusal? sink.handed bytes with
  | none =>
    rw [write_of_refusal?_eq_none h]
    exact ⟨bytes, rfl⟩
  | some refusal =>
    rw [write_of_refusal?_eq_some h]
    exact ⟨bytes.extract 0 refusal.1, rfl⟩

namespace Rendering

/-! ## Actions one after the other -/

/-- How an action ends. -/
abbrev Outcome : Type := EStateM.Result Error State Unit

/-- The state at the end. -/
def Outcome.state : Outcome → State
  | .ok _ s => s
  | .error _ s => s

@[simp] theorem Outcome.state_ok (s : State) : Outcome.state (.ok () s) = s := rfl

@[simp] theorem Outcome.state_error (e : Error) (s : State) :
    Outcome.state (.error e s) = s := rfl

theorem run_of_ok {a : RenderM Unit} {s s' : State} (h : a s = .ok () s') :
    run a s = (.ok (), s') := by
  simp only [run, h]

theorem run_of_error {a : RenderM Unit} {e : Error} {s s' : State} (h : a s = .error e s') :
    run a s = (.error e, s') := by
  simp only [run, h]

theorem snd_run (a : RenderM Unit) (s : State) : (run a s).2 = Outcome.state (a s) := by
  cases h : a s with
  | ok x s' => rw [run_of_ok h, Outcome.state_ok]
  | error e s' => rw [run_of_error h, Outcome.state_error]

/-- What follows an action that succeeds begins in the state that the action leaves. -/
theorem bind_of_ok {α β : Type} {a : RenderM α} {f : α → RenderM β} {x : α} {s s' : State}
    (h : a s = .ok x s') : (a >>= f) s = f x s' := by
  show EStateM.bind a f s = f x s'
  simp only [EStateM.bind, h]

/-- Nothing follows an action that fails. -/
theorem bind_of_error {α β : Type} {a : RenderM α} {f : α → RenderM β} {e : Error} {s s' : State}
    (h : a s = .error e s') : (a >>= f) s = .error e s' := by
  show EStateM.bind a f s = .error e s'
  simp only [EStateM.bind, h]

/-- What follows a look-up begins where the look-up began. -/
theorem lookup_bind {α : Type} (name : String) (f : Option Value → RenderM α) (s : State) :
    (lookup name >>= f) s = f (s.scopes.lookup name) s := rfl

/-- Where two actions end alike, they go on alike. -/
theorem bind_congr_of_eq {a b : RenderM Unit} {s s' : State} (h : a s = b s')
    (f : Unit → RenderM Unit) : (a >>= f) s = (b >>= f) s' := by
  cases hb : b s' with
  | ok x s'' =>
    rw [hb] at h
    rw [bind_of_ok h, bind_of_ok hb]
  | error e s'' =>
    rw [hb] at h
    rw [bind_of_error h, bind_of_error hb]

/-- A text that the sink takes. -/
theorem write_of_ok {text : String} {s : State} {sink : Sink}
    (h : s.sink.write text.toUTF8 = (.ok (), sink)) :
    write text s = .ok () { s with sink := sink } := by
  simp only [write, h]

/-- A text that the sink refuses. -/
theorem write_of_error {text : String} {s : State} {fault : IoFault} {sink : Sink}
    (h : s.sink.write text.toUTF8 = (.error fault, sink)) :
    write text s = .error (.io fault) { s with sink := sink } := by
  simp only [write, h]

/-- The end of a text that is written: the sink says whether it succeeds. -/
theorem write_cases (text : String) (s : State) :
    (∃ sink, s.sink.write text.toUTF8 = (.ok (), sink) ∧
        write text s = .ok () { s with sink := sink }) ∨
      ∃ fault sink, s.sink.write text.toUTF8 = (.error fault, sink) ∧
        write text s = .error (.io fault) { s with sink := sink } := by
  cases hw : s.sink.write text.toUTF8 with
  | mk result sink =>
    cases result with
    | ok x => exact .inl ⟨sink, rfl, write_of_ok hw⟩
    | error fault => exact .inr ⟨fault, sink, rfl, write_of_error hw⟩

/-- An action inside a scope ends as it does with that scope; then the scope is gone. -/
theorem withScope_of_ok {v : Value} {a : RenderM Unit} {s s' : State}
    (h : a { s with scopes := s.scopes.push v } = .ok () s') :
    withScope v a s = .ok () { s' with scopes := s'.scopes.pop } := by
  simp only [withScope, h]

/-- The scope of an action that fails is taken away as well. -/
theorem withScope_of_error {v : Value} {a : RenderM Unit} {e : Error} {s s' : State}
    (h : a { s with scopes := s.scopes.push v } = .error e s') :
    withScope v a s = .error e { s' with scopes := s'.scopes.pop } := by
  simp only [withScope, h]

/-- However an action inside a scope ends, it leaves the state behind without that scope. -/
theorem state_withScope (v : Value) (a : RenderM Unit) (s : State) :
    Outcome.state (withScope v a s) =
      { Outcome.state (a { s with scopes := s.scopes.push v }) with
        scopes := (Outcome.state (a { s with scopes := s.scopes.push v })).scopes.pop } := by
  cases h : a { s with scopes := s.scopes.push v } with
  | ok x s' => rw [withScope_of_ok h, Outcome.state_ok, Outcome.state_ok]
  | error e s' => rw [withScope_of_error h, Outcome.state_error, Outcome.state_error]

/-! ## Partials -/

/-- What becomes of the partial called `name` inside `depth` others: nothing if there is none, and
an error if there is one but no depth is left for it. -/
def includeAt (depth : Nat) (resolver : Resolver) (name : String) : RenderM Unit :=
  match resolver name with
  | none => pure ()
  | some t =>
    if depth < inclusionLimit then renderAt (depth + 1) (t.within resolver) t.strict t.nodes
    else throw (.partialDepth name inclusionLimit)

theorem includeAt_of_none {depth : Nat} {resolver : Resolver} {name : String}
    (h : resolver name = none) : includeAt depth resolver name = pure () := by
  simp only [includeAt, h]

theorem includeAt_of_some {depth : Nat} {resolver : Resolver} {name : String} {t : Template}
    (h : resolver name = some t) (hd : depth < inclusionLimit) :
    includeAt depth resolver name =
      renderAt (depth + 1) (t.within resolver) t.strict t.nodes := by
  simp only [includeAt, h, if_pos hd]

theorem includeAt_of_le {depth : Nat} {resolver : Resolver} {name : String} {t : Template}
    (h : resolver name = some t) (hd : inclusionLimit ≤ depth) :
    includeAt depth resolver name = throw (.partialDepth name inclusionLimit) := by
  simp only [includeAt, h, if_neg (Nat.not_lt.2 hd)]

/-- To prove something of every depth it is enough to prove it of each one from the next, as far as
partials are entered there. -/
theorem induction_on_depth {P : Nat → Prop}
    (step : ∀ depth, (depth < inclusionLimit → P (depth + 1)) → P depth) (depth : Nat) :
    P depth := by
  -- by induction on the depth that is left
  induction hroom : inclusionLimit - depth generalizing depth with
  | zero => exact step depth fun hd => by omega
  | succ room ih => exact step depth fun _ => ih (depth + 1) (by omega)

/-- **Renderings by their depth**: nodes are rendered one after the other, and their partials one
level deeper. -/
theorem renderAt_eq (depth : Nat) (resolver : Resolver) (strict : Bool) (nodes : List Node) :
    renderAt depth resolver strict nodes =
      renderNodes strict (includeAt depth resolver) nodes := by
  unfold renderAt
  by_cases hd : depth < inclusionLimit
  · have hroom : inclusionLimit - depth = inclusionLimit - (depth + 1) + 1 := by omega
    rw [hroom, renderWithin]
    congr
    funext name
    cases hr : resolver name with
    | none => rw [includeAt_of_none hr]
    | some t => rw [includeAt_of_some hr hd, renderAt]
  · have hroom : inclusionLimit - depth = 0 := by omega
    rw [hroom, renderWithin]
    congr
    funext name
    cases hr : resolver name with
    | none => rw [includeAt_of_none hr]
    | some t => rw [includeAt_of_le hr (Nat.not_lt.1 hd)]

/-! ## What renderings are made of -/

/-- **Compositions** of a few actions, among them writes of these texts and look-ups of these
names. -/
inductive Composed (texts names : String → Prop) : RenderM Unit → Prop where
  /-- Nothing is done. -/
  | skip : Composed texts names (pure ())
  /-- A text is written. -/
  | write {text : String} (h : texts text) : Composed texts names (write text)
  /-- A name stands for nothing. -/
  | missing (name : String) : Composed texts names (throw (.missing name))
  /-- A partial stands too deep. -/
  | tooDeep (name : String) : Composed texts names (throw (.partialDepth name inclusionLimit))
  /-- One action follows another. -/
  | seq {a b : RenderM Unit} (ha : Composed texts names a) (hb : Composed texts names b) :
      Composed texts names (a >>= fun _ => b)
  /-- What an action is hangs on the value of a name. -/
  | look {name : String} (h : names name) {f : Option Value → RenderM Unit}
      (hf : ∀ v, Composed texts names (f v)) : Composed texts names (lookup name >>= f)
  /-- An action happens inside a scope. -/
  | scope (v : Value) {a : RenderM Unit} (ha : Composed texts names a) :
      Composed texts names (withScope v a)

namespace Composed

variable {texts names : String → Prop} {a : RenderM Unit}

theorem miss (strict : Bool) (name : String) : Composed texts names (miss strict name) := by
  cases strict with
  | true => exact .missing name
  | false => exact .skip

theorem forItems (ha : Composed texts names a) (items : List Value) :
    Composed texts names (forItems a items) := by
  induction items with
  | nil => exact .skip
  | cons v vs ih => exact .seq (.scope v ha) ih

theorem forValue (ha : Composed texts names a) (v : Value) :
    Composed texts names (forValue a v) := by
  unfold Rendering.forValue
  cases v.asList? with
  | some items => exact ha.forItems items
  | none => exact .scope v ha

section Nodes

variable {incl : String → RenderM Unit}

mutual

/-- A node is rendered by a composition of what it and the nodes inside it use, if its partials
are. -/
theorem renderNode (strict : Bool) : ∀ node : Node,
    (∀ part ∈ node.parts, part.Uses texts names) →
    (∀ name, .inclusion name ∈ node.parts → Composed texts names (incl name)) →
    Composed texts names (renderNode strict incl node)
  | .text t, hu, _ => .write (hu _ (Node.mem_parts_self _))
  | .interpolation name escaped, hu, _ => by
    obtain ⟨hname, htext⟩ := hu _ (Node.mem_parts_self _)
    refine .look hname fun v => ?_
    cases v with
    | some v => exact .write (htext v)
    | none => exact miss strict name
  | .block name true body, hu, hi => by
    refine .look (hu _ (Node.mem_parts_self _)) fun v => ?_
    have hb : Composed texts names (Rendering.renderNodes strict incl body) :=
      renderNodes strict body (fun part hp => hu part (List.mem_cons_of_mem _ hp))
        fun name hn => hi name (List.mem_cons_of_mem _ hn)
    cases v with
    | some v =>
      cases hv : v.isTruthy with
      | true => simpa [hv] using skip
      | false => simpa [hv] using hb
    | none => exact hb
  | .block name false body, hu, hi => by
    refine .look (hu _ (Node.mem_parts_self _)) fun v => ?_
    have hb : Composed texts names (Rendering.renderNodes strict incl body) :=
      renderNodes strict body (fun part hp => hu part (List.mem_cons_of_mem _ hp))
        fun name hn => hi name (List.mem_cons_of_mem _ hn)
    cases v with
    | some v =>
      cases hv : v.isTruthy with
      | true => simpa [hv] using hb.forValue v
      | false => simpa [hv] using skip
    | none => exact miss strict name
  | .comment _, _, _ => .skip
  | .inclusion name, _, hi => hi name (Node.mem_parts_self _)

/-- Nodes are rendered by a composition of what they and the nodes inside them use, if their
partials are. -/
theorem renderNodes (strict : Bool) : ∀ nodes : List Node,
    (∀ part ∈ Node.partsOf nodes, part.Uses texts names) →
    (∀ name, .inclusion name ∈ Node.partsOf nodes → Composed texts names (incl name)) →
    Composed texts names (renderNodes strict incl nodes)
  | [], _, _ => .skip
  | node :: nodes, hu, hi =>
    .seq
      (renderNode strict node (fun part hp => hu part (List.mem_append_left _ hp))
        fun name hn => hi name (List.mem_append_left _ hn))
      (renderNodes strict nodes (fun part hp => hu part (List.mem_append_right _ hp))
        fun name hn => hi name (List.mem_append_right _ hn))

end

end Nodes

/-- **A rendering is a composition** of what the nodes use that it can reach. -/
theorem renderAt (depth : Nat) (resolver : Resolver) (strict : Bool) (nodes : List Node)
    (h : ∀ node, CanReach depth resolver nodes node → node.Uses texts names) :
    Composed texts names (renderAt depth resolver strict nodes) := by
  induction depth using induction_on_depth generalizing resolver strict nodes with
  | step depth ih =>
    rw [renderAt_eq]
    refine renderNodes strict nodes (fun part hp => h part (.inl hp)) fun name hn => ?_
    cases hr : resolver name with
    | none =>
      rw [includeAt_of_none hr]
      exact .skip
    | some t =>
      by_cases hd : depth < inclusionLimit
      · rw [includeAt_of_some hr hd]
        exact ih hd _ _ _ fun node hn' => h node (.of_partial hn hr hd hn')
      · rw [includeAt_of_le hr (Nat.not_lt.1 hd)]
        exact .tooDeep name

end Composed

/-- Any rendering is a composition, whatever it writes and looks up. -/
theorem composed_renderAt (depth : Nat) (resolver : Resolver) (strict : Bool) (nodes : List Node) :
    Composed (fun _ => True) (fun _ => True) (renderAt depth resolver strict nodes) :=
  .renderAt depth resolver strict nodes fun node _ => by cases node <;> simp [Node.Uses]

/-! ## Properties of all renderings -/

/-- **Properties that compositions keep**: those of the actions that renderings are made of which
every way to put actions together preserves. -/
structure Composable (P : RenderM Unit → Prop) : Prop where
  /-- Nothing is done. -/
  skip : P (pure ())
  /-- A text is written. -/
  write (text : String) : P (write text)
  /-- A name stands for nothing. -/
  missing (name : String) : P (throw (.missing name))
  /-- A partial stands too deep. -/
  tooDeep (name : String) : P (throw (.partialDepth name inclusionLimit))
  /-- One action follows another. -/
  seq {a b : RenderM Unit} (ha : P a) (hb : P b) : P (a >>= fun _ => b)
  /-- What an action is hangs on the value of a name. -/
  look (name : String) {f : Option Value → RenderM Unit} (hf : ∀ v, P (f v)) :
    P (lookup name >>= f)
  /-- An action happens inside a scope. -/
  scope (v : Value) {a : RenderM Unit} (ha : P a) : P (withScope v a)

namespace Composable

variable {P : RenderM Unit → Prop}

/-- A property that compositions keep holds of all compositions. -/
theorem of_composed (hP : Composable P) {texts names : String → Prop} {a : RenderM Unit}
    (h : Composed texts names a) : P a := by
  induction h with
  | skip => exact hP.skip
  | @write text _ => exact hP.write text
  | missing name => exact hP.missing name
  | tooDeep name => exact hP.tooDeep name
  | seq _ _ iha ihb => exact hP.seq iha ihb
  | @look name _ f _ ih => exact hP.look name ih
  | scope v _ ih => exact hP.scope v ih

/-- **A property that compositions keep holds of all renderings.** -/
theorem renderAt (hP : Composable P) (depth : Nat) (resolver : Resolver) (strict : Bool)
    (nodes : List Node) : P (renderAt depth resolver strict nodes) :=
  hP.of_composed (composed_renderAt depth resolver strict nodes)

/-- **A property that compositions keep holds of all partials.** -/
theorem includeAt (hP : Composable P) (depth : Nat) (resolver : Resolver) (name : String) :
    P (includeAt depth resolver name) := by
  cases hr : resolver name with
  | none =>
    rw [includeAt_of_none hr]
    exact hP.skip
  | some t =>
    by_cases hd : depth < inclusionLimit
    · rw [includeAt_of_some hr hd]
      exact hP.renderAt _ _ _ t.nodes
    · rw [includeAt_of_le hr (Nat.not_lt.1 hd)]
      exact hP.tooDeep name

end Composable

/-! ## Output and scopes -/

/-- What the action writes comes behind what was written before, whether it succeeds or not. -/
def Grows (a : RenderM Unit) : Prop := ∀ s : State, s.sink.Precedes (Outcome.state (a s)).sink

/-- The action leaves the scopes as it found them, whether it succeeds or not. -/
def Restores (a : RenderM Unit) : Prop := ∀ s : State, (Outcome.state (a s)).scopes = s.scopes

/-- **What every write does to the sink**, a rendering does to it: it relates the sink at the start to
the one at the end, whether the rendering succeeds or not. -/
theorem composable_sink {rel : Sink → Sink → Prop} (hrefl : ∀ sink, rel sink sink)
    (htrans : ∀ {a b c}, rel a b → rel b c → rel a c)
    (hwrite : ∀ (sink : Sink) bytes, rel sink (sink.write bytes).2) :
    Composable fun a => ∀ s : State, rel s.sink (Outcome.state (a s)).sink where
  skip s := hrefl s.sink
  write text s := by
    have hw := hwrite s.sink text.toUTF8
    obtain ⟨sink, hs, h⟩ | ⟨fault, sink, hs, h⟩ := write_cases text s
    · rw [hs] at hw
      rw [h]
      exact hw
    · rw [hs] at hw
      rw [h]
      exact hw
  missing name s := hrefl s.sink
  tooDeep name s := hrefl s.sink
  seq {a b} ha hb s := by
    have hs := ha s
    cases h : a s with
    | ok x s' =>
      rw [h] at hs
      rw [bind_of_ok h]
      exact htrans hs (hb s')
    | error e s' =>
      rw [h] at hs
      rw [bind_of_error h]
      exact hs
  look name f hf s := hf (s.scopes.lookup name) s
  scope v a ha s := by
    rw [state_withScope]
    exact ha { s with scopes := s.scopes.push v }

/-- Renderings only add to the output. -/
theorem composable_grows : Composable Grows :=
  composable_sink .refl .trans Sink.precedes_write

/-- Renderings leave the scopes as they found them. -/
theorem composable_restores : Composable Restores where
  skip s := rfl
  write text s := by
    obtain ⟨sink, -, h⟩ | ⟨fault, sink, -, h⟩ := write_cases text s <;> rw [h] <;> rfl
  missing name s := rfl
  tooDeep name s := rfl
  seq {a b} ha hb s := by
    have hs := ha s
    cases h : a s with
    | ok x s' =>
      rw [h] at hs
      rw [bind_of_ok h, hb s']
      exact hs
    | error e s' =>
      rw [h] at hs
      rw [bind_of_error h]
      exact hs
  look name f hf s := hf (s.scopes.lookup name) s
  scope v a ha s := by
    rw [state_withScope]
    exact congrArg Scopes.pop (ha { s with scopes := s.scopes.push v })

end Rendering

end Mustache
