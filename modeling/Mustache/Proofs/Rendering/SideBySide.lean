import Mustache.Proofs.Rendering.Composition
import Mustache.Proofs.Value.Alike

/-! # Renderings side by side
Two renderings of the same nodes do the same but for three things: the values that they find, the
rule about missing names and what becomes of partials. So a relation between actions that holds for
these, and that every way to put actions together keeps (`Compatible`), holds of the whole
renderings (`Compatible.renderNodes`). The values that are found may differ as long as no tag can
tell them apart (`Indistinct`). The nodes need not even be the same, as long as the bodies of a
section are related (`Compatible.block`). -/

namespace Mustache.Rendering

/-! ## The same end -/

/-- **Two actions end with the same result**, and the states that they leave behind are related. -/
inductive SameEnd (S : State → State → Prop) : Outcome → Outcome → Prop where
  /-- Both succeed. -/
  | ok {s s' : State} (h : S s s') : SameEnd S (.ok () s) (.ok () s')
  /-- Both fail with the same error. -/
  | error {e : Error} {s s' : State} (h : S s s') : SameEnd S (.error e s) (.error e s')

theorem SameEnd.cases {S : State → State → Prop} {o o' : Outcome} (h : SameEnd S o o') :
    (∃ t t', o = .ok () t ∧ o' = .ok () t' ∧ S t t') ∨
      ∃ e t t', o = .error e t ∧ o' = .error e t' ∧ S t t' := by
  cases h with
  | @ok t t' h => exact .inl ⟨t, t', rfl, rfl, h⟩
  | @error e t t' h => exact .inr ⟨e, t, t', rfl, rfl, h⟩

/-! ## Relations between actions -/

/-- **Values that no tag can tell apart**: they have the same text, count as true both or neither,
and are lists of such values both or neither. -/
structure Indistinct (V : Value → Value → Prop) : Prop where
  /-- They have the same text. -/
  text_eq {v v' : Value} (h : V v v') : v.text = v'.text
  /-- They count as true both or neither. -/
  isTruthy_eq {v v' : Value} (h : V v v') : v.isTruthy = v'.isTruthy
  /-- They are lists both or neither. -/
  asList? {v v' : Value} (h : V v v') : Option.Rel (List.Forall₂ V) v.asList? v'.asList?

/-- A value cannot be told apart from itself. -/
theorem indistinct_eq : Indistinct Eq where
  text_eq h := congrArg _ h
  isTruthy_eq h := congrArg _ h
  asList? h := by
    rw [h]
    exact rel_refl (fun _ => List.forall₂_same.2 fun _ _ => rfl) _

/-- **Relations that compositions keep**, where the values on both sides are in the relation `V`:
every action that both renderings do is related to itself, and related actions are put together to
related ones. -/
structure Compatible (V : Value → Value → Prop) (R : RenderM Unit → RenderM Unit → Prop) : Prop
    extends Indistinct V where
  /-- Nothing is done. -/
  skip : R (pure ()) (pure ())
  /-- A text is written. -/
  write (text : String) : R (write text) (write text)
  /-- One action follows another. -/
  seq {a a' b b' : RenderM Unit} (ha : R a a') (hb : R b b') :
    R (a >>= fun _ => b) (a' >>= fun _ => b')
  /-- What an action is hangs on the value of a name. -/
  look (name : String) {f f' : Option Value → RenderM Unit}
    (hf : ∀ o o', Option.Rel V o o' → R (f o) (f' o')) : R (lookup name >>= f) (lookup name >>= f')
  /-- An action happens inside a scope. -/
  scope {v v' : Value} (hv : V v v') {a a' : RenderM Unit} (ha : R a a') :
    R (withScope v a) (withScope v' a')

/-- Where the same values are found, actions are related as soon as they are so for each value. -/
theorem related_of_rel_eq {R : RenderM Unit → RenderM Unit → Prop}
    {f f' : Option Value → RenderM Unit} (hf : ∀ o o', Option.Rel Eq o o' → R (f o) (f' o'))
    (o : Option Value) : R (f o) (f' o) :=
  hf o o (rel_refl (fun _ => rfl) o)

/-- Nodes behind others are rendered behind them. -/
theorem renderNodes_append (strict : Bool) (incl : String → RenderM Unit)
    (nodes nodes' : List Node) :
    renderNodes strict incl (nodes ++ nodes') =
      renderNodes strict incl nodes >>= fun _ => renderNodes strict incl nodes' := by
  induction nodes with
  | nil => rfl
  | cons node nodes ih =>
    rw [List.cons_append, renderNodes, renderNodes, ih, bind_assoc]

namespace Compatible

variable {V : Value → Value → Prop} {R : RenderM Unit → RenderM Unit → Prop}

section Values

variable {a a' : RenderM Unit}

theorem forItems (hR : Compatible V R) (ha : R a a') {items items' : List Value}
    (h : List.Forall₂ V items items') : R (forItems a items) (forItems a' items') := by
  induction h with
  | nil => exact hR.skip
  | cons hv _ ih => exact hR.seq (hR.scope hv ha) ih

theorem forValue (hR : Compatible V R) (ha : R a a') {v v' : Value} (hv : V v v') :
    R (forValue a v) (forValue a' v') := by
  have hlist := hR.asList? hv
  unfold Rendering.forValue
  generalize v.asList? = o at hlist ⊢
  generalize v'.asList? = o' at hlist ⊢
  cases hlist with
  | some hitems => exact hR.forItems ha hitems
  | none => exact hR.scope hv ha

end Values

section Nodes

variable {strict strict' : Bool} {incl incl' : String → RenderM Unit}

/-- Sections with the same tags and related bodies are related. -/
theorem block (hR : Compatible V R) (hmiss : ∀ name, R (miss strict name) (miss strict' name))
    {body body' : List Node}
    (hb : R (renderNodes strict incl body) (renderNodes strict' incl' body')) (name : String)
    (inverted : Bool) :
    R (renderNode strict incl (.block name inverted body))
      (renderNode strict' incl' (.block name inverted body')) := by
  cases inverted with
  | true =>
    refine hR.look name fun o o' ho => ?_
    cases ho with
    | @some v v' hv =>
      have htruth := hR.isTruthy_eq hv
      cases hv' : v'.isTruthy with
      | true => simpa [htruth, hv'] using hR.skip
      | false => simpa [htruth, hv'] using hb
    | none => exact hb
  | false =>
    refine hR.look name fun o o' ho => ?_
    cases ho with
    | @some v v' hv =>
      have htruth := hR.isTruthy_eq hv
      cases hv' : v'.isTruthy with
      | true => simpa [htruth, hv'] using hR.forValue hb hv
      | false => simpa [htruth, hv'] using hR.skip
    | none => exact hmiss name

mutual

/-- A node is rendered to related actions, if that holds of its partials and missing names. -/
theorem renderNode (hR : Compatible V R)
    (hmiss : ∀ name, R (miss strict name) (miss strict' name)) : ∀ node : Node,
    (∀ name, .inclusion name ∈ node.parts → R (incl name) (incl' name)) →
    R (renderNode strict incl node) (renderNode strict' incl' node)
  | .text t, _ => hR.write t
  | .interpolation name escaped, _ => by
    refine hR.look name fun o o' ho => ?_
    cases ho with
    | @some v v' hv =>
      simp only [hR.text_eq hv]
      exact hR.write _
    | none => exact hmiss name
  | .block name inverted body, hi =>
    hR.block hmiss (renderNodes hR hmiss body fun n hn => hi n (List.mem_cons_of_mem _ hn)) name
      inverted
  | .comment _, _ => hR.skip
  | .inclusion name, hi => hi name (Node.mem_parts_self _)

/-- **Nodes are rendered to related actions**, if that holds of their partials and missing names. -/
theorem renderNodes (hR : Compatible V R)
    (hmiss : ∀ name, R (miss strict name) (miss strict' name)) : ∀ nodes : List Node,
    (∀ name, .inclusion name ∈ Node.partsOf nodes → R (incl name) (incl' name)) →
    R (renderNodes strict incl nodes) (renderNodes strict' incl' nodes)
  | [], _ => hR.skip
  | node :: nodes, hi =>
    hR.seq (renderNode hR hmiss node fun n hn => hi n (List.mem_append_left _ hn))
      (renderNodes hR hmiss nodes fun n hn => hi n (List.mem_append_right _ hn))

end

end Nodes

end Compatible

end Mustache.Rendering
