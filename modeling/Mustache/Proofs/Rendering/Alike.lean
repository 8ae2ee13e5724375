import Mustache.Proofs.Rendering.SideBySide

/-! # Renderings and the order of entries
Two stacks of values that are the same but for the order in which their maps hold the entries are
rendered side by side: each name stands for such values in both, these look the same, and a section
adds such values to both stacks. So both renderings end alike and write the same
(`Template.renderStack_alike`). -/

namespace Mustache

namespace Rendering

/-- **States that are the same but for the order of entries**: with the same output, and such values
in the scopes. -/
structure State.Alike (s s' : State) : Prop where
  /-- The output is the same. -/
  sink_eq : s.sink = s'.sink
  /-- The values are the same but for the order. -/
  scopes : s.scopes.Alike s'.scopes

/-- From such states the actions come to the same end, and to such states. -/
def EndAlike (a a' : RenderM Unit) : Prop :=
  ∀ s s' : State, s.Alike s' → SameEnd State.Alike (a s) (a' s')

namespace EndAlike

variable {a a' b b' : RenderM Unit}

/-- What does nothing but fail does so in all states. -/
theorem throw (e : Error) : EndAlike (throw e) (throw e) := fun _ _ h => .error h

theorem skip : EndAlike (pure ()) (pure ()) := fun _ _ h => .ok h

theorem write (text : String) : EndAlike (write text) (write text) := by
  intro s s' h
  obtain ⟨sink, hw, hs⟩ | ⟨fault, sink, hw, hs⟩ := write_cases text s
  · rw [h.sink_eq] at hw
    rw [hs, write_of_ok hw]
    exact .ok ⟨rfl, h.scopes⟩
  · rw [h.sink_eq] at hw
    rw [hs, write_of_error hw]
    exact .error ⟨rfl, h.scopes⟩

theorem seq (ha : EndAlike a a') (hb : EndAlike b b') :
    EndAlike (a >>= fun _ => b) (a' >>= fun _ => b') := by
  intro s s' h
  obtain ⟨t, t', hs, hs', ht⟩ | ⟨e, t, t', hs, hs', ht⟩ := (ha s s' h).cases
  · rw [bind_of_ok hs, bind_of_ok hs']
    exact hb t t' ht
  · rw [bind_of_error hs, bind_of_error hs']
    exact .error ht

/-- A name stands for values that are the same but for the order. -/
theorem look (name : String) {f f' : Option Value → RenderM Unit}
    (hf : ∀ o o', Option.Rel Value.Alike o o' → EndAlike (f o) (f' o')) :
    EndAlike (lookup name >>= f) (lookup name >>= f') := by
  intro s s' h
  rw [lookup_bind, lookup_bind]
  exact hf _ _ (Scopes.lookup_alike h.scopes name) s s' h

/-- Such values are added to the stacks and taken away again. -/
theorem scope {v v' : Value} (hv : v.Alike v') (ha : EndAlike a a') :
    EndAlike (withScope v a) (withScope v' a') := by
  intro s s' h
  obtain ⟨t, t', hs, hs', ht⟩ | ⟨e, t, t', hs, hs', ht⟩ :=
    (ha { s with scopes := s.scopes.push v } { s' with scopes := s'.scopes.push v' }
      ⟨h.sink_eq, .cons hv h.scopes⟩).cases
  · rw [withScope_of_ok hs, withScope_of_ok hs']
    exact .ok ⟨ht.sink_eq, Scopes.pop_alike ht.scopes⟩
  · rw [withScope_of_error hs, withScope_of_error hs']
    exact .error ⟨ht.sink_eq, Scopes.pop_alike ht.scopes⟩

/-- Actions are put together to such actions, whatever the order of entries in the values. -/
theorem compatible : Compatible Value.Alike EndAlike where
  text_eq := Value.Alike.text_eq
  isTruthy_eq := Value.Alike.isTruthy_eq
  asList? := Value.Alike.asList?
  skip := skip
  write := write
  seq := seq
  look := look
  scope hv _ _ ha := scope hv ha

theorem miss (strict : Bool) (name : String) :
    EndAlike (miss strict name) (miss strict name) := by
  cases strict with
  | true => exact throw (.missing name)
  | false => exact skip

/-- **Nodes are rendered alike**, at any depth and with any resolver. -/
theorem renderAt (depth : Nat) (resolver : Resolver) (strict : Bool) (nodes : List Node) :
    EndAlike (renderAt depth resolver strict nodes) (renderAt depth resolver strict nodes) := by
  induction depth using induction_on_depth generalizing resolver strict nodes with
  | step depth ih =>
    rw [renderAt_eq]
    refine compatible.renderNodes (miss strict) nodes fun name _ => ?_
    cases hr : resolver name with
    | none =>
      rw [includeAt_of_none hr]
      exact skip
    | some t =>
      by_cases hd : depth < inclusionLimit
      · rw [includeAt_of_some hr hd]
        exact ih hd _ _ _
      · rw [includeAt_of_le hr (Nat.not_lt.1 hd)]
        exact throw _

end EndAlike

end Rendering

/-- **The order of entries in the values does not show.** For stacks of values that are the same but
for this order, in any maps at any depth, every template ends alike, with the same output, in any
sink. -/
theorem Template.renderStack_alike (t : Template) (outer : Resolver) {values values' : List Value}
    (h : List.Forall₂ Value.Alike values values') (sink : Sink) :
    t.renderStack outer values sink = t.renderStack outer values' sink := by
  have hend := Rendering.EndAlike.renderAt 0 (t.within outer) t.strict t.nodes
    ⟨Scopes.ofOutermost values, sink⟩ ⟨Scopes.ofOutermost values', sink⟩
    ⟨rfl, List.forall₂_reverse_iff.2 h⟩
  unfold Template.renderStack Rendering.run
  obtain ⟨s, s', hs, hs', hsame⟩ | ⟨e, s, s', hs, hs', hsame⟩ := hend.cases
  · rw [hs, hs']
    exact congrArg _ hsame.sink_eq
  · rw [hs, hs']
    exact congrArg _ hsame.sink_eq

end Mustache
