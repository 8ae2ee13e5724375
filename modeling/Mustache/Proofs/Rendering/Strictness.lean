import Mustache.Proofs.Rendering.SideBySide

/-! # Strict and silent renderings
A name that stands for nothing is an error in a strict rendering and writes nothing in a silent one.
Up to the first such name the two do the same. A partial has its own rule for missing names, so the
two do the same inside of it as well, and an inverted section asks no rule at all. Hence the two
renderings end alike, or the strict one stops at a missing name behind a part of what the silent one
writes (`strict_or_silent`). -/

namespace Mustache.Rendering

/-- **How a strict rendering ends beside a silent one**: in the same way, or at a missing name with
a part of its output. -/
inductive StopsShort : Outcome → Outcome → Prop where
  /-- Both end alike. -/
  | same (o : Outcome) : StopsShort o o
  /-- The strict one stops at a missing name. -/
  | missed {name : String} {s : State} {o : Outcome} (h : s.sink.Precedes o.state.sink) :
      StopsShort (.error (.missing name) s) o

/-- A strict action beside a silent one, from every state; the silent one only adds to the
output. -/
structure Beside (strict silent : RenderM Unit) : Prop where
  /-- The strict action ends like the silent one, or stops short. -/
  stopsShort (s : State) : StopsShort (strict s) (silent s)
  /-- The silent action only adds to the output. -/
  grows : Grows silent

namespace Beside

/-- An action is beside itself if it only adds to the output. -/
theorem refl {a : RenderM Unit} (ha : Grows a) : Beside a a :=
  ⟨fun s => .same (a s), ha⟩

theorem skip : Beside (pure ()) (pure ()) := refl composable_grows.skip

theorem write (text : String) : Beside (write text) (write text) :=
  refl (composable_grows.write text)

/-- At a missing name the strict action stops, and the silent one does nothing. -/
theorem miss (name : String) : Beside (miss true name) (miss false name) :=
  ⟨fun s => .missed (.refl s.sink), fun s => .refl s.sink⟩

theorem seq {a b c d : RenderM Unit} (hab : Beside a b) (hcd : Beside c d) :
    Beside (a >>= fun _ => c) (b >>= fun _ => d) := by
  refine ⟨fun s => ?_, composable_grows.seq hab.grows hcd.grows⟩
  have hs := hab.stopsShort s
  generalize ha : a s = strict at hs
  generalize hb : b s = silent at hs
  cases hs with
  | same =>
    cases strict with
    | ok x s' =>
      rw [bind_of_ok ha, bind_of_ok hb]
      exact hcd.stopsShort s'
    | error e s' =>
      rw [bind_of_error ha, bind_of_error hb]
      exact .same _
  | missed h =>
    -- the strict run is over, while the silent one writes more behind the common part
    rw [bind_of_error ha]
    cases silent with
    | ok x s' =>
      rw [bind_of_ok hb]
      exact .missed (h.trans (hcd.grows s'))
    | error e s' =>
      rw [bind_of_error hb]
      exact .missed h

theorem look (name : String) {f g : Option Value → RenderM Unit} (h : ∀ v, Beside (f v) (g v)) :
    Beside (lookup name >>= f) (lookup name >>= g) :=
  ⟨fun s => (h (s.scopes.lookup name)).stopsShort s,
    fun s => (h (s.scopes.lookup name)).grows s⟩

theorem scope (v : Value) {a b : RenderM Unit} (h : Beside a b) :
    Beside (withScope v a) (withScope v b) := by
  refine ⟨fun s => ?_, composable_grows.scope v h.grows⟩
  have hs := h.stopsShort { s with scopes := s.scopes.push v }
  generalize ha : a { s with scopes := s.scopes.push v } = strict at hs
  generalize hb : b { s with scopes := s.scopes.push v } = silent at hs
  cases hs with
  | same =>
    cases strict with
    | ok x s' =>
      rw [withScope_of_ok ha, withScope_of_ok hb]
      exact .same _
    | error e s' =>
      rw [withScope_of_error ha, withScope_of_error hb]
      exact .same _
  | missed h =>
    rw [withScope_of_error ha]
    cases silent with
    | ok x s' =>
      rw [withScope_of_ok hb]
      exact .missed h
    | error e s' =>
      rw [withScope_of_error hb]
      exact .missed h

/-- Actions that are beside each other are put together to such actions. -/
theorem compatible : Compatible Eq Beside where
  toIndistinct := indistinct_eq
  skip := skip
  write := write
  seq := seq
  look name _ _ hf := look name (related_of_rel_eq hf)
  scope {v _} hv _ _ ha := hv ▸ scope v ha

/-- The partials at one depth are the same actions for both rules about missing names. -/
theorem renderAt (depth : Nat) (resolver : Resolver) (nodes : List Node) :
    Beside (renderAt depth resolver true nodes) (renderAt depth resolver false nodes) := by
  rw [renderAt_eq, renderAt_eq]
  exact compatible.renderNodes miss nodes fun name _ =>
    refl (composable_grows.includeAt depth resolver name)

end Beside

/-- **Strict against silent rendering**, of any nodes, at any depth, with any resolver, scopes and
sink: both end with the same result and leave the same state, or the strict one ends at a missing
name and what it wrote is the beginning of what the silent one writes. So a strict rendering that
succeeds is the silent one. -/
theorem strict_or_silent (depth : Nat) (resolver : Resolver) (nodes : List Node) (s : State) :
    let strict := run (renderAt depth resolver true nodes) s
    let silent := run (renderAt depth resolver false nodes) s
    (strict = silent ∨ ∃ name more, strict.1 = .error (.missing name) ∧
        silent.2.sink.written = strict.2.sink.written ++ more) ∧
      (strict.1 = .ok () → silent = strict) := by
  intro strict silent
  have hdiff : strict = silent ∨ ∃ name more, strict.1 = .error (.missing name) ∧
      silent.2.sink.written = strict.2.sink.written ++ more := by
    have h := (Beside.renderAt depth resolver nodes).stopsShort s
    generalize hstrict : renderAt depth resolver true nodes s = o at h
    generalize hsilent : renderAt depth resolver false nodes s = o' at h
    cases h with
    | same => exact .inl (by simp only [strict, silent, run, hstrict, hsilent])
    | @missed name s' o' h =>
      obtain ⟨more, hm⟩ := h
      refine .inr ⟨name, more, ?_, ?_⟩
      · simp only [strict, run_of_error hstrict]
      · simp only [strict, silent, run_of_error hstrict, snd_run, hsilent]
        exact hm
  refine ⟨hdiff, fun hok => ?_⟩
  rcases hdiff with heq | ⟨name, more, he, -⟩
  · exact heq.symm
  · rw [hok] at he
    cases he

end Mustache.Rendering
