import Mustache.Proofs.Rendering.Output

/-! # Output into a limited room
A rendering that runs out of room has written the beginning of what it writes without a limit, as
much as fits, and nothing comes after the write that did not fit (`Template.render_limited`). Two
runs go on side by side until then, with the same output (`Rendering.Alongside`). From then on only
the one without a limit goes on, and it only adds to its output, so what the other one has written
stays the beginning of it (`Rendering.CutOff`). -/

namespace Mustache

/-! ## Sinks with limited room -/

/-- The first bytes of an array that has no more of them. -/
theorem extract_of_size_le {bytes : ByteArray} {n : Nat} (h : bytes.size ≤ n) :
    bytes.extract 0 n = bytes := by
  have hmax := @ByteArray.extract_zero_max_size bytes n
  rwa [Nat.max_eq_left h] at hmax

namespace Sink

/-- A sink with room for `room` bytes. Of a write that does not fit it takes what fits, and it gives
`fault` as the reason why no more. -/
def limited (room : Nat) (fault : IoFault) : Sink where
  written := ByteArray.empty
  handed := []
  refusal? handed bytes :=
    if bytes.size ≤ roomAfter room handed then none else some (roomAfter room handed, fault)

/-- A sink that is merely full at its limit is one of these. -/
theorem bounded_eq_limited (room : Nat) : bounded room = limited room .full := rfl

variable {room : Nat} {fault : IoFault}

/-- A write takes room away. -/
theorem roomAfter_cons (room : Nat) (bytes : ByteArray) (handed : List ByteArray) :
    roomAfter room (bytes :: handed) = roomAfter room handed - bytes.size := by
  have hcomm (left : Nat) :
      roomAfter (left - bytes.size) handed = roomAfter left handed - bytes.size := by
    induction handed generalizing left with
    | nil => rfl
    | cons b handed ih =>
      show roomAfter (left - bytes.size - b.size) handed = roomAfter (left - b.size) handed - _
      rw [Nat.sub_right_comm, ih]
  exact hcomm room

/-- **A limited sink beside an unlimited one** to which the same was written: all of it has found
room. -/
structure HoldsAll (room : Nat) (fault : IoFault) (full cut : Sink) : Prop where
  /-- The one sink takes everything. -/
  unlimited : full.Unlimited
  /-- The other one is limited. -/
  refusal : cut.refusal? = (limited room fault).refusal?
  /-- Both have taken the same. -/
  written : cut.written = full.written
  /-- What was taken and the room that is left make up the room at the start. -/
  room : full.written.size + roomAfter room cut.handed = room

theorem HoldsAll.start (room : Nat) (fault : IoFault) :
    HoldsAll room fault unbounded (limited room fault) :=
  ⟨unlimited_unbounded, rfl, rfl, Nat.zero_add room⟩

variable {full cut : Sink}

/-- A write that fits is taken by both sinks. -/
theorem HoldsAll.write_of_le (h : HoldsAll room fault full cut) {bytes : ByteArray}
    (hfits : bytes.size ≤ roomAfter room cut.handed) :
    ∃ full' cut', full.write bytes = (.ok (), full') ∧ cut.write bytes = (.ok (), cut') ∧
      HoldsAll room fault full' cut' := by
  have hfull := write_of_refusal?_eq_none (h.unlimited full.handed bytes)
  have hnone : cut.refusal? cut.handed bytes = none := by
    rw [h.refusal]
    exact if_pos hfits
  refine ⟨_, _, hfull, write_of_refusal?_eq_none hnone, ?_⟩
  refine ⟨h.unlimited, h.refusal, congrArg (· ++ bytes) h.written, ?_⟩
  have hroom := h.room
  rw [roomAfter_cons, ByteArray.size_append]
  omega

/-- Of a write that does not fit the limited sink takes the beginning, as much as there is room
for. -/
theorem HoldsAll.write_of_lt (h : HoldsAll room fault full cut) {bytes : ByteArray}
    (hlong : roomAfter room cut.handed < bytes.size) :
    ∃ full' cut', full.write bytes = (.ok (), full') ∧ cut.write bytes = (.error fault, cut') ∧
      room < full'.written.size ∧ cut'.written = full'.written.extract 0 room := by
  have hfull := write_of_refusal?_eq_none (h.unlimited full.handed bytes)
  have hsome : cut.refusal? cut.handed bytes = some (roomAfter room cut.handed, fault) := by
    rw [h.refusal]
    exact if_neg (Nat.not_le.2 hlong)
  have hroom := h.room
  refine ⟨_, _, hfull, write_of_refusal?_eq_some hsome, ?_, ?_⟩
  · show room < (full.written ++ bytes).size
    rw [ByteArray.size_append]
    omega
  · -- the first bytes are those that were there, and as many of the new ones as there is room for
    show cut.written ++ bytes.extract 0 (roomAfter room cut.handed) =
      (full.written ++ bytes).extract 0 room
    have hleft : room - full.written.size = roomAfter room cut.handed := by omega
    have hall : full.written.extract 0 room = full.written := extract_of_size_le (by omega)
    rw [ByteArray.extract_append, Nat.zero_sub, hleft, hall, h.written]

end Sink

namespace Rendering

/-! ## Renderings side by side -/

variable {room : Nat} {fault : IoFault}

/-- **The same place in two renderings**, one of which is into a limited sink: the scopes are the
same, and all output has found room. -/
structure Alongside (room : Nat) (fault : IoFault) (s s' : State) : Prop where
  /-- The scopes are the same. -/
  scopes : s.scopes = s'.scopes
  /-- All output has found room. -/
  sinks : s.sink.HoldsAll room fault s'.sink

/-- **How a rendering without a limit ends beside a limited one.** -/
inductive CutOff (room : Nat) (fault : IoFault) : Outcome → Outcome → Prop where
  /-- Both succeed. -/
  | ok {s s' : State} (h : Alongside room fault s s') : CutOff room fault (.ok () s) (.ok () s')
  /-- Both fail with the same error. -/
  | error {e : Error} {s s' : State} (h : Alongside room fault s s') :
      CutOff room fault (.error e s) (.error e s')
  /-- There is not enough room: the limited rendering ends with the beginning of the output. -/
  | full {o : Outcome} {s' : State} (hlong : room < o.state.sink.written.size)
      (hw : s'.sink.written = o.state.sink.written.extract 0 room) :
      CutOff room fault o (.error (.io fault) s')

/-- What comes behind the output that found no room changes nothing any more. -/
theorem CutOff.full_of_precedes {o : Outcome} {s s' : State}
    (hlong : room < s.sink.written.size) (hw : s'.sink.written = s.sink.written.extract 0 room)
    (h : s.sink.Precedes o.state.sink) : CutOff room fault o (.error (.io fault) s') := by
  obtain ⟨more, hmore⟩ := h
  refine .full ?_ ?_
  · rw [hmore, ByteArray.size_append]
    omega
  · have hnone : room - s.sink.written.size = 0 := by omega
    rw [hw, hmore, ByteArray.extract_append, hnone, Nat.zero_sub, ByteArray.extract_same,
      ByteArray.append_empty]

/-- An action behind another one that is cut off is cut off. -/
theorem CutOff.bind {a b : RenderM Unit} {s s' : State} (ha : CutOff room fault (a s) (a s'))
    (hgrows : Grows b)
    (hb : ∀ t t', Alongside room fault t t' → CutOff room fault (b t) (b t')) :
    CutOff room fault ((a >>= fun _ => b) s) ((a >>= fun _ => b) s') := by
  generalize ho : a s = o at ha
  generalize ho' : a s' = o' at ha
  cases ha with
  | ok h =>
    rw [bind_of_ok ho, bind_of_ok ho']
    exact hb _ _ h
  | error h =>
    rw [bind_of_error ho, bind_of_error ho']
    exact .error h
  | full hlong hw =>
    -- the run into the limited sink is over, while the other one goes on
    rw [bind_of_error ho']
    cases o with
    | ok x t =>
      rw [bind_of_ok ho]
      exact .full_of_precedes hlong hw (hgrows t)
    | error e t =>
      rw [bind_of_error ho]
      exact .full hlong hw

/-- An action inside a scope is cut off as it is with that scope. -/
theorem CutOff.withScope {v : Value} {a : RenderM Unit} {s s' : State}
    (h : CutOff room fault (a { s with scopes := s.scopes.push v })
      (a { s' with scopes := s'.scopes.push v })) :
    CutOff room fault (withScope v a s) (withScope v a s') := by
  generalize ho : a { s with scopes := s.scopes.push v } = o at h
  generalize ho' : a { s' with scopes := s'.scopes.push v } = o' at h
  cases h with
  | ok h =>
    rw [withScope_of_ok ho, withScope_of_ok ho']
    exact .ok ⟨congrArg Scopes.pop h.scopes, h.sinks⟩
  | error h =>
    rw [withScope_of_error ho, withScope_of_error ho']
    exact .error ⟨congrArg Scopes.pop h.scopes, h.sinks⟩
  | full hlong hw =>
    rw [withScope_of_error ho']
    refine .full ?_ ?_
    · rw [state_withScope, ho]
      exact hlong
    · rw [state_withScope, ho]
      exact hw

/-- **Compositions are cut off where their output finds no room.** -/
theorem Composed.cutOff {texts names : String → Prop} {a : RenderM Unit}
    (h : Composed texts names a) (s s' : State) (hs : Alongside room fault s s') :
    CutOff room fault (a s) (a s') := by
  induction h generalizing s s' with
  | skip => exact .ok hs
  | missing name => exact .error hs
  | tooDeep name => exact .error hs
  | @write text _ =>
    by_cases hfits : text.toUTF8.size ≤ Sink.roomAfter room s'.sink.handed
    · obtain ⟨full, cut, hw, hw', hsinks⟩ := hs.sinks.write_of_le hfits
      rw [write_of_ok hw, write_of_ok hw']
      exact .ok ⟨hs.scopes, hsinks⟩
    · obtain ⟨full, cut, hw, hw', hlong, hcut⟩ := hs.sinks.write_of_lt (Nat.not_le.1 hfits)
      rw [write_of_ok hw, write_of_error hw']
      exact .full hlong hcut
  | seq _ hb iha ihb => exact (iha s s' hs).bind (composable_grows.of_composed hb) ihb
  | @look name _ f _ ih =>
    rw [lookup_bind, lookup_bind, ← hs.scopes]
    exact ih _ s s' hs
  | @scope v a _ ih =>
    refine .withScope (ih _ _ ⟨?_, hs.sinks⟩)
    exact congrArg (Scopes.push · v) hs.scopes

/-! ## Endings -/

/-- **One ending is another one cut to a room**: of its output as much is there as finds room, and
its result is the same if that is all of it, and the fault of the sink otherwise. -/
structure CutTo (room : Nat) (fault : IoFault) (full cut : Except Error Unit × Sink) : Prop where
  /-- The first bytes are there, as many as there is room for. -/
  written : cut.2.written = full.2.written.extract 0 (min room full.2.written.size)
  /-- The result tells whether these are all bytes. -/
  result : cut.1 = if full.2.written.size ≤ room then full.1 else .error (.io fault)

/-- Output that finds room is not cut. -/
theorem CutTo.of_holdsAll {result : Except Error Unit} {full cut : Sink}
    (h : full.HoldsAll room fault cut) : CutTo room fault (result, full) (result, cut) := by
  have hroom := h.room
  have hle : full.written.size ≤ room := by omega
  refine ⟨?_, (if_pos hle).symm⟩
  show cut.written = full.written.extract 0 (min room full.written.size)
  rw [Nat.min_eq_right hle, ByteArray.extract_zero_size, h.written]

/-- Output that finds no room is cut to what finds room. -/
theorem CutTo.of_lt {result : Except Error Unit} {full cut : Sink}
    (hlong : room < full.written.size) (hw : cut.written = full.written.extract 0 room) :
    CutTo room fault (result, full) (.error (.io fault), cut) := by
  refine ⟨?_, (if_neg (Nat.not_le.2 hlong)).symm⟩
  show cut.written = full.written.extract 0 (min room full.written.size)
  rw [Nat.min_eq_left (Nat.le_of_lt hlong), hw]

/-- The endings of an action that is cut off. -/
theorem CutOff.cutTo_run {a : RenderM Unit} {s s' : State} (h : CutOff room fault (a s) (a s')) :
    CutTo room fault ((run a s).1, (run a s).2.sink) ((run a s').1, (run a s').2.sink) := by
  generalize ho : a s = o at h
  generalize ho' : a s' = o' at h
  cases h with
  | ok h =>
    rw [run_of_ok ho, run_of_ok ho']
    exact .of_holdsAll h.sinks
  | error h =>
    rw [run_of_error ho, run_of_error ho']
    exact .of_holdsAll h.sinks
  | full hlong hw =>
    rw [run_of_error ho', snd_run, ho]
    exact .of_lt hlong hw

end Rendering

/-! ## Whole templates -/

namespace Template

open Rendering

/-- A rendering for a stack of values, beside one into a limited sink. -/
theorem cutTo_renderStack (t : Template) (outer : Resolver) (values : List Value) (room : Nat)
    (fault : IoFault) :
    CutTo room fault (t.renderStack outer values .unbounded)
      (t.renderStack outer values (.limited room fault)) :=
  have hcut := (composed_renderAt 0 (t.within outer) t.strict t.nodes).cutOff
    ⟨Scopes.ofOutermost values, .unbounded⟩ ⟨Scopes.ofOutermost values, .limited room fault⟩
    ⟨rfl, .start room fault⟩
  hcut.cutTo_run

/-- **Rendering into a limited room.** Whatever the template, its partials and the values or data,
a sink with room for `room` bytes gets the first bytes of the output, as many as find room and no
others. If these are all bytes, then the result is that of the rendering without a limit, be it an
error of the template or not; otherwise it is the fault of the sink. -/
theorem render_limited (t : Template) (outer : Resolver) (room : Nat) (fault : IoFault) :
    (∀ values, CutTo room fault (t.renderStack outer values .unbounded)
      (t.renderStack outer values (.limited room fault))) ∧
    ∀ data, CutTo room fault (t.render outer data .unbounded)
      (t.render outer data (.limited room fault)) := by
  refine ⟨fun values => t.cutTo_renderStack outer values room fault, fun data => ?_⟩
  unfold render
  cases Value.ofData data with
  | ok v => exact t.cutTo_renderStack outer [v] room fault
  | error fault' => exact .of_holdsAll (.start room fault)

/-- The room ends inside a character, and the name that is missing behind it is not come to. -/
example :
    let t : Template := ⟨"", [.text "é", .interpolation "a" true], [], true⟩
    let ending := t.render (fun _ => none) .unit (.bounded 1)
    ending.2.written.toList = [0xC3] ∧
      (match ending.1 with
        | .ok () => ""
        | .error e => e.message) = "I/O error: failed to write whole buffer" := by decide +kernel

end Template

end Mustache
