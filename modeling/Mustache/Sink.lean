import Mustache.Error

/-! # Sinks
A `Sink` takes output. What it makes of some bytes may hang on everything that was handed to it
before: it takes all of them, or it takes the first few and gives the reason why it takes no more.
Two kinds are at hand, sinks without a limit and sinks with room for a number of bytes. -/

namespace Mustache

/-- A place for output. -/
structure Sink where
  /-- What has been written. -/
  written : ByteArray
  /-- The bytes of the writes so far, the latest first, whether they were taken or not. -/
  handed : List ByteArray
  /-- What becomes of some bytes after these writes: if not all of them are taken, how many are and
  the reason why no more. -/
  refusal? : List ByteArray → ByteArray → Option (Nat × IoFault)

namespace Sink

/-- A sink without a limit. -/
def unbounded : Sink := ⟨ByteArray.empty, [], fun _ _ => none⟩

/-- The room that is left of `room` bytes after some writes. -/
def roomAfter (room : Nat) (handed : List ByteArray) : Nat :=
  handed.foldl (fun left bytes => left - bytes.size) room

/-- A sink with room for `room` bytes. Of a write that does not fit it takes what fits. -/
def bounded (room : Nat) : Sink where
  written := ByteArray.empty
  handed := []
  refusal? handed bytes :=
    if bytes.size ≤ roomAfter room handed then none else some (roomAfter room handed, .full)

/-- Writes bytes, as far as they are taken. -/
def write (sink : Sink) (bytes : ByteArray) : Except IoFault Unit × Sink :=
  match sink.refusal? sink.handed bytes with
  | none => (.ok (), ⟨sink.written ++ bytes, bytes :: sink.handed, sink.refusal?⟩)
  | some (taken, fault) =>
    (.error fault,
      ⟨sink.written ++ bytes.extract 0 taken, bytes :: sink.handed, sink.refusal?⟩)

/-- A write that is not refused goes through as a whole. -/
theorem write_of_refusal?_eq_none {sink : Sink} {bytes : ByteArray}
    (h : sink.refusal? sink.handed bytes = none) :
    sink.write bytes = (.ok (), ⟨sink.written ++ bytes, bytes :: sink.handed, sink.refusal?⟩) := by
  simp only [write, h]

/-- Of a write that is refused a part goes through. -/
theorem write_of_refusal?_eq_some {sink : Sink} {bytes : ByteArray} {taken : Nat} {fault : IoFault}
    (h : sink.refusal? sink.handed bytes = some (taken, fault)) :
    sink.write bytes = (.error fault,
      ⟨sink.written ++ bytes.extract 0 taken, bytes :: sink.handed, sink.refusal?⟩) := by
  simp only [write, h]

end Sink

end Mustache
