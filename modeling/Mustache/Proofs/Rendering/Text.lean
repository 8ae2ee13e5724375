import Mustache.Proofs.Rendering.Output
import Mustache.Proofs.Text.Utf8

/-! # Renderings write text
Every write of a rendering is that of a text, so whatever the data hold, the output is the UTF-8
form of a text at any time (`Rendering.exists_written_eq_toUTF8`). Reading it as one cannot fail:
rendering to a text and rendering to bytes differ in nothing else than this reading
(`Template.render_writes_text`). -/

namespace Mustache

namespace Rendering

/-- **An output is the UTF-8 form of a text**, also when the rendering fails. -/
theorem exists_written_eq_toUTF8 (depth : Nat) (resolver : Resolver) (strict : Bool)
    (nodes : List Node) (scopes : Scopes) :
    ∃ output : String,
      (run (renderAt depth resolver strict nodes) ⟨scopes, .unbounded⟩).2.sink.written =
        output.toUTF8 := by
  -- nothing is asked of the texts that are written but that they are texts
  have huses : ∀ node, CanReach depth resolver nodes node →
      node.Uses (fun _ => True) (fun _ => True) := by
    intro node _
    cases node <;> simp [Node.Uses]
  obtain ⟨ts, -, hwritten⟩ := exists_written huses strict scopes
  exact ⟨String.join ts, hwritten⟩

end Rendering

namespace Template

open Rendering

variable (t : Template) (outer : Resolver)

/-- A template writes text for any values. -/
theorem exists_renderStack_written (values : List Value) :
    ∃ output : String, (t.renderStack outer values .unbounded).2.written = output.toUTF8 :=
  exists_written_eq_toUTF8 0 (t.within outer) t.strict t.nodes (Scopes.ofOutermost values)

/-- A template writes text for any data, nothing if they have no value. -/
theorem exists_render_written (data : Data) :
    ∃ output : String, (t.render outer data .unbounded).2.written = output.toUTF8 := by
  unfold render
  cases Value.ofData data with
  | ok v => exact t.exists_renderStack_written outer [v]
  | error fault => exact ⟨"", rfl⟩

/-- Rendering to bytes ends as rendering to a sink without a limit, with what that holds. -/
theorem renderBytes_eq (data : Data) :
    t.renderBytes outer data =
      (t.render outer data .unbounded).1.map fun _ => (t.render outer data .unbounded).2.written :=
  rfl

/-- What is rendered to bytes is the UTF-8 form of a text. -/
theorem exists_eq_toUTF8_of_renderBytes {data : Data} {bytes : ByteArray}
    (h : t.renderBytes outer data = .ok bytes) : ∃ text : String, bytes = text.toUTF8 := by
  obtain ⟨output, hwritten⟩ := t.exists_render_written outer data
  rw [renderBytes_eq] at h
  cases hresult : (t.render outer data .unbounded).1 with
  | ok _ =>
    rw [hresult] at h
    cases h
    exact ⟨output, hwritten⟩
  | error e =>
    rw [hresult] at h
    cases h

/-- Bytes that are the UTF-8 form of a text are rendered to this text. -/
theorem renderText_of_renderBytes {data : Data} {text : String}
    (h : t.renderBytes outer data = .ok text.toUTF8) : t.renderText outer data = .ok text := by
  simp only [renderText, h, bind, Except.bind, Utf8.decode_toUTF8]
  rfl

/-- A rendering to bytes that fails is a rendering to text that fails. -/
theorem renderText_of_renderBytes_error {data : Data} {e : Error}
    (h : t.renderBytes outer data = .error e) : t.renderText outer data = .error e := by
  simp only [renderText, h, bind, Except.bind]

/-- **Renderings write text**, whatever bytes the data hold.

* What is written to a sink without a limit is the UTF-8 form of a text, whether the rendering
  succeeds or not: for nodes anywhere inside partials, and for a template with values or data.
* Rendering to bytes gives what is written to such a sink, or fails with the same error.
* Bytes that are rendered can be read as a text, so rendering to a text gives the text of the bytes,
  and it fails exactly when rendering to bytes fails, with the same error. -/
theorem render_writes_text :
    (∀ depth resolver strict nodes scopes, ∃ output : String,
      (run (renderAt depth resolver strict nodes) ⟨scopes, .unbounded⟩).2.sink.written =
        output.toUTF8) ∧
    (∀ values, ∃ output : String,
      (t.renderStack outer values .unbounded).2.written = output.toUTF8) ∧
    ∀ data, (∃ output : String, (t.render outer data .unbounded).2.written = output.toUTF8) ∧
      (t.renderBytes outer data =
        (t.render outer data .unbounded).1.map fun _ =>
          (t.render outer data .unbounded).2.written) ∧
      (∀ bytes, t.renderBytes outer data = .ok bytes → ∃ text, Utf8.decode bytes = .ok text) ∧
      (∀ text, t.renderText outer data = .ok text ↔
        t.renderBytes outer data = .ok text.toUTF8) ∧
      ∀ e, t.renderText outer data = .error e ↔ t.renderBytes outer data = .error e := by
  refine ⟨exists_written_eq_toUTF8, t.exists_renderStack_written outer, fun data => ?_⟩
  refine ⟨t.exists_render_written outer data, t.renderBytes_eq outer data, ?_, ?_⟩
  · intro bytes h
    obtain ⟨text, rfl⟩ := t.exists_eq_toUTF8_of_renderBytes outer h
    exact ⟨text, Utf8.decode_toUTF8 text⟩
  · -- the two ends of a rendering to bytes, of which the first is the end of the other one
    cases hbytes : t.renderBytes outer data with
    | ok bytes =>
      obtain ⟨output, rfl⟩ := t.exists_eq_toUTF8_of_renderBytes outer hbytes
      rw [t.renderText_of_renderBytes outer hbytes]
      refine ⟨fun text => ?_, fun e => iff_of_false nofun nofun⟩
      simp only [Except.ok.injEq, String.toUTF8_eq_toByteArray, String.toByteArray_inj]
    | error e =>
      rw [t.renderText_of_renderBytes_error outer hbytes]
      refine ⟨fun text => iff_of_false nofun nofun, fun e' => ?_⟩
      simp only [Except.error.injEq]

/-- Bytes that are no UTF-8 are written with a replacement character for each fault. -/
example :
    let t : Template := ⟨"", [.text "é", .interpolation "a" false], [], false⟩
    (t.render (fun _ => none) (.record "" [("a", .bytes ⟨#[0xC3, 0x28]⟩)]) .unbounded).2.written =
      "é\ufffd(".toUTF8 := by decide +kernel

end Template

end Mustache
