import Mustache.Proofs.Html
import Mustache.Proofs.Rendering.Composition

/-! # Output
A rendering into a sink that refuses nothing adds texts to it as wholes, one after the other, and it
adds no other texts than its nodes use (`Composed.writes`). So what holds of these texts and of
texts put together holds of the output. One such fact is that markup comes into an output from the
texts of templates only: the texts of values are escaped. -/

namespace Mustache

/-- Whether the sink takes everything. -/
def Sink.Unlimited (sink : Sink) : Prop := ∀ handed bytes, sink.refusal? handed bytes = none

theorem Sink.unlimited_unbounded : Sink.unbounded.Unlimited := fun _ _ => rfl

namespace Rendering

/-! ## Outputs as texts one after the other -/

/-- The action adds some of these texts to a sink without a limit, one after the other, whether it
succeeds or not. -/
def Writes (texts : String → Prop) (a : RenderM Unit) : Prop :=
  ∀ s : State, s.sink.Unlimited →
    (Outcome.state (a s)).sink.Unlimited ∧
      ∃ ts : List String, (∀ t ∈ ts, texts t) ∧
        (Outcome.state (a s)).sink.written = s.sink.written ++ (String.join ts).toUTF8

/-- An action that leaves the sink alone adds no texts. -/
theorem writes_nothing {texts : String → Prop} {a : RenderM Unit}
    (h : ∀ s, (Outcome.state (a s)).sink = s.sink) : Writes texts a := by
  intro s hs
  rw [h s]
  exact ⟨hs, [], by simp, by simp [String.join_nil]⟩

/-- **Compositions write the texts that they are made of.** -/
theorem Composed.writes {texts names : String → Prop} {a : RenderM Unit}
    (h : Composed texts names a) : Writes texts a := by
  induction h with
  | skip => exact writes_nothing fun s => rfl
  | missing name => exact writes_nothing fun s => rfl
  | tooDeep name => exact writes_nothing fun s => rfl
  | @write text htext =>
    intro s hs
    have hw := Sink.write_of_refusal?_eq_none (hs s.sink.handed text.toUTF8)
    rw [write_of_ok hw]
    exact ⟨hs, [text], by simpa using htext, by simp [String.join_cons, String.join_nil]⟩
  | @seq a b _ _ iha ihb =>
    intro s hs
    obtain ⟨hlimit, ts, hts, hwritten⟩ := iha s hs
    cases ha : a s with
    | ok x t =>
      rw [ha, Outcome.state_ok] at hlimit hwritten
      obtain ⟨hlimit', ts', hts', hwritten'⟩ := ihb t hlimit
      rw [bind_of_ok ha]
      refine ⟨hlimit', ts ++ ts', ?_, ?_⟩
      · intro u hu
        rcases List.mem_append.1 hu with hu | hu
        · exact hts u hu
        · exact hts' u hu
      · rw [hwritten', hwritten, ByteArray.append_assoc]
        simp only [String.toUTF8_eq_toByteArray, String.join_append, String.toByteArray_append]
    | error e t =>
      rw [ha, Outcome.state_error] at hlimit hwritten
      rw [bind_of_error ha]
      exact ⟨hlimit, ts, hts, hwritten⟩
  | @look name _ f _ ih =>
    intro s hs
    rw [lookup_bind]
    exact ih (s.scopes.lookup name) s hs
  | @scope v a _ ih =>
    intro s hs
    rw [state_withScope]
    exact ih { s with scopes := s.scopes.push v } hs

/-- **An output without a limit is made of the texts that the rendering uses**, also when the
rendering fails. -/
theorem exists_written {depth : Nat} {resolver : Resolver} {nodes : List Node}
    {texts names : String → Prop}
    (h : ∀ node, CanReach depth resolver nodes node → node.Uses texts names) (strict : Bool)
    (scopes : Scopes) :
    ∃ ts : List String, (∀ t ∈ ts, texts t) ∧
      (run (renderAt depth resolver strict nodes) ⟨scopes, .unbounded⟩).2.sink.written =
        (String.join ts).toUTF8 := by
  have hcomposed := Composed.renderAt depth resolver strict nodes h
  obtain ⟨-, ts, hts, hwritten⟩ := hcomposed.writes ⟨scopes, .unbounded⟩ Sink.unlimited_unbounded
  refine ⟨ts, hts, ?_⟩
  rw [snd_run, hwritten]
  exact ByteArray.empty_append

/-! ## Markup in outputs -/

/-- **Values bring no markup into an output**: where all tags escape and no text of a template has a
character of markup, the output is a text without such characters; and where no text of a template
has an ampersand either, every ampersand in the output begins an entity. -/
theorem run_renderAt_escaped {depth : Nat} {resolver : Resolver} {nodes : List Node}
    (htags : ∀ name, ¬ CanReach depth resolver nodes (.interpolation name false))
    (htexts : ∀ t, CanReach depth resolver nodes (.text t) → Html.Inert t.toList)
    (strict : Bool) (scopes : Scopes) :
    ∃ output : String,
      (run (renderAt depth resolver strict nodes) ⟨scopes, .unbounded⟩).2.sink.written =
        output.toUTF8 ∧
      Html.Inert output.toList ∧
      ((∀ t, CanReach depth resolver nodes (.text t) → '&' ∉ t.toList) →
        Html.Referential output.toList) := by
  -- of the tags only the escaped form of a text is known
  have huses : ∀ node, CanReach depth resolver nodes node →
      node.Uses (fun t => CanReach depth resolver nodes (.text t) ∨ ∃ s, t = Html.escape s)
        (fun _ => True) := by
    intro node hreach
    cases node with
    | text t => exact .inl hreach
    | interpolation name escaped =>
      cases escaped with
      | true => exact ⟨trivial, fun v => .inr ⟨v.text, rfl⟩⟩
      | false => exact absurd hreach (htags name)
    | block name inverted body => trivial
    | comment t => trivial
    | inclusion name => trivial
  obtain ⟨ts, hts, hwritten⟩ := exists_written huses strict scopes
  refine ⟨String.join ts, hwritten, Html.inert_join ?_, fun hamp => Html.referential_join ?_⟩
  · intro t ht
    rcases hts t ht with hreach | ⟨s, rfl⟩
    · exact htexts t hreach
    · exact Html.inert_escape s
  · intro t ht
    rcases hts t ht with hreach | ⟨s, rfl⟩
    · exact .of_not_mem (hamp t hreach)
    · exact Html.referential_escape s

/-- A page with a list of links, for values that try to end an attribute and to open a script. The
partial of the second link fails for want of a title. -/
theorem run_renderAt_links :
    let page : List Node := [.text "Links: ", .block "links" false [.inclusion "link"]]
    let link : Template :=
      ⟨"link", [.interpolation "." true, .interpolation "title" true], [], true⟩
    let links : Value := .list [.map [("'><script>", .str "\"&"), ("title", .bytes "</b>".toUTF8)],
      .record "<r>" [("&lt;", .list [.str "a'b"])]]
    (∀ name, ¬ CanReach 63 (only link) page (.interpolation name false)) ∧
      (∀ t, CanReach 63 (only link) page (.text t) → Html.Inert t.toList) ∧
      (∀ t, CanReach 63 (only link) page (.text t) → '&' ∉ t.toList) ∧
      ∃ output : String,
        (run (renderAt 63 (only link) false page)
          ⟨[.map [("links", links)]], .unbounded⟩).2.sink.written = output.toUTF8 ∧
        Html.Inert output.toList ∧ Html.Referential output.toList := by
  intro page link links
  have hreach : ∀ {node}, CanReach 63 (only link) page node →
      node ∈ Node.partsOf page ++ Node.partsOf link.nodes := by
    intro node h
    exact h.mem_of_only (by simp [link, Node.parts])
  have htags : ∀ name, ¬ CanReach 63 (only link) page (.interpolation name false) := by
    intro name h
    simpa [page, link, Node.parts] using hreach h
  have htext : ∀ t, CanReach 63 (only link) page (.text t) → t = "Links: " := by
    intro t h
    simpa [page, link, Node.parts] using hreach h
  have hinert : ∀ t, CanReach 63 (only link) page (.text t) → Html.Inert t.toList := by
    intro t h
    rw [htext t h]
    decide
  have hamp : ∀ t, CanReach 63 (only link) page (.text t) → '&' ∉ t.toList := by
    intro t h
    rw [htext t h]
    decide
  obtain ⟨output, hwritten, hinert', hreferential⟩ :=
    run_renderAt_escaped htags hinert false [.map [("links", links)]]
  exact ⟨htags, hinert, hamp, output, hwritten, hinert', hreferential hamp⟩

end Rendering

end Mustache
