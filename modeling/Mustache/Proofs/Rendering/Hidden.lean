import Mustache.Proofs.Rendering.SideBySide

/-! # Hidden members
A member of a scope that no name of a template begins with has no influence on a rendering: not on
the output, not on the result, and not on what the partials do. The first component of a name is all
that is looked up among the scopes, and a section adds the same value to both stacks. So two
renderings whose stacks differ in such a member go on side by side (`Composed.blindTo`). A single
dot would show the whole scope and must not occur. -/

namespace Mustache

/-- The name that a node looks up among the scopes. -/
def Node.subject? : Node → Option String
  | interpolation name _ => some name
  | block name _ _ => some name
  | _ => none

namespace Rendering

/-! ## Renderings side by side -/

/-- Two states have the same output. -/
abbrev SameSink (s s' : State) : Prop := s.sink = s'.sink

/-- The action ends the same from states that differ only in the members called `k`. -/
def BlindTo (k : String) (a : RenderM Unit) : Prop :=
  ∀ s s' : State, s.sink = s'.sink → s.scopes.AgreeBut k s'.scopes →
    SameEnd SameSink (a s) (a s')

/-- **Compositions are blind to members** with which no name begins that they look up. -/
theorem Composed.blindTo {texts : String → Prop} {k : String} {a : RenderM Unit}
    (h : Composed texts (fun name => name ≠ "." ∧ Scopes.head name ≠ k) a) : BlindTo k a := by
  induction h with
  | skip => exact fun s s' hsink _ => .ok hsink
  | missing name => exact fun s s' hsink _ => .error hsink
  | tooDeep name => exact fun s s' hsink _ => .error hsink
  | @write text _ =>
    intro s s' hsink _
    obtain ⟨sink, hw, hs⟩ | ⟨fault, sink, hw, hs⟩ := write_cases text s
    · rw [hsink] at hw
      rw [hs, write_of_ok hw]
      exact .ok rfl
    · rw [hsink] at hw
      rw [hs, write_of_error hw]
      exact .error rfl
  | @seq a b ha _ iha ihb =>
    intro s s' hsink hscopes
    obtain ⟨t, t', hs, hs', hsame⟩ | ⟨e, t, t', hs, hs', hsame⟩ := (iha s s' hsink hscopes).cases
    · -- the second action begins with the scopes that the first one found
      have hrest := composable_restores.of_composed ha s
      have hrest' := composable_restores.of_composed ha s'
      rw [hs, Outcome.state_ok] at hrest
      rw [hs', Outcome.state_ok] at hrest'
      rw [← hrest, ← hrest'] at hscopes
      rw [bind_of_ok hs, bind_of_ok hs']
      exact ihb t t' hsame hscopes
    · rw [bind_of_error hs, bind_of_error hs']
      exact .error hsame
  | @look name hname f _ ih =>
    intro s s' hsink hscopes
    rw [lookup_bind, lookup_bind, Scopes.lookup_congr hname.1 (hscopes _ hname.2)]
    exact ih _ s s' hsink hscopes
  | @scope v a _ ih =>
    intro s s' hsink hscopes
    obtain ⟨t, t', hs, hs', hsame⟩ | ⟨e, t, t', hs, hs', hsame⟩ :=
      (ih { s with scopes := s.scopes.push v } { s' with scopes := s'.scopes.push v } hsink
        (hscopes.push v)).cases
    · rw [withScope_of_ok hs, withScope_of_ok hs']
      exact .ok hsame
    · rw [withScope_of_error hs, withScope_of_error hs']
      exact .error hsame

/-! ## Members that no name begins with -/

/-- **A member of a scope that is not named is invisible**: where every name that the rendering can
look up begins otherwise, and none is a single dot, the entry of the member in a map among the
scopes can be another one, or be missing, and the result and the output are the same. -/
theorem run_renderAt_hidden {depth : Nat} {resolver : Resolver} {nodes : List Node} {k : String}
    {entries entries' : Entries Value}
    (hk : ∀ name, name ≠ k → Entries.get? entries name = Entries.get? entries' name)
    (hnames : ∀ node name, CanReach depth resolver nodes node → node.subject? = some name →
      name ≠ "." ∧ Scopes.head name ≠ k)
    (strict : Bool) (inner outer : Scopes) (sink : Sink) :
    (run (renderAt depth resolver strict nodes) ⟨inner ++ .map entries :: outer, sink⟩).map
        id State.sink =
      (run (renderAt depth resolver strict nodes) ⟨inner ++ .map entries' :: outer, sink⟩).map
        id State.sink := by
  have huses : ∀ node, CanReach depth resolver nodes node →
      node.Uses (fun _ => True) (fun name => name ≠ "." ∧ Scopes.head name ≠ k) := by
    intro node hreach
    cases node with
    | text t => trivial
    | interpolation name escaped => exact ⟨hnames _ name hreach rfl, fun _ => trivial⟩
    | block name inverted body => exact hnames _ name hreach rfl
    | comment t => trivial
    | inclusion name => trivial
  have hblind := (Composed.renderAt depth resolver strict nodes huses).blindTo
  have hend := hblind ⟨inner ++ .map entries :: outer, sink⟩ ⟨inner ++ .map entries' :: outer, sink⟩
    rfl (Scopes.agreeBut_map hk inner outer)
  obtain ⟨t, t', hs, hs', hsame⟩ | ⟨e, t, t', hs, hs', hsame⟩ := hend.cases
  · rw [run_of_ok hs, run_of_ok hs', Prod.map, Prod.map, hsame]
  · rw [run_of_error hs, run_of_error hs', Prod.map, Prod.map, hsame]

/-- A password that is put among the data of a page does not show, neither in the section of a user
that has a member of this name nor in a partial. -/
theorem run_renderAt_password :
    let user : Entries Value := [("name", .str "Ada"), ("password", .null)]
    let page : List Node := [.block "user" false
      [.interpolation "name" true, .interpolation "user.password" true, .inclusion "footer"],
      .interpolation ".password" false]
    let footer : Template := ⟨"footer", [.block ".." true [.text "."]], [], true⟩
    let entries : Entries Value := [("user", .map user)]
    let entries' : Entries Value := Entries.insert "password" (.str "secret") entries
    (∀ name, name ≠ "password" → Entries.get? entries name = Entries.get? entries' name) ∧
      (∀ node name, CanReach 0 (only footer) page node → node.subject? = some name →
        name ≠ "." ∧ Scopes.head name ≠ "password") ∧
      (run (renderAt 0 (only footer) true page) ⟨[.map entries], .bounded 5⟩).map id State.sink =
        (run (renderAt 0 (only footer) true page) ⟨[.map entries'], .bounded 5⟩).map
          id State.sink := by
  intro user page footer entries entries'
  have hk : ∀ name, name ≠ "password" →
      Entries.get? entries name = Entries.get? entries' name := by
    intro name hname
    rw [Entries.get?_insert, if_neg hname]
  have hall : ∀ node ∈ Node.partsOf page ++ Node.partsOf footer.nodes, ∀ name ∈ node.subject?,
      name ≠ "." ∧ Scopes.head name ≠ "password" := by decide
  have hnames : ∀ node name, CanReach 0 (only footer) page node → node.subject? = some name →
      name ≠ "." ∧ Scopes.head name ≠ "password" := by
    intro node name hreach hname
    exact hall node (hreach.mem_of_only (by simp [footer, Node.parts])) name hname
  exact ⟨hk, hnames, run_renderAt_hidden hk hnames true [] [] (.bounded 5)⟩

end Rendering

end Mustache
