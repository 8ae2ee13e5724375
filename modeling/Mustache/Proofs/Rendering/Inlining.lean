import Mustache.Proofs.Rendering.SideBySide

/-! # Partials and their nodes
The tag of a partial may give way to the nodes of the partial. What is rendered then stands one level
less deep, and so do all partials inside it; so it may succeed where the tag fails for its depth, and
apart from that nothing changes (`UnlessTooDeep`). This needs a partial without partials of its own,
which finds what the template around it finds, and with the same rule about missing names. -/

namespace Mustache.Rendering

/-! ## Renderings that are less deep -/

/-- **The end of an action that went too deep.** -/
inductive Outcome.TooDeep : Outcome → Prop where
  /-- It ends with the error for the depth of a partial. -/
  | error {name : String} {limit : Nat} {s : State} :
      TooDeep (.error (.partialDepth name limit) s)

/-- **The second action does what the first one does**, unless that goes too deep. -/
def UnlessTooDeep (a b : RenderM Unit) : Prop := ∀ s : State, Outcome.TooDeep (a s) ∨ b s = a s

theorem UnlessTooDeep.refl (a : RenderM Unit) : UnlessTooDeep a a := fun _ => .inr rfl

/-- An action that goes too deep goes too deep inside a scope. -/
theorem tooDeep_withScope {v : Value} {a : RenderM Unit} {s : State}
    (h : Outcome.TooDeep (a { s with scopes := s.scopes.push v })) :
    Outcome.TooDeep (withScope v a s) := by
  cases ha : a { s with scopes := s.scopes.push v } with
  | ok x s' =>
    rw [ha] at h
    cases h
  | error e s' =>
    rw [ha] at h
    rw [withScope_of_error ha]
    cases h
    exact .error

/-- Nothing comes behind an action that goes too deep. -/
theorem tooDeep_bind {a : RenderM Unit} {s : State} (h : Outcome.TooDeep (a s))
    (b : RenderM Unit) : Outcome.TooDeep ((a >>= fun _ => b) s) := by
  cases ha : a s with
  | ok x s' =>
    rw [ha] at h
    cases h
  | error e s' =>
    rw [ha] at h
    rw [bind_of_error ha]
    exact h

theorem compatible_unlessTooDeep : Compatible Eq UnlessTooDeep where
  toIndistinct := indistinct_eq
  skip := .refl _
  write text := .refl _
  seq {a a' b b'} ha hb s := by
    rcases ha s with h | h
    · exact .inl (tooDeep_bind h b)
    · cases hs : a s with
      | ok x s' =>
        rw [bind_of_ok hs, bind_of_ok (h.trans hs)]
        exact hb s'
      | error e s' =>
        rw [bind_of_error hs, bind_of_error (h.trans hs)]
        exact .inr rfl
  look name {f f'} hf s := related_of_rel_eq hf (s.scopes.lookup name) s
  scope {v v'} hv {a a'} ha s := by
    subst hv
    rcases ha { s with scopes := s.scopes.push v } with h | h
    · exact .inl (tooDeep_withScope h)
    · refine .inr ?_
      unfold withScope
      rw [h]

/-- **Fewer partials around some nodes** change nothing, unless their rendering goes too deep. -/
theorem renderAt_unlessTooDeep {depth depth' : Nat} (h : depth' ≤ depth) (resolver : Resolver)
    (strict : Bool) (nodes : List Node) :
    UnlessTooDeep (renderAt depth resolver strict nodes) (renderAt depth' resolver strict nodes) := by
  -- by induction on the greater depth: where it ends, the smaller one may go on
  induction depth using induction_on_depth generalizing depth' resolver strict nodes with
  | step depth ih =>
    rw [renderAt_eq, renderAt_eq]
    refine compatible_unlessTooDeep.renderNodes (fun name => .refl _) nodes fun name _ => ?_
    cases hr : resolver name with
    | none =>
      rw [includeAt_of_none hr, includeAt_of_none hr]
      exact .refl _
    | some t =>
      by_cases hd : depth < inclusionLimit
      · rw [includeAt_of_some hr hd, includeAt_of_some hr (by omega)]
        exact ih hd (Nat.succ_le_succ h) _ _ _
      · rw [includeAt_of_le hr (Nat.not_lt.1 hd)]
        exact fun s => .inl .error

/-! ## Inlining -/

/-- **One tag of a partial gives way** to other nodes, wherever it stands. -/
inductive Inlines (name : String) (inner : List Node) : List Node → List Node → Prop where
  /-- The tag stands among the nodes. -/
  | here (before behind : List Node) :
      Inlines name inner (before ++ .inclusion name :: behind) (before ++ (inner ++ behind))
  /-- The tag stands in a section. -/
  | inside (before behind : List Node) (label : String) (inverted : Bool)
      {body body' : List Node} (h : Inlines name inner body body') :
      Inlines name inner (before ++ .block label inverted body :: behind)
        (before ++ .block label inverted body' :: behind)

/-- What stands around related nodes does not matter. -/
theorem Compatible.between {R : RenderM Unit → RenderM Unit → Prop} (hR : Compatible Eq R)
    (hrefl : ∀ a, R a a) {strict : Bool} {incl : String → RenderM Unit} {nodes nodes' : List Node}
    (h : R (Rendering.renderNodes strict incl nodes) (Rendering.renderNodes strict incl nodes'))
    (before behind : List Node) :
    R (Rendering.renderNodes strict incl (before ++ (nodes ++ behind)))
      (Rendering.renderNodes strict incl (before ++ (nodes' ++ behind))) := by
  simp only [renderNodes_append]
  exact hR.seq (hrefl _) (hR.seq h (hrefl _))

/-- A single node is rendered by itself. -/
theorem renderNodes_singleton (strict : Bool) (incl : String → RenderM Unit) (node : Node) :
    renderNodes strict incl [node] = renderNode strict incl node := by
  rw [renderNodes, renderNodes, bind_pure_unit]

/-- Nodes with the tag of a partial and nodes without it are rendered to related actions, if the
partial and what it gives way to are. -/
theorem Inlines.related {R : RenderM Unit → RenderM Unit → Prop} (hR : Compatible Eq R)
    (hrefl : ∀ a, R a a) {strict : Bool} {incl : String → RenderM Unit} {name : String}
    {inner nodes nodes' : List Node} (h : Inlines name inner nodes nodes')
    (hincl : R (incl name) (renderNodes strict incl inner)) :
    R (renderNodes strict incl nodes) (renderNodes strict incl nodes') := by
  induction h with
  | here before behind =>
    have htag : R (renderNodes strict incl [.inclusion name]) (renderNodes strict incl inner) := by
      rw [renderNodes_singleton]
      exact hincl
    exact hR.between hrefl htag before behind
  | @inside before behind label inverted body body' _ ih =>
    have hblock : R (renderNodes strict incl [.block label inverted body])
        (renderNodes strict incl [.block label inverted body']) := by
      rw [renderNodes_singleton, renderNodes_singleton]
      exact hR.block (fun _ => hrefl _) ih label inverted
    exact hR.between hrefl hblock before behind

/-- A template without partials of its own finds what is found around it. -/
theorem within_of_partials_eq_nil {t : Template} (h : t.partials = []) (outer : Resolver) :
    t.within outer = outer := by
  funext name
  simp [Template.ownPartial?, h]

/-- A partial is rendered like its nodes in its place, unless that goes too deep. -/
theorem includeAt_unlessTooDeep {resolver : Resolver} {name : String} {t : Template}
    (hfound : resolver name = some t) (hpartials : t.partials = []) (depth : Nat) :
    UnlessTooDeep (includeAt depth resolver name) (renderAt depth resolver t.strict t.nodes) := by
  by_cases hd : depth < inclusionLimit
  · -- the partial finds what is found around it, and is only one level deeper
    rw [includeAt_of_some hfound hd, within_of_partials_eq_nil hpartials]
    exact renderAt_unlessTooDeep (Nat.le_succ depth) resolver t.strict t.nodes
  · rw [includeAt_of_le hfound (Nat.not_lt.1 hd)]
    exact fun s => .inl .error

/-- **A partial may give way to its nodes.** In some nodes, at any depth and for any scopes and
sink, the tag of a partial is replaced by the nodes of the template that the resolver finds for it,
which has no partials of its own and the same rule about missing names. If the rendering with the
tag does not go too deep, the other one ends with the same result and leaves the same state, so it
has written the same bytes. -/
theorem run_renderAt_inline {resolver : Resolver} {strict : Bool} {name : String} {t : Template}
    {nodes nodes' : List Node} (hfound : resolver name = some t) (hpartials : t.partials = [])
    (hstrict : t.strict = strict) (h : Inlines name t.nodes nodes nodes') {depth : Nat} {s : State}
    (hdeep : ∀ name limit,
      (run (renderAt depth resolver strict nodes) s).1 ≠ .error (.partialDepth name limit)) :
    run (renderAt depth resolver strict nodes') s = run (renderAt depth resolver strict nodes) s := by
  have hrelated : UnlessTooDeep (renderAt depth resolver strict nodes)
      (renderAt depth resolver strict nodes') := by
    have hincl := includeAt_unlessTooDeep hfound hpartials depth
    rw [hstrict, renderAt_eq] at hincl
    rw [renderAt_eq, renderAt_eq]
    exact h.related compatible_unlessTooDeep .refl hincl
  rcases hrelated s with htoo | heq
  · generalize hend : renderAt depth resolver strict nodes s = o at htoo
    cases htoo with
    | @error name limit s' => exact absurd (congrArg Prod.fst (run_of_error hend)) (hdeep name limit)
  · unfold run
    rw [heq]

/-- The branches of a tree are partials that include themselves. Where two of them find just enough
depth, the first tag may give way. -/
theorem run_renderAt_inline_tree :
    let branch : Template := ⟨"branch", [.interpolation "leaf" true,
      .block "branches" false [.inclusion "branch"]], [], false⟩
    let page : List Node :=
      [.text "|", .block "branches" false [.text "<", .inclusion "branch", .text ">"]]
    let page' : List Node := [.text "|", .block "branches" false ([.text "<"] ++
      (branch.nodes ++ [.text ">"]))]
    let twig : Value := .map [("branches", .list []), ("leaf", .str "&")]
    let tree : Value := .map [("branches", .list [.map [("branches", .list [twig]),
      ("leaf", .str "a")]])]
    let s : State := ⟨[tree], .bounded 9⟩
    (only branch "branch" = some branch ∧ branch.partials = [] ∧ branch.strict = false ∧
      Inlines "branch" branch.nodes page page' ∧
      ∀ name limit, (run (renderAt 62 (only branch) false page) s).1 ≠
        .error (.partialDepth name limit)) ∧
    run (renderAt 62 (only branch) false page') s = run (renderAt 62 (only branch) false page) s := by
  intro branch page page' twig tree s
  have hinlines : Inlines "branch" branch.nodes page page' :=
    .inside [.text "|"] [] "branches" false (.here [.text "<"] [.text ">"])
  have hok : (run (renderAt 62 (only branch) false page) s).1.toOption.isSome = true := by
    decide +kernel
  have hdeep : ∀ name limit, (run (renderAt 62 (only branch) false page) s).1 ≠
      .error (.partialDepth name limit) := by
    intro name limit h
    rw [h] at hok
    cases hok
  exact ⟨⟨rfl, rfl, rfl, hinlines, hdeep⟩, run_renderAt_inline rfl rfl rfl hinlines hdeep⟩

end Mustache.Rendering
