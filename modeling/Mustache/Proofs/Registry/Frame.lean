import Mustache.Proofs.Registry.Transparency
import Mustache.Proofs.Rendering.SideBySide

/-! # What a rendering needs of a registry
Partials are looked for in the registry as it stands when their tags come up. A name for which no
template has a tag that a rendering can enter is never looked for (`Rendering.Avoids`), so it makes
no difference what stands under it: not even when it is the name of the template that is rendered,
which may be held while its entry is replaced or removed. -/

namespace Mustache

/-- **A template mentions a partial**: it has a tag for the partial, or one of its own partials
mentions it. -/
inductive Template.Mentions (name : String) : Template → Prop where
  /-- There is a tag among the nodes. -/
  | tag {t : Template} (h : .inclusion name ∈ Node.partsOf t.nodes) : Mentions name t
  /-- A partial of the template mentions it. -/
  | own {t u : Template} {n : String} (hu : t.ownPartial? n = some u) (h : Mentions name u) :
      Mentions name t

/-- A template without partials of its own mentions those for which it has tags. -/
theorem Template.mentions_iff_of_partials_eq_nil {t : Template} (h : t.partials = [])
    (name : String) : t.Mentions name ↔ .inclusion name ∈ Node.partsOf t.nodes := by
  constructor
  · intro hm
    cases hm with
    | tag h => exact h
    | own hu _ =>
      rw [ownPartial?, h] at hu
      cases hu
  · exact .tag

namespace Rendering

/-! ## A name that is never looked for -/

/-- **Two resolvers that differ under one name only**, while no template under another name mentions
it. -/
structure Avoids (name : String) (resolver resolver' : Resolver) : Prop where
  /-- They find the same under all other names. -/
  agree : ∀ n, n ≠ name → resolver n = resolver' n
  /-- What they find there does not mention the name. -/
  silent : ∀ n t, n ≠ name → resolver n = some t → ¬ t.Mentions name

variable {name : String} {resolver resolver' : Resolver}

/-- In a template that does not mention the name the same holds. -/
theorem Avoids.within (h : Avoids name resolver resolver') {t : Template}
    (ht : ¬ t.Mentions name) : Avoids name (t.within resolver) (t.within resolver') := by
  refine ⟨fun n hn => ?_, fun n u hn hu => ?_⟩
  · rw [Template.within_apply, Template.within_apply, h.agree n hn]
  · -- a partial of the template comes before what the resolver finds
    rw [Template.within_apply] at hu
    cases hown : t.ownPartial? n with
    | some own =>
      rw [hown] at hu
      cases hu
      exact fun hm => ht (.own hown hm)
    | none =>
      rw [hown] at hu
      exact h.silent n u hn hu

/-- Actions are put together to the same action from the same ones. -/
theorem compatible_eq : Compatible Eq (· = ·) where
  toIndistinct := indistinct_eq
  skip := rfl
  write _ := rfl
  seq ha hb := by rw [ha, hb]
  look _ _ _ hf := by rw [funext (related_of_rel_eq hf)]
  scope hv _ _ ha := by rw [hv, ha]

/-- **A name that is never looked for** makes no difference to a rendering, at any depth. -/
theorem Avoids.renderAt_eq (h : Avoids name resolver resolver') {nodes : List Node}
    (hnodes : .inclusion name ∉ Node.partsOf nodes) (depth : Nat) (strict : Bool) :
    renderAt depth resolver strict nodes = renderAt depth resolver' strict nodes := by
  induction depth using induction_on_depth generalizing resolver resolver' strict nodes with
  | step depth ih =>
    rw [Rendering.renderAt_eq, Rendering.renderAt_eq]
    refine compatible_eq.renderNodes (fun _ => rfl) nodes fun n hn => ?_
    have hne : n ≠ name := by
      rintro rfl
      exact hnodes hn
    have hagree := h.agree n hne
    cases hr : resolver n with
    | none => rw [includeAt_of_none hr, includeAt_of_none (hagree.symm.trans hr)]
    | some t =>
      by_cases hd : depth < inclusionLimit
      · -- the partial does not mention the name, so nothing in it looks for it either
        have ht : ¬ t.Mentions name := h.silent n t hne hr
        rw [includeAt_of_some hr hd, includeAt_of_some (hagree.symm.trans hr) hd]
        exact ih hd (h.within ht) (mt .tag ht) _
      · have hd := Nat.not_lt.1 hd
        rw [includeAt_of_le hr hd, includeAt_of_le (hagree.symm.trans hr) hd]

end Rendering

namespace Registry

open Rendering

/-! ## Calls about one name -/

/-- **A call about one name**: it registers or renders a source under the name, or removes what
stands there. -/
inductive Call.About (name : String) : Call → Prop where
  /-- A source is registered. -/
  | register (source : String) : About name (.register name source)
  /-- A template is asked for by its source. -/
  | getOrParse (source : String) : About name (.getOrParse name source)
  /-- A source is rendered. -/
  | render (source : String) (data : Data) : About name (.render name source data)
  /-- The name is removed. -/
  | remove : About name (.remove name)

variable {name n : String} {r : Registry}

/-- A source that is registered leaves all other names as they were. -/
theorem get?_perform_register (r : Registry) (source : String) (hn : n ≠ name) :
    (r.perform (.register name source)).get? n = r.get? n := by
  simp only [perform, register]
  cases hgp : r.getOrParse name source with
  | error e => rfl
  | ok answer => exact getOrParse_get?_of_ne hgp hn

/-- **One call about a name** leaves all other names as they were. -/
theorem get?_perform {call : Call} (h : call.About name) (r : Registry) (hn : n ≠ name) :
    (r.perform call).get? n = r.get? n := by
  cases h with
  | register source => exact get?_perform_register r source hn
  | getOrParse source =>
    rw [perform_getOrParse]
    exact get?_perform_register r source hn
  | render source data =>
    rw [perform_render]
    exact get?_perform_register r source hn
  | remove => exact (get?_remove r name n).trans (if_neg hn)

/-- **Any number of calls about a name** leave all other names as they were. -/
theorem get?_foldl_perform {calls : List Call} (h : ∀ call ∈ calls, call.About name)
    (r : Registry) (hn : n ≠ name) : (calls.foldl perform r).get? n = r.get? n := by
  induction calls generalizing r with
  | nil => rfl
  | cons call calls ih =>
    have hrest := ih (fun c hc => h c (List.mem_cons_of_mem call hc)) (r.perform call)
    exact hrest.trans (get?_perform (h call List.mem_cons_self) r hn)

/-- Registries that hold the same but under one name, which is mentioned under no other. -/
theorem avoids_resolver {r' : Registry} (hagree : ∀ n, n ≠ name → r'.get? n = r.get? n)
    (hsilent : ∀ n entry, n ≠ name → r.get? n = some entry → ¬ entry.template.Mentions name) :
    Avoids name r'.resolver r.resolver := by
  refine ⟨fun n hn => ?_, fun n t hn ht => ?_⟩
  · rw [resolver, resolver, hagree n hn]
  · rw [resolver, hagree n hn] at ht
    obtain ⟨entry, hentry, rfl⟩ := Option.map_eq_some_iff.1 ht
    exact hsilent n entry hn hentry

/-- **The frame of a registry.** No template under another name mentions this one, and neither does
the template `t`, wherever it comes from. Then sources may be registered and rendered under the name
and what stands there may be removed, as often as one likes: rendering `t` ends with the same result
and the same output, for all values and any sink. -/
theorem renderStack_frame {t : Template} (ht : ¬ t.Mentions name)
    (hsilent : ∀ n entry, n ≠ name → r.get? n = some entry → ¬ entry.template.Mentions name)
    {calls : List Call} (hcalls : ∀ call ∈ calls, call.About name) (values : List Value)
    (sink : Sink) :
    t.renderStack (calls.foldl perform r).resolver values sink =
      t.renderStack r.resolver values sink := by
  have havoids : Avoids name (calls.foldl perform r).resolver r.resolver :=
    avoids_resolver (fun n hn => get?_foldl_perform hcalls r hn) hsilent
  unfold Template.renderStack
  rw [(havoids.within ht).renderAt_eq (mt .tag ht)]

/-- A page that was taken from the registry is rendered as before when another page has been put in
its place and has been removed again. -/
theorem renderStack_frame_held :
    let page : Template := ⟨"page", [.text "<", .block "." false [.inclusion "row"]], [], false⟩
    let row : Template := ⟨"row", [.interpolation "." true, .inclusion "rule"], [], true⟩
    let r := ((empty.insert "page" "" page).2.insert "row" "" row).2
    let calls : List Call := [.register "page" "\x7b\x7b>page\x7d\x7d", .remove "page"]
    ((r.get? "page").map (·.template) = some page ∧ ¬ page.Mentions "page" ∧
      (∀ n entry, n ≠ "page" → r.get? n = some entry → ¬ entry.template.Mentions "page") ∧
      ∀ call ∈ calls, call.About "page") ∧
    page.renderStack (calls.foldl perform r).resolver [.str "a"] (.bounded 2) =
      page.renderStack r.resolver [.str "a"] (.bounded 2) := by
  intro page row r calls
  have hpage : ¬ page.Mentions "page" := by
    rw [Template.mentions_iff_of_partials_eq_nil rfl]
    simp [page, Node.parts]
  have hrow : ¬ row.Mentions "page" := by
    rw [Template.mentions_iff_of_partials_eq_nil rfl]
    simp [row, Node.parts]
  have hsilent : ∀ n entry, n ≠ "page" → r.get? n = some entry →
      ¬ entry.template.Mentions "page" := by
    intro n entry hn hentry
    rw [get?_insert, get?_insert, if_neg hn] at hentry
    split at hentry
    · cases hentry
      exact hrow
    · cases hentry
  have hcalls : ∀ call ∈ calls, call.About "page" :=
    List.forall_mem_cons.2 ⟨.register _, List.forall_mem_cons.2 ⟨.remove, by simp⟩⟩
  exact ⟨⟨rfl, hpage, hsilent, hcalls⟩, renderStack_frame hpage hsilent hcalls _ _⟩

end Registry

end Mustache
