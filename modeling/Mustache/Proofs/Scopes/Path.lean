import Mustache.Proofs.Scopes

/-! # Names as paths
A name is a path: its components stand between its dots, and each one is a member of what the one
before it stands for. The first is looked for among the scopes, where the innermost scope that has
it decides, and the others are followed from there (`Scopes.lookup_eq_follow`). Two dots at the end
of a name add nothing to the path, since a single dot stands for the value at hand. -/

namespace Mustache

/-- What is found when members of these names are followed, one inside the other. -/
def Value.follow (v : Value) (path : List String) : Option Value := path.foldlM Value.get? v

@[simp] theorem Value.follow_nil (v : Value) : v.follow [] = some v := rfl

@[simp] theorem Value.follow_cons (v : Value) (first : String) (rest : List String) :
    v.follow (first :: rest) = (v.get? first).bind fun w => w.follow rest := rfl

namespace Scopes

/-! ## The components of a name -/

/-- The components of a name, given by its characters: what stands between its dots, but without the
two empty ones of a name with two dots at its end. -/
def componentsOf (name : List Char) : List String :=
  let parts := (name.splitOn '.').map String.ofList
  if ['.', '.'] <:+ name then parts.dropLast.dropLast else parts

/-- The components of a name. -/
def components (name : String) : List String := componentsOf name.toList

section Dots

variable {first rest : List Char}

/-- Whether a name has two dots at its end can be told from what follows its first dot, unless that
is a single dot. -/
theorem dots_suffix_iff (hfirst : '.' ∉ first) (hrest : rest ≠ ['.']) :
    ['.', '.'] <:+ first ++ '.' :: rest ↔ ['.', '.'] <:+ rest := by
  have hsuffix : rest <:+ first ++ '.' :: rest :=
    (List.suffix_cons '.' rest).trans (List.suffix_append first _)
  refine ⟨fun h => ?_, fun h => h.trans hsuffix⟩
  match rest, hrest with
  | [], _ =>
    -- one of the dots would stand before the first one
    have h : ['.'] ++ ['.'] <:+ first ++ ['.'] := h
    have hdot : ['.'] <:+ first := List.suffix_append_self_iff.1 h
    exact absurd (hdot.subset (List.mem_singleton_self _)) hfirst
  | [c], hc =>
    obtain ⟨before, h⟩ := h
    have hlast : ['.', '.'] = ['.', c] := (List.append_inj' h rfl).2
    exact absurd (List.tail_eq_of_cons_eq hlast).symm hc
  | c :: d :: rest, _ => exact List.suffix_of_suffix_length_le h hsuffix (by simp)

/-- A name without a dot is its only component. -/
theorem componentsOf_of_not_mem (h : '.' ∉ first) : componentsOf first = [String.ofList first] := by
  have hsuffix : ¬ ['.', '.'] <:+ first := fun hs => h (hs.subset (by simp))
  simp only [componentsOf, if_neg hsuffix, List.splitOn_eq_singleton h, List.map_cons, List.map_nil]

/-- A single dot behind the dot after the first component says nothing more. -/
theorem componentsOf_append_dots (h : '.' ∉ first) :
    componentsOf (first ++ ['.', '.']) = [String.ofList first] := by
  have hsplit : (first ++ ['.', '.']).splitOn '.' = [first, [], []] := by
    rw [List.splitOn_append_cons_self_of_not_mem h]
    rfl
  simp only [componentsOf, if_pos (List.suffix_append first ['.', '.']), hsplit, List.map_cons,
    List.map_nil, List.dropLast]

/-- The last two elements of a list are taken away. -/
theorem dropLast_dropLast (parts : List String) (a b : String) :
    (parts ++ [a, b]).dropLast.dropLast = parts := by
  rw [List.append_cons parts a [b], List.dropLast_concat, List.dropLast_concat]

/-- Anything else behind that dot has components of its own. -/
theorem componentsOf_append_cons (h : '.' ∉ first) (hrest : rest ≠ ['.']) :
    componentsOf (first ++ '.' :: rest) = String.ofList first :: componentsOf rest := by
  unfold componentsOf
  rw [List.splitOn_append_cons_self_of_not_mem h, List.map_cons]
  by_cases hdots : ['.', '.'] <:+ rest
  · -- then there are three components behind the dot, of which two are left out
    obtain ⟨before, rfl⟩ := hdots
    have hsplit : (before ++ ['.', '.']).splitOn '.' = before.splitOn '.' ++ [[], []] :=
      List.splitOn_append_cons_self before ['.']
    rw [if_pos ((dots_suffix_iff h hrest).2 (List.suffix_append _ _)),
      if_pos (List.suffix_append _ _), hsplit, List.map_append]
    show (_ :: _ ++ [_, _]).dropLast.dropLast = _ :: (_ ++ [_, _]).dropLast.dropLast
    rw [dropLast_dropLast, dropLast_dropLast]
  · rw [if_neg (mt (dots_suffix_iff h hrest).1 hdots), if_neg hdots]

end Dots

/-! ## Following a name -/

/-- A single scope has the members of its value. -/
theorem member?_singleton (v : Value) (name : String) : member? [v] name = v.get? name := by
  rw [member?_cons, member?_nil, Option.or_none]

/-- The innermost scope with a member of this name decides. -/
theorem member?_eq_find? (scopes : Scopes) (name : String) :
    scopes.member? name =
      (scopes.find? fun v => (v.get? name).isSome).bind fun v => v.get? name := by
  induction scopes with
  | nil => rfl
  | cons v scopes ih =>
    rw [member?_cons, List.find?_cons, ih]
    cases h : v.get? name with
    | none => rfl
    | some w => exact h.symm

/-- Scopes without a member of this name make no difference. -/
theorem member?_append_of_forall {inner : Scopes} {name : String}
    (h : ∀ v ∈ inner, v.get? name = none) (outer : Scopes) :
    member? (inner ++ outer) name = member? outer name := by
  induction inner with
  | nil => rfl
  | cons v inner ih =>
    rw [List.cons_append, member?_cons, h v List.mem_cons_self, Option.none_or]
    exact ih fun w hw => h w (List.mem_cons_of_mem v hw)

/-- A name without a dot stands for a member of a scope. -/
theorem resolve_of_not_mem (scopes : Scopes) {name : List Char} (h : '.' ∉ name) :
    scopes.resolve name = scopes.member? (String.ofList name) := by
  have hdot : name ≠ ['.'] := by
    rintro rfl
    exact h (List.mem_singleton_self _)
  rw [resolve_of_ne scopes hdot, takeWhile_of_not_mem h, Option.bind_congr fun v _ => if_neg h,
    Option.bind_fun_some]

/-- What follows the first dot of a name is looked up inside the member before it. -/
theorem resolve_append_cons (scopes : Scopes) {first rest : List Char} (h : '.' ∉ first)
    (hdot : first ++ '.' :: rest ≠ ['.']) :
    scopes.resolve (first ++ '.' :: rest) =
      (scopes.member? (String.ofList first)).bind fun v => resolve [v] rest := by
  have hpos : ∀ c ∈ first, (c != '.') = true :=
    fun c hc => bne_iff_ne.2 fun heq => h (heq ▸ hc)
  rw [resolve_of_ne scopes hdot, List.takeWhile_append_of_pos hpos,
    List.dropWhile_append_of_pos hpos]
  simp

/-- **A name is a path**: its first component is looked for among the scopes, and the others are
followed from what it stands for. -/
theorem resolve_eq_follow (scopes : Scopes) {name : List Char} (hdot : name ≠ ['.']) :
    ∃ first rest, componentsOf name = first :: rest ∧
      scopes.resolve name = (scopes.member? first).bind fun v => v.follow rest := by
  -- by induction on the length of the name, since what follows its first dot is a name again
  induction hlen : name.length using Nat.strong_induction_on generalizing name scopes with
  | _ n ih =>
    by_cases hmem : '.' ∈ name
    · obtain ⟨first, rest, rfl, hfirst⟩ := List.eq_append_cons_of_mem hmem
      refine ⟨String.ofList first, ?_⟩
      rw [resolve_append_cons scopes hfirst hdot]
      by_cases hrest : rest = ['.']
      · -- a single dot is the member that was found
        subst hrest
        refine ⟨[], componentsOf_append_dots hfirst, Option.bind_congr fun v _ => ?_⟩
        exact lookup_dot [v]
      · refine ⟨componentsOf rest, componentsOf_append_cons hfirst hrest,
          Option.bind_congr fun v _ => ?_⟩
        have hlt : rest.length < n := by
          rw [← hlen, List.length_append, List.length_cons]
          omega
        obtain ⟨second, more, hparts, hresolve⟩ := ih rest.length hlt [v] hrest rfl
        rw [hresolve, hparts, member?_singleton, Value.follow_cons]
    · refine ⟨String.ofList name, [], componentsOf_of_not_mem hmem, ?_⟩
      rw [resolve_of_not_mem scopes hmem, Option.bind_congr fun v _ => Value.follow_nil v,
        Option.bind_fun_some]

/-- **What a name stands for**: from the innermost scope that has a member called as the first
component, all components are followed, one inside the other. So where a later component is missing
no outer scope is asked, and a scope without such a member makes no difference. -/
theorem lookup_eq_follow (scopes : Scopes) {name : String} (hdot : name ≠ ".") :
    ∃ first rest, components name = first :: rest ∧
      scopes.lookup name =
        ((scopes.find? fun v => (v.get? first).isSome).bind fun v =>
          v.follow (first :: rest)) ∧
      (∀ inner v outer w, scopes = inner ++ v :: outer → (∀ u ∈ inner, u.get? first = none) →
        v.get? first = some w → w.follow rest = none → scopes.lookup name = none) ∧
      ∀ v, v.get? first = none → (scopes.push v).lookup name = scopes.lookup name := by
  have hlist : name.toList ≠ ['.'] := fun heq => hdot (String.toList_inj.1 heq)
  obtain ⟨first, rest, hparts, hresolve⟩ := resolve_eq_follow scopes hlist
  refine ⟨first, rest, hparts, ?_, ?_, ?_⟩
  · rw [lookup, hresolve, member?_eq_find?, Option.bind_assoc]
    rfl
  · rintro inner v outer w rfl hinner hv hw
    rw [lookup, hresolve, member?_append_of_forall hinner, member?_cons, hv, Option.some_or,
      Option.bind_some, hw]
  · intro v hv
    obtain ⟨first', rest', hparts', hresolve'⟩ := resolve_eq_follow (scopes.push v) hlist
    obtain ⟨rfl, rfl⟩ := List.cons.inj (hparts.symm.trans hparts')
    rw [lookup, lookup, hresolve, hresolve', push, member?_cons, hv, Option.none_or]

/-- The first field of a record with two fields of one name decides, a scope that is no record or
map is passed over, and no outer scope is asked for what is missing. -/
theorem lookup_shadowed :
    let inner : Value := .record "Args" [("a", .map [("c", .null)]), ("a", .map [("b", .null)])]
    let outer : Value := .map [("a", .map [("b", .str "outer")])]
    "a.b.." ≠ "." ∧ components "a.b.." = ["a", "b"] ∧
      lookup [.bool true, inner, outer] "a.b.." = none := by
  intro inner outer
  have hdot : "a.b.." ≠ "." := by decide
  have hcomponents : components "a.b.." = ["a", "b"] := by decide
  obtain ⟨first, rest, hparts, -, hmiss, -⟩ := lookup_eq_follow [.bool true, inner, outer] hdot
  obtain ⟨rfl, rfl⟩ := List.cons.inj (hcomponents.symm.trans hparts)
  refine ⟨hdot, hcomponents, hmiss [.bool true] inner [outer] (.map [("c", .null)]) rfl ?_ rfl rfl⟩
  exact List.forall_mem_singleton.2 rfl

end Scopes

end Mustache
