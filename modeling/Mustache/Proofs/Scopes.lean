import Mathlib.Data.List.TakeWhile
import Mustache.Scopes

/-! # Names and scopes
Only the first component of a name is looked up among the scopes, and what is found there is a
member of a scope and never a scope itself. So two stacks in which the first component stands for
the same member give the name the same value (`lookup_congr`); only a single dot, the innermost
scope, is different. Two stacks that differ in one member are the same for all names that do not
begin with it (`AgreeBut`). -/

namespace Mustache.Scopes

/-! ## The first component of a name -/

/-- The first component of a name: what stands before the first dot, or the whole name. -/
def head (name : String) : String := String.ofList (name.toList.takeWhile (· != '.'))

/-- A cut at a dot is behind the first component. -/
theorem cutAt_dot (name : List Char) :
    Text.cutAt ['.'] name =
      if '.' ∈ name then
        some (name.takeWhile (· != '.'), (name.dropWhile (· != '.')).tail)
      else none := by
  induction name with
  | nil => rfl
  | cons c name ih =>
    by_cases hc : c = '.'
    · subst hc
      simp [Text.cutAt, Text.dropMark?]
    · have hmem : '.' ∈ c :: name ↔ '.' ∈ name := by simp [Ne.symm hc]
      simp only [Text.cutAt, Text.dropMark?, Ne.symm hc, if_false, ih, hmem]
      split <;> simp [hc]

/-- A name without a dot is its own first component. -/
theorem takeWhile_of_not_mem {name : List Char} (h : '.' ∉ name) :
    name.takeWhile (· != '.') = name :=
  List.takeWhile_eq_self_iff.2 fun _ hc => bne_iff_ne.2 fun heq => h (heq ▸ hc)

/-- A name other than a single dot: its first component is looked up among the scopes, and what
follows the first dot inside the member that was found. -/
theorem resolve_of_ne (scopes : Scopes) {name : List Char} (hdot : name ≠ ['.']) :
    scopes.resolve name =
      (scopes.member? (String.ofList (name.takeWhile (· != '.')))).bind fun v =>
        if '.' ∈ name then resolve [v] (name.dropWhile (· != '.')).tail else some v := by
  rw [resolve, if_neg hdot]
  split
  · rename_i first rest hcut
    rw [cutAt_dot] at hcut
    split at hcut
    · rename_i hmem
      cases hcut
      cases scopes.member? (String.ofList (name.takeWhile (· != '.'))) with
      | none => rfl
      | some v => simp [hmem]
    · cases hcut
  · rename_i hcut
    rw [cutAt_dot] at hcut
    split at hcut
    · cases hcut
    · rename_i hmem
      -- without a dot the first component is the whole name
      rw [takeWhile_of_not_mem hmem]
      cases scopes.member? (String.ofList name) with
      | none => rfl
      | some v => simp [hmem]

/-- **Only the first component is looked up among the scopes**: where it stands for the same member,
the name stands for the same value. -/
theorem lookup_congr {scopes scopes' : Scopes} {name : String} (hdot : name ≠ ".")
    (h : scopes.member? (head name) = scopes'.member? (head name)) :
    scopes.lookup name = scopes'.lookup name := by
  have hlist : name.toList ≠ ['.'] := by
    intro heq
    exact hdot (String.toList_inj.1 heq)
  unfold lookup
  rw [resolve_of_ne scopes hlist, resolve_of_ne scopes' hlist]
  unfold head at h
  rw [h]

/-! ## Stacks that differ in one member -/

/-- Two stacks have the same members but for those with this name. -/
def AgreeBut (k : String) (scopes scopes' : Scopes) : Prop :=
  ∀ name, name ≠ k → scopes.member? name = scopes'.member? name

/-- A scope more on both stacks changes nothing. -/
theorem AgreeBut.push {k : String} {scopes scopes' : Scopes} (h : AgreeBut k scopes scopes')
    (v : Value) : AgreeBut k (scopes.push v) (scopes'.push v) := by
  intro name hname
  rw [Scopes.push, Scopes.push, member?_cons, member?_cons, h name hname]

/-- Two maps that differ in the entry of one key differ for that name only, in the same place of two
stacks. -/
theorem agreeBut_map {k : String} {entries entries' : Entries Value}
    (h : ∀ name, name ≠ k → Entries.get? entries name = Entries.get? entries' name)
    (inner outer : Scopes) :
    AgreeBut k (inner ++ .map entries :: outer) (inner ++ .map entries' :: outer) := by
  induction inner with
  | nil =>
    intro name hname
    rw [List.nil_append, List.nil_append, member?_cons, member?_cons, Value.get?_map,
      Value.get?_map, h name hname]
  | cons w inner ih => exact ih.push w

end Mustache.Scopes
