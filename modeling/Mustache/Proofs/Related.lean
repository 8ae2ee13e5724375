import Mathlib.Data.List.Forall2

/-! # Options and lists side by side
Two options are related if both have a value or none and the values are related (`Option.Rel`), and
two lists if they are as long as each other and what stands in the same places is related
(`List.Forall₂`). What is done to both sides in the same way keeps them related. -/

namespace Mustache

variable {α β γ δ : Type} {R : α → β → Prop} {S : γ → δ → Prop}

/-! ## Options -/

theorem rel_refl {R : α → α → Prop} (hR : ∀ a, R a a) (o : Option α) : Option.Rel R o o := by
  cases o with
  | none => exact .none
  | some a => exact .some (hR a)

/-- Two options are related if both have a value or none, and the values are related. -/
theorem rel_iff {o : Option α} {o' : Option β} :
    Option.Rel R o o' ↔
      o.isSome = o'.isSome ∧ ∀ a b, o = some a → o' = some b → R a b := by
  constructor
  · intro h
    cases h with
    | none => exact ⟨rfl, fun _ _ ha => nomatch ha⟩
    | some hab =>
      refine ⟨rfl, fun a b ha hb => ?_⟩
      cases ha
      cases hb
      exact hab
  · rintro ⟨hsome, h⟩
    cases o with
    | none =>
      cases o' with
      | none => exact .none
      | some b => cases hsome
    | some a =>
      cases o' with
      | none => cases hsome
      | some b => exact .some (h a b rfl rfl)

theorem rel_trans {R : α → α → Prop} (hR : ∀ a b c, R a b → R b c → R a c) {o o' o'' : Option α}
    (h : Option.Rel R o o') (h' : Option.Rel R o' o'') : Option.Rel R o o'' := by
  cases h with
  | none => exact h'
  | some hab =>
    cases h' with
    | some hbc => exact .some (hR _ _ _ hab hbc)

theorem rel_bind {o : Option α} {o' : Option β} {f : α → Option γ} {f' : β → Option δ}
    (h : Option.Rel R o o') (hf : ∀ a b, R a b → Option.Rel S (f a) (f' b)) :
    Option.Rel S (o.bind f) (o'.bind f') := by
  cases h with
  | none => exact .none
  | some hab => exact hf _ _ hab

theorem rel_map {o : Option α} {o' : Option β} {f : α → γ} {f' : β → δ}
    (h : Option.Rel R o o') (hf : ∀ a b, R a b → S (f a) (f' b)) :
    Option.Rel S (o.map f) (o'.map f') := by
  cases h with
  | none => exact .none
  | some hab => exact .some (hf _ _ hab)

theorem rel_or {R : α → β → Prop} {o p : Option α} {o' p' : Option β} (h : Option.Rel R o o')
    (hp : Option.Rel R p p') : Option.Rel R (o.or p) (o'.or p') := by
  cases h with
  | none => exact hp
  | some hab => exact .some hab

theorem map_eq_of_rel {f : α → γ} {f' : β → γ} {o : Option α} {o' : Option β}
    (h : Option.Rel (fun a b => f a = f' b) o o') : o.map f = o'.map f' := by
  cases h with
  | none => rfl
  | some heq => exact congrArg some heq

/-! ## Lists -/

/-- Lists are related if they are the same but for one place, and related there. -/
theorem forall₂_replace {R : α → α → Prop} (hR : ∀ a, R a a) (before after : List α) {a a' : α}
    (h : R a a') : List.Forall₂ R (before ++ a :: after) (before ++ a' :: after) := by
  have hsame (as : List α) : List.Forall₂ R as as := List.forall₂_same.2 fun a _ => hR a
  exact List.rel_append (hsame before) (.cons h (hsame after))

theorem forall₂_comp {T : α → γ → Prop} {U : β → γ → Prop} (hT : ∀ a b c, R a b → U b c → T a c)
    {l : List α} {l' : List β} {l'' : List γ} (h : List.Forall₂ R l l')
    (h' : List.Forall₂ U l' l'') : List.Forall₂ T l l'' := by
  induction h generalizing l'' with
  | nil =>
    cases h'
    exact .nil
  | cons hab _ ih =>
    cases h' with
    | cons hbc hrest => exact .cons (hT _ _ _ hab hbc) (ih hrest)

theorem map_eq_of_forall₂ {f : α → γ} {f' : β → γ} {l : List α} {l' : List β}
    (h : List.Forall₂ (fun a b => f a = f' b) l l') : l.map f = l'.map f' := by
  induction h with
  | nil => rfl
  | cons heq _ ih => rw [List.map_cons, List.map_cons, heq, ih]

theorem mapM_rel {f : α → Option γ} {f' : β → Option δ} {l : List α} {l' : List β}
    (h : List.Forall₂ (fun a b => Option.Rel S (f a) (f' b)) l l') :
    Option.Rel (List.Forall₂ S) (l.mapM f) (l'.mapM f') := by
  induction h with
  | nil => exact .some .nil
  | cons hab _ ih =>
    rw [List.mapM_cons, List.mapM_cons]
    exact rel_bind hab fun c d hcd => rel_bind ih fun cs ds hrest => .some (.cons hcd hrest)

end Mustache
