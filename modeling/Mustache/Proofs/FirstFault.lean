import Mathlib.Data.List.Induction

/-! # Sequences up to their first fault
Some computations take the members of a sequence one by one and end with the first that is at fault,
which hangs on those before it. Either no member is at fault, or there is a first one
(`accepted_or_refused`). -/

namespace Mustache

variable {α ε : Type} {refused : List α → α → ε → Prop} {members : List α}

/-- **Sequences without a fault**: no member is refused behind those before it. -/
inductive Accepted (refused : List α → α → ε → Prop) : List α → Prop where
  /-- There are no members. -/
  | nil : Accepted refused []
  /-- One more is not refused. -/
  | concat {members : List α} {last : α} (h : Accepted refused members)
      (hlast : ∀ fault, ¬ refused members last fault) : Accepted refused (members ++ [last])

/-- The last member is accepted if those before it are and it is not refused behind them. -/
theorem accepted_concat_iff {last : α} :
    Accepted refused (members ++ [last]) ↔
      Accepted refused members ∧ ∀ fault, ¬ refused members last fault := by
  refine ⟨fun h => ?_, fun ⟨h, hlast⟩ => h.concat hlast⟩
  generalize heq : members ++ [last] = all at h
  cases h with
  | nil => exact absurd heq (List.concat_ne_nil _ _)
  | concat h hlast =>
    obtain ⟨rfl, hsame⟩ := List.append_inj' heq rfl
    rw [List.singleton_inj.1 hsame]
    exact ⟨h, hlast⟩

/-- **Either all members are accepted, or there is a first one that is refused.** -/
theorem accepted_or_refused (refused : List α → α → ε → Prop) (members : List α) :
    Accepted refused members ∨ ∃ before first after fault, members = before ++ first :: after ∧
      Accepted refused before ∧ refused before first fault := by
  induction members using List.reverseRecOn with
  | nil => exact .inl .nil
  | append_singleton members last ih =>
    rcases ih with h | ⟨before, first, after, fault, rfl, h, hfirst⟩
    · by_cases hlast : ∃ fault, refused members last fault
      · obtain ⟨fault, hlast⟩ := hlast
        exact .inr ⟨members, last, [], fault, rfl, h, hlast⟩
      · exact .inl (h.concat fun fault hf => hlast ⟨fault, hf⟩)
    · exact .inr ⟨before, first, after ++ [last], fault, by simp, h, hfirst⟩

end Mustache
