import Mathlib.Data.List.Nodup
import Mathlib.Data.String.Basic
import Mustache.Value

/-! # Entries and their keys
Entries with distinct keys (`Entries.Distinct`) stand for the same in whatever order they come. With
ascending keys (`Entries.Ascending`) they are the same as soon as every key stands for the same
(`Entries.Ascending.ext`), so there is one way to put entries in order (`Entries.sorted_congr`). -/

namespace Mustache.Entries

variable {α : Type} {entries entries' : Entries α}

/-- An entry is found under its key. -/
theorem isSome_get?_head (e : String × α) (entries : Entries α) :
    (get? (e :: entries) e.1).isSome = true := by
  rw [← Prod.eta e, get?_cons, if_pos rfl]
  rfl

/-- Where the same keys stand for something, there are no entries in both or in neither. -/
theorem isEmpty_congr {β : Type} {entries : Entries α} {entries' : Entries β}
    (h : ∀ key, (get? entries key).isSome = (get? entries' key).isSome) :
    entries.isEmpty = entries'.isEmpty := by
  cases entries with
  | nil =>
    cases entries' with
    | nil => rfl
    | cons e entries' => cases (h e.1).trans (isSome_get?_head e entries')
  | cons e entries =>
    cases entries' with
    | nil => cases (isSome_get?_head e entries).symm.trans (h e.1)
    | cons e' entries' => rfl

/-! ## Distinct keys -/

/-- No two entries have the same key. -/
def Distinct (entries : Entries α) : Prop := (entries.map Prod.fst).Nodup

theorem distinct_nil : Distinct ([] : Entries α) := List.nodup_nil

/-- An addition takes the entries with the key away, and so keeps the keys distinct. -/
theorem Distinct.put (h : entries.Distinct) (key : String) (a : α) :
    (put key a entries).Distinct := by
  have hsub : ((erase key entries).map Prod.fst).Sublist (entries.map Prod.fst) :=
    List.filter_sublist.map Prod.fst
  refine List.nodup_cons.2 ⟨fun hmem => ?_, h.sublist hsub⟩
  obtain ⟨e, he, heq⟩ := List.mem_map.1 hmem
  exact bne_iff_ne.1 (List.mem_filter.1 he).2 heq

/-- No entry comes twice where keys are distinct. -/
theorem Distinct.nodup (h : entries.Distinct) : entries.Nodup := List.Nodup.of_map _ h

/-- Where keys are distinct, a key stands for what is in an entry with it. -/
theorem Distinct.get?_eq_some_iff (h : entries.Distinct) {key : String} {a : α} :
    get? entries key = some a ↔ (key, a) ∈ entries := by
  induction entries with
  | nil => simp
  | cons first entries ih =>
    obtain ⟨k, b⟩ := first
    obtain ⟨hfirst, hrest⟩ := List.nodup_cons.1 h
    rw [get?_cons, List.mem_cons, Prod.mk.injEq]
    by_cases hk : key = k
    · subst hk
      -- no later entry has the key of the first one
      have hlater : (key, a) ∉ entries := fun hmem => hfirst (List.mem_map.2 ⟨_, hmem, rfl⟩)
      simp [hlater, eq_comm]
    · simp [hk, ih hrest]

/-- **Distinct keys stand for the same in any order.** -/
theorem Distinct.get?_of_perm (h : entries.Distinct) (hperm : entries.Perm entries')
    (key : String) : get? entries' key = get? entries key := by
  have h' : entries'.Distinct := (hperm.map Prod.fst).nodup_iff.1 h
  refine Option.ext fun a => ?_
  rw [h'.get?_eq_some_iff, h.get?_eq_some_iff, hperm.mem_iff]

/-! ## Ascending keys -/

/-- The keys ascend, so that no two are equal. -/
def Ascending (entries : Entries α) : Prop := entries.Pairwise fun e e' => e.1 < e'.1

/-- What an insertion puts among the entries. -/
theorem mem_insert {key : String} {a : α} {e : String × α} (h : e ∈ insert key a entries) :
    e = (key, a) ∨ e ∈ entries := by
  induction entries with
  | nil => exact .inl (List.mem_singleton.1 h)
  | cons first entries ih =>
    unfold insert at h
    split at h
    · exact List.mem_cons.1 h
    · split at h
      · exact (List.mem_cons.1 h).imp_right (List.mem_cons_of_mem first)
      · rcases List.mem_cons.1 h with rfl | h
        · exact .inr List.mem_cons_self
        · exact (ih h).imp_right (List.mem_cons_of_mem first)

/-- **An insertion keeps the keys ascending.** -/
theorem Ascending.insert (h : entries.Ascending) (key : String) (a : α) :
    (insert key a entries).Ascending := by
  induction entries with
  | nil => exact List.pairwise_singleton _ _
  | cons first entries ih =>
    obtain ⟨hfirst, hrest⟩ := List.pairwise_cons.1 h
    unfold Entries.insert
    split
    · rename_i hlt
      refine List.pairwise_cons.2 ⟨fun e he => ?_, h⟩
      rcases List.mem_cons.1 he with rfl | he
      · exact hlt
      · exact lt_trans hlt (hfirst e he)
    · split
      · rename_i heq
        subst heq
        exact List.pairwise_cons.2 ⟨hfirst, hrest⟩
      · rename_i hlt hne
        refine List.pairwise_cons.2 ⟨fun e he => ?_, ih hrest⟩
        rcases mem_insert he with rfl | he
        · exact lt_of_le_of_ne (not_lt.1 hlt) (Ne.symm hne)
        · exact hfirst e he

/-- Ascending keys are distinct. -/
theorem Ascending.distinct (h : entries.Ascending) : entries.Distinct :=
  List.pairwise_map.2 (h.imp fun hlt => ne_of_lt hlt)

/-- **Entries with ascending keys are the same** if every key stands for the same. -/
theorem Ascending.ext (h : entries.Ascending) (h' : entries'.Ascending)
    (heq : ∀ key, get? entries key = get? entries' key) : entries = entries' := by
  have hperm : entries.Perm entries' := by
    rw [List.perm_ext_iff_of_nodup h.distinct.nodup h'.distinct.nodup]
    rintro ⟨key, a⟩
    rw [← h.distinct.get?_eq_some_iff, ← h'.distinct.get?_eq_some_iff, heq]
  exact hperm.eq_of_pairwise (fun e e' _ _ hlt hlt' => absurd hlt' (lt_asymm hlt)) h h'

/-! ## Entries in order -/

/-- **Entries in order have ascending keys.** -/
theorem ascending_sorted (entries : Entries α) : (sorted entries).Ascending := by
  induction entries with
  | nil => exact List.Pairwise.nil
  | cons e entries ih => exact ih.insert e.1 e.2

/-- **What the keys stand for settles the entries in order.** -/
theorem sorted_congr (h : ∀ key, get? entries key = get? entries' key) :
    sorted entries = sorted entries' := by
  refine (ascending_sorted entries).ext (ascending_sorted entries') fun key => ?_
  rw [get?_sorted, get?_sorted, h]

/-- Entries with distinct keys are put in order: none is added and none is lost. -/
theorem Distinct.sorted_perm (h : entries.Distinct) : (sorted entries).Perm entries := by
  have hsorted : (sorted entries).Distinct := (ascending_sorted entries).distinct
  rw [List.perm_ext_iff_of_nodup hsorted.nodup h.nodup]
  rintro ⟨key, a⟩
  rw [← hsorted.get?_eq_some_iff, ← h.get?_eq_some_iff, get?_sorted]

/-- Where every value is taken to another one, the keys stand for the other values. -/
theorem get?_map_values {β : Type} (f : α → β) (entries : Entries α) (key : String) :
    get? (entries.map fun (k, a) => (k, f a)) key = (get? entries key).map f := by
  induction entries with
  | nil => rfl
  | cons e entries ih =>
    obtain ⟨k, a⟩ := e
    rw [List.map_cons, get?_cons, get?_cons, ih]
    split <;> rfl

end Mustache.Entries
