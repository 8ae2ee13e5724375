import Mathlib.Data.List.Infix
import Mustache.Html

/-! # Escaped text
What is escaped has none of the four characters that can begin or end markup (`Html.Inert`), and
every ampersand in it begins an entity (`Html.Referential`). Both hold of texts one after the other
when they hold of each, so they can be told from the pieces of which an output is made. -/

namespace Mustache.Html

/-- The characters that begin and end tags and the values of attributes. -/
def markup : List Char := ['<', '>', '"', '\'']

/-- The entities for the significant characters. -/
def entities : List String := ["&amp;", "&lt;", "&gt;", "&#34;", "&#39;"]

variable {c : Char} {cs ds : List Char} {entity : String}

/-- A significant character is an ampersand or can begin or end markup. -/
theorem entity?_eq_none_iff : entity? c = none ↔ c ≠ '&' ∧ c ∉ markup := by
  unfold entity? markup
  split <;> simp_all

/-- Significant characters are replaced by one of the five entities. -/
theorem mem_entities (h : entity? c = some entity) : entity ∈ entities := by
  unfold entity? at h
  split at h <;> cases h <;> decide

/-! ## Text without markup -/

/-- No character of the text begins or ends markup. -/
def Inert (cs : List Char) : Prop := ∀ c ∈ markup, c ∉ cs

instance : Decidable (Inert cs) := List.decidableBAll (fun c => c ∉ cs) markup

@[simp] theorem inert_nil : Inert [] := fun _ _ => List.not_mem_nil

@[simp] theorem inert_append : Inert (cs ++ ds) ↔ Inert cs ∧ Inert ds := by
  unfold Inert
  grind

theorem inert_escapeChar (c : Char) : Inert (escapeChar c) := by
  unfold escapeChar
  split
  · rename_i entity h
    have hall : ∀ e ∈ entities, Inert e.toList := by decide
    exact hall entity (mem_entities h)
  · rename_i h
    intro d hd hmem
    rw [List.mem_singleton] at hmem
    exact (entity?_eq_none_iff.1 h).2 (hmem ▸ hd)

theorem inert_escapeChars (cs : List Char) : Inert (escapeChars cs) := by
  induction cs with
  | nil => exact inert_nil
  | cons c cs ih => exact inert_append.2 ⟨inert_escapeChar c, ih⟩

/-- **Escaped text has no markup.** -/
theorem inert_escape (s : String) : Inert (escape s).toList := by
  rw [toList_escape]
  exact inert_escapeChars s.toList

theorem inert_join {ts : List String} (h : ∀ t ∈ ts, Inert t.toList) :
    Inert (String.join ts).toList := by
  induction ts with
  | nil => exact inert_nil
  | cons t ts ih =>
    rw [String.join_cons, String.toList_append, inert_append]
    exact ⟨h t List.mem_cons_self, ih fun u hu => h u (List.mem_cons_of_mem _ hu)⟩

/-! ## Ampersands -/

/-- Every ampersand of the text begins an entity. -/
def Referential (cs : List Char) : Prop :=
  ∀ before behind, cs = before ++ '&' :: behind →
    ∃ entity ∈ entities, entity.toList <+: '&' :: behind

theorem Referential.of_not_mem (h : '&' ∉ cs) : Referential cs := by
  intro before behind heq
  rw [heq] at h
  simp at h

/-- An entity has no other ampersand than its first character. -/
theorem Referential.of_entity (h : entity ∈ entities) : Referential entity.toList := by
  intro before behind heq
  have hfirst : ∀ e ∈ entities, '&' ∉ e.toList.tail := by decide
  cases before with
  | nil =>
    rw [List.nil_append] at heq
    exact ⟨entity, h, heq ▸ List.prefix_rfl⟩
  | cons d before =>
    have hmem : '&' ∈ entity.toList.tail := by simp [heq]
    exact absurd hmem (hfirst entity h)

theorem Referential.append (h : Referential cs) (h' : Referential ds) : Referential (cs ++ ds) := by
  intro before behind heq
  rw [List.append_eq_append_iff] at heq
  obtain ⟨middle, -, hds⟩ | ⟨middle, hcs, hbehind⟩ := heq
  · exact h' middle behind hds
  · cases middle with
    | nil => exact h' [] behind hbehind.symm
    | cons d middle =>
      -- the ampersand is in the first text, and so are the first characters behind it
      obtain ⟨rfl, rfl⟩ := List.cons.inj hbehind
      obtain ⟨entity, hentity, hprefix⟩ := h before middle hcs
      have hmore : '&' :: middle <+: '&' :: middle ++ ds := List.prefix_append _ _
      exact ⟨entity, hentity, hprefix.trans hmore⟩

theorem referential_join {ts : List String} (h : ∀ t ∈ ts, Referential t.toList) :
    Referential (String.join ts).toList := by
  induction ts with
  | nil => exact .of_not_mem List.not_mem_nil
  | cons t ts ih =>
    rw [String.join_cons, String.toList_append]
    exact (h t List.mem_cons_self).append (ih fun u hu => h u (List.mem_cons_of_mem _ hu))

theorem referential_escapeChar (c : Char) : Referential (escapeChar c) := by
  unfold escapeChar
  split
  · rename_i entity h
    exact .of_entity (mem_entities h)
  · rename_i h
    have hc := (entity?_eq_none_iff.1 h).1
    exact .of_not_mem (by simpa using hc.symm)

theorem referential_escapeChars (cs : List Char) : Referential (escapeChars cs) := by
  induction cs with
  | nil => exact .of_not_mem List.not_mem_nil
  | cons c cs ih => exact (referential_escapeChar c).append ih

/-- **Every ampersand of escaped text begins an entity.** -/
theorem referential_escape (s : String) : Referential (escape s).toList := by
  rw [toList_escape]
  exact referential_escapeChars s.toList

end Mustache.Html
