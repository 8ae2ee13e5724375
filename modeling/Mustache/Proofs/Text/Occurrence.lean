import Mathlib.Data.List.TakeWhile
import Mustache.Text.Search

/-! # First occurrences and fields
What `Text.cutAt` and `Text.fields` find, said without them. A text is *clear* of a mark when the
mark, written behind it, occurs there for the first time (`Clear`); `cutAt` finds exactly the
clear stretch before a mark (`cutAt_eq_some_iff`). The fields of a text are its stretches between
separators (`fields_eq_cons_iff`), and a text with two fields has one shape
(`fields_eq_pair_iff`). -/

namespace Mustache.Text

variable {mark text before rest : List Char}

/-! ## Marks at the start of a text -/

/-- Nothing is left of a text that does not begin with the mark. -/
theorem dropMark?_eq_none_iff : dropMark? mark text = none ↔ ¬ mark <+: text := by
  constructor
  · rintro h ⟨rest, hr⟩
    rw [dropMark?_eq_some_iff.2 hr.symm] at h
    cases h
  · intro h
    cases hd : dropMark? mark text with
    | none => rfl
    | some rest => exact absurd ⟨rest, (dropMark?_eq_some_iff.1 hd).symm⟩ h

/-- Whether a text begins with a mark is settled within the length of the mark. -/
theorem dropMark?_append_eq_none (hlen : mark.length ≤ text.length)
    (h : dropMark? mark text = none) (more : List Char) :
    dropMark? mark (text ++ more) = none := by
  rw [dropMark?_eq_none_iff] at h ⊢
  intro hp
  exact h (List.prefix_of_prefix_length_le hp (List.prefix_append text more) hlen)

/-! ## Clear stretches -/

/-- In `text ++ mark` the mark occurs at the end for the first time: nothing is left behind an
occurrence of it. -/
def Clear (mark text : List Char) : Prop :=
  ∀ before behind, text ++ mark = before ++ mark ++ behind → behind = []

/-- The empty stretch is clear of every mark. -/
@[simp] theorem clear_nil (mark : List Char) : Clear mark [] := by
  intro before behind h
  have hlen := congrArg List.length h
  simp only [List.nil_append, List.length_append] at hlen
  exact List.length_eq_zero_iff.1 (by omega)

/-- A stretch is clear when its tail is and the mark does not occur at its start. -/
theorem clear_cons_iff {c : Char} :
    Clear mark (c :: text) ↔ ¬ mark <+: c :: (text ++ mark) ∧ Clear mark text := by
  constructor
  · intro h
    refine ⟨?_, ?_⟩
    · rintro ⟨behind, hb⟩
      have hnil : behind = [] := h [] behind hb.symm
      have hlen := congrArg List.length hb
      simp only [hnil, List.append_nil, List.length_cons, List.length_append] at hlen
      omega
    · intro before behind hb
      exact h (c :: before) behind (by rw [List.cons_append, hb]; rfl)
  · rintro ⟨hp, ht⟩ before behind h
    cases before with
    | nil => exact absurd ⟨behind, h.symm⟩ hp
    | cons c' before =>
      simp only [List.cons_append, List.cons.injEq] at h
      exact ht before behind h.2

/-- A mark does not occur in a stretch that is clear of it. -/
theorem Clear.not_infix (h : Clear mark text) (hne : mark ≠ []) : ¬ mark <:+: text := by
  rintro ⟨before, behind, rfl⟩
  have hnil := h before (behind ++ mark) (by simp)
  exact hne (List.append_eq_nil_iff.1 hnil).2

/-! ## Cuts -/

theorem cutAt_of_dropMark? (h : dropMark? mark text = some rest) :
    cutAt mark text = some ([], rest) := by
  cases text with
  | nil => rw [cutAt, h, Option.map_some]
  | cons c text => rw [cutAt, h]

/-- The stretch before a cut is clear of the mark. -/
theorem clear_of_cutAt (h : cutAt mark text = some (before, rest)) : Clear mark before := by
  induction text generalizing before with
  | nil =>
    rw [cutAt, Option.map_eq_some_iff] at h
    obtain ⟨_, -, hb⟩ := h
    cases hb
    exact clear_nil mark
  | cons c text ih =>
    rw [cutAt] at h
    split at h
    · cases h
      exact clear_nil mark
    · rename_i hd
      rw [Option.map_eq_some_iff] at h
      obtain ⟨⟨before', rest'⟩, hc, hb⟩ := h
      cases hb
      rw [dropMark?_eq_none_iff, eq_of_cutAt hc] at hd
      refine clear_cons_iff.2 ⟨?_, ih hc⟩
      intro hp
      -- the mark would have been found here, before the cut
      exact hd (hp.trans (List.prefix_append (c :: (before' ++ mark)) rest))

/-- A text is cut behind the stretch that is clear of the mark. -/
theorem cutAt_of_clear (h : Clear mark before) (rest : List Char) :
    cutAt mark (before ++ mark ++ rest) = some (before, rest) := by
  induction before with
  | nil => exact cutAt_of_dropMark? (dropMark?_append mark rest)
  | cons c before ih =>
    obtain ⟨hp, ht⟩ := clear_cons_iff.1 h
    have hd : dropMark? mark (c :: (before ++ mark) ++ rest) = none :=
      dropMark?_append_eq_none (by simp; omega) (dropMark?_eq_none_iff.2 hp) rest
    rw [List.cons_append, List.cons_append, cutAt]
    rw [List.cons_append] at hd
    rw [hd, ih ht]
    rfl

/-- **The cut of a text** is the one at the first occurrence of the mark. -/
theorem cutAt_eq_some_iff :
    cutAt mark text = some (before, rest) ↔ text = before ++ mark ++ rest ∧ Clear mark before := by
  constructor
  · intro h
    exact ⟨eq_of_cutAt h, clear_of_cutAt h⟩
  · rintro ⟨rfl, h⟩
    exact cutAt_of_clear h rest

/-- A text is not cut exactly when the mark does not occur in it. -/
theorem cutAt_eq_none_iff : cutAt mark text = none ↔ ¬ mark <:+: text := by
  induction text with
  | nil => simp [cutAt, dropMark?_eq_none_iff, List.prefix_nil, List.infix_nil]
  | cons c text ih =>
    rw [cutAt, List.infix_cons_iff, not_or, ← ih, ← dropMark?_eq_none_iff]
    cases dropMark? mark (c :: text) <;> simp

-- a search settles it, while the definition speaks of every split of the text
instance (mark text : List Char) : Decidable (Clear mark text) :=
  decidable_of_iff (cutAt mark (text ++ mark) = some (text, [])) <| by
    rw [cutAt_eq_some_iff]
    simp

/-! ## Fields -/

section Fields

variable {isSep : Char → Bool} {field : List Char} {fs : List (List Char)}

/-- Separators before a text do not change its fields. -/
theorem fields_append_left (hb : ∀ c ∈ before, isSep c = true) (text : List Char) :
    fields isSep (before ++ text) = fields isSep text := by
  induction before with
  | nil => rfl
  | cons c before ih =>
    have hc := fields_append_cons [] (before ++ text) (hb c List.mem_cons_self)
    rw [List.nil_append, fields_nil, List.nil_append] at hc
    rw [List.cons_append, hc]
    exact ih fun c' h' => hb c' (List.mem_cons_of_mem c h')

/-- A stretch without separators is a field, if a separator or nothing follows it. -/
theorem fields_append_right (hne : field ≠ []) (hf : ∀ c ∈ field, isSep c = false)
    (hr : ∀ c ∈ rest.head?, isSep c = true) :
    fields isSep (field ++ rest) = field :: fields isSep rest := by
  cases rest with
  | nil => rw [List.append_nil, fields_of_forall_not hne hf, fields_nil]
  | cons c rest =>
    have hc : isSep c = true := hr c rfl
    have hsep : ∀ c' ∈ [c], isSep c' = true := by simpa using hc
    have hrest := fields_append_left hsep rest
    rw [List.singleton_append] at hrest
    rw [fields_append_cons field rest hc, fields_of_forall_not hne hf, hrest,
      List.singleton_append]

/-- Every text that does not consist of separators has a first field. -/
theorem exists_field (h : ∃ c ∈ text, isSep c = false) :
    ∃ before field rest, text = before ++ (field ++ rest) ∧ (∀ c ∈ before, isSep c = true) ∧
      field ≠ [] ∧ (∀ c ∈ field, isSep c = false) ∧ ∀ c ∈ rest.head?, isSep c = true := by
  induction text with
  | nil => simp at h
  | cons c text ih =>
    by_cases hc : isSep c = true
    · -- a separator is skipped
      obtain ⟨before, field, rest, rfl, hb, hne, hf, hr⟩ := ih <| by
        obtain ⟨c', hc', hs⟩ := h
        rcases List.mem_cons.1 hc' with rfl | hc'
        · rw [hc] at hs
          cases hs
        · exact ⟨c', hc', hs⟩
      exact ⟨c :: before, field, rest, rfl, by simpa [hc] using hb, hne, hf, hr⟩
    · -- the field goes on up to the next separator
      have hc : isSep c = false := by simpa using hc
      refine ⟨[], (c :: text).takeWhile (!isSep ·), (c :: text).dropWhile (!isSep ·), ?_, ?_, ?_,
        ?_, ?_⟩
      · rw [List.nil_append, List.takeWhile_append_dropWhile]
      · simp
      · simp [hc]
      · intro c' hc'
        simpa using List.mem_takeWhile_imp hc'
      · intro c' hc'
        have := List.head?_dropWhile_not (!isSep ·) (c :: text)
        rw [Option.mem_def.1 hc'] at this
        simpa using this

/-- Only separators have no fields. -/
theorem fields_eq_nil_iff : fields isSep text = [] ↔ ∀ c ∈ text, isSep c = true := by
  constructor
  · intro h
    by_contra hc
    have hc : ∃ c ∈ text, isSep c = false := by simpa using hc
    obtain ⟨before, field, rest, rfl, hb, hne, hf, hr⟩ := exists_field hc
    rw [fields_append_left hb, fields_append_right hne hf hr] at h
    cases h
  · intro h
    have := fields_append_left h []
    rwa [List.append_nil, fields_nil] at this

/-- **The fields of a text**, one after the other: the first one stands behind separators only, and
behind it stands a separator or nothing. -/
theorem fields_eq_cons_iff :
    fields isSep text = field :: fs ↔
      ∃ before rest, text = before ++ (field ++ rest) ∧ (∀ c ∈ before, isSep c = true) ∧
        field ≠ [] ∧ (∀ c ∈ field, isSep c = false) ∧ (∀ c ∈ rest.head?, isSep c = true) ∧
        fields isSep rest = fs := by
  constructor
  · intro h
    have hc : ∃ c ∈ text, isSep c = false := by
      by_contra hc
      rw [fields_eq_nil_iff.2 (by simpa using hc)] at h
      cases h
    obtain ⟨before, field', rest, rfl, hb, hne, hf, hr⟩ := exists_field hc
    rw [fields_append_left hb, fields_append_right hne hf hr] at h
    cases h
    exact ⟨before, rest, rfl, hb, hne, hf, hr, rfl⟩
  · rintro ⟨before, rest, rfl, hb, hne, hf, hr, rfl⟩
    rw [fields_append_left hb, fields_append_right hne hf hr]

end Fields

/-- A text with two fields: nonempty stretches without separators, kept apart by separators and with
only separators around them. -/
structure FieldPair (isSep : Char → Bool) (text first second : List Char) : Prop where
  /-- The first field is not empty. -/
  first_ne_nil : first ≠ []
  /-- The second field is not empty. -/
  second_ne_nil : second ≠ []
  /-- No separator stands in the first field. -/
  not_sep_first : ∀ c ∈ first, isSep c = false
  /-- No separator stands in the second field. -/
  not_sep_second : ∀ c ∈ second, isSep c = false
  /-- The text is the two fields, with separators around them and at least one between them. -/
  shape : ∃ before between behind, text = before ++ first ++ between ++ second ++ behind ∧
    between ≠ [] ∧ ∀ c ∈ before ++ between ++ behind, isSep c = true

/-- `FieldPair` is what it says: the text has these two fields. -/
theorem fields_eq_pair_iff {isSep : Char → Bool} {first second : List Char} :
    fields isSep text = [first, second] ↔ FieldPair isSep text first second := by
  constructor
  · intro h
    obtain ⟨before, rest, rfl, hb, hne, hf, hr, h⟩ := fields_eq_cons_iff.1 h
    obtain ⟨between, behind, rfl, hbt, hne', hf', hr', h⟩ := fields_eq_cons_iff.1 h
    have hbh := fields_eq_nil_iff.1 h
    refine ⟨hne, hne', hf, hf', before, between, behind, by simp, ?_, ?_⟩
    · -- without a separator between them the second field would begin with one
      rintro rfl
      cases second with
      | nil => exact hne' rfl
      | cons c second =>
        have h₁ := hr c rfl
        rw [hf' c List.mem_cons_self] at h₁
        cases h₁
    · simp only [List.mem_append]
      rintro c ((hc | hc) | hc)
      exacts [hb c hc, hbt c hc, hbh c hc]
  · rintro ⟨hne, hne', hf, hf', before, between, behind, rfl, hbt, hs⟩
    simp only [List.mem_append] at hs
    -- the first character of what follows a field comes from the separators
    have hhead : ∀ {l r : List Char}, l ≠ [] → ∀ c ∈ (l ++ r).head?, c ∈ l := by
      rintro (_ | ⟨a, l⟩) r h c hc
      · exact absurd rfl h
      · simp_all
    refine fields_eq_cons_iff.2 ⟨before, between ++ (second ++ behind), by simp,
      fun c hc => hs c (.inl (.inl hc)), hne, hf, ?_, ?_⟩
    · exact fun c hc => hs c (.inl (.inr (hhead hbt c hc)))
    · refine fields_eq_cons_iff.2 ⟨between, behind, rfl, fun c hc => hs c (.inl (.inr hc)), hne',
        hf', ?_, ?_⟩
      · exact fun c hc => hs c (.inr (List.mem_of_mem_head? hc))
      · exact fields_eq_nil_iff.2 fun c hc => hs c (.inr hc)

end Mustache.Text
