import Mustache.Proofs.Html
import Mustache.Text.Search

/-! # Reading entities back
Escaping loses nothing: `unescape` reads a text from left to right, an entity as the character for
which it stands, and what it reads in the escaped form of a text is the text. The entities in a text
that is escaped are no exception, since their ampersands are replaced as well. A text is its own
escaped form exactly if it has no significant characters, and then nothing is built for it. -/

namespace Mustache.Html

/-- The characters that are replaced by entities. -/
def significant : List Char := '&' :: markup

/-- The characters for which the entities stand. -/
def meanings : List (String × Char) :=
  [("&amp;", '&'), ("&lt;", '<'), ("&gt;", '>'), ("&#34;", '"'), ("&#39;", '\'')]

/-- If a text begins with an entity, the character for which it stands and the text behind it. -/
def readEntity? (text : List Char) : Option (Char × List Char) :=
  meanings.findSome? fun (entity, c) =>
    (Text.dropMark? entity.toList text).map fun rest => (c, rest)

variable {c : Char} {cs rest text : List Char} {entity : String}

/-- What is read is an entity at the start of the text. -/
theorem eq_of_readEntity? (h : readEntity? text = some (c, rest)) :
    ∃ entity, (entity, c) ∈ meanings ∧ text = entity.toList ++ rest := by
  obtain ⟨⟨entity, d⟩, hmem, hread⟩ := List.exists_of_findSome?_eq_some h
  obtain ⟨rest', hdrop, heq⟩ := Option.map_eq_some_iff.1 hread
  cases heq
  exact ⟨entity, hmem, Text.dropMark?_eq_some_iff.1 hdrop⟩

/-- Behind an entity there is less text than before it. -/
theorem length_lt_of_readEntity? (h : readEntity? text = some (c, rest)) :
    rest.length < text.length := by
  obtain ⟨entity, hmem, rfl⟩ := eq_of_readEntity? h
  have hall : ∀ m ∈ meanings, 0 < m.1.toList.length := by decide
  have hpos : 0 < entity.toList.length := hall (entity, c) hmem
  rw [List.length_append]
  omega

/-- Reads a text from left to right: an entity is the character for which it stands, and any other
character is itself. -/
def unescape (text : List Char) : List Char :=
  match text with
  | [] => []
  | c :: text =>
    match _h : readEntity? (c :: text) with
    | some (d, rest) => d :: unescape rest
    | none => c :: unescape text
termination_by text.length
decreasing_by
  · exact length_lt_of_readEntity? _h
  · exact Nat.lt_succ_self _

theorem unescape_of_readEntity? (h : readEntity? text = some (c, rest)) :
    unescape text = c :: unescape rest := by
  cases text with
  | nil => exact absurd (length_lt_of_readEntity? h) (Nat.not_lt_zero _)
  | cons d text =>
    rw [unescape]
    split
    · rename_i heq
      rw [h] at heq
      cases heq
      rfl
    · rename_i heq
      rw [h] at heq
      cases heq

theorem unescape_cons_of_readEntity? (h : readEntity? (c :: text) = none) :
    unescape (c :: text) = c :: unescape text := by
  rw [unescape]
  split
  · rename_i heq
    rw [h] at heq
    cases heq
  · rfl

/-! ## One character -/

/-- The entity of a character is read as this character. -/
theorem readEntity?_append (h : entity? c = some entity) (rest : List Char) :
    readEntity? (entity.toList ++ rest) = some (c, rest) := by
  unfold entity? at h
  split at h <;> cases h <;> rfl

/-- Every entity begins with an ampersand. -/
theorem readEntity?_cons_of_ne (h : c ≠ '&') (rest : List Char) :
    readEntity? (c :: rest) = none := by
  simp [readEntity?, meanings, Text.dropMark?, h.symm]

/-- **What is written for a character is read as this character**, whatever stands behind it. -/
theorem unescape_escapeChar_append (c : Char) (rest : List Char) :
    unescape (escapeChar c ++ rest) = c :: unescape rest := by
  cases hentity : entity? c with
  | none =>
    -- such a character is no ampersand, so nothing behind it makes an entity of it
    simp only [escapeChar, hentity, List.singleton_append]
    exact unescape_cons_of_readEntity?
      (readEntity?_cons_of_ne (entity?_eq_none_iff.1 hentity).1 rest)
  | some entity =>
    simp only [escapeChar, hentity]
    exact unescape_of_readEntity? (readEntity?_append hentity rest)

/-- What is written for a significant character is longer than it. -/
theorem one_lt_length_escapeChar (h : entity? c = some entity) : 1 < (escapeChar c).length := by
  have hall : ∀ e ∈ entities, 1 < e.toList.length := by decide
  simp only [escapeChar, h]
  exact hall entity (mem_entities h)

/-! ## Texts -/

/-- **Reading what was escaped gives it back.** -/
theorem unescape_escapeChars (cs : List Char) : unescape (escapeChars cs) = cs := by
  induction cs with
  | nil => rw [escapeChars_nil, unescape]
  | cons c cs ih => rw [escapeChars_cons, unescape_escapeChar_append, ih]

/-- Escaping makes no text shorter. -/
theorem length_le_length_escapeChars (cs : List Char) : cs.length ≤ (escapeChars cs).length := by
  induction cs with
  | nil => exact Nat.le_refl 0
  | cons c cs ih =>
    have hc : 1 ≤ (escapeChar c).length := by
      cases hentity : entity? c with
      | none => simp [escapeChar, hentity]
      | some entity => exact Nat.le_of_lt (one_lt_length_escapeChar hentity)
    rw [escapeChars_cons, List.length_cons, List.length_append]
    omega

/-- **A text is its own escaped form** exactly if none of its characters has an entity. -/
theorem escapeChars_eq_self_iff : escapeChars cs = cs ↔ ∀ c ∈ cs, entity? c = none := by
  induction cs with
  | nil => simp
  | cons c cs ih =>
    rw [escapeChars_cons, List.forall_mem_cons, ← ih]
    cases hentity : entity? c with
    | none => simp [escapeChar, hentity]
    | some entity =>
      -- the escaped form is longer than the text
      have hc := one_lt_length_escapeChar hentity
      have hcs := length_le_length_escapeChars cs
      refine iff_of_false (fun heq => ?_) (by simp)
      have hlength := congrArg List.length heq
      rw [List.length_append, List.length_cons] at hlength
      omega

/-- Characters without an entity are those that are not significant. -/
theorem forall_entity?_eq_none_iff :
    (∀ c ∈ cs, entity? c = none) ↔ ∀ c ∈ significant, c ∉ cs := by
  simp only [entity?_eq_none_iff, significant, List.forall_mem_cons]
  constructor
  · intro h
    exact ⟨fun hmem => (h '&' hmem).1 rfl, fun c hc hmem => (h c hmem).2 hc⟩
  · rintro ⟨hamp, hmarkup⟩ c hmem
    refine ⟨?_, fun hc => hmarkup c hc hmem⟩
    rintro rfl
    exact hamp hmem

/-- Nothing is built for a text exactly if none of its characters has an entity. -/
theorem escape?_eq_none_iff {s : String} :
    escape? s = none ↔ ∀ c ∈ s.toList, entity? c = none := by
  simp [escape?]

/-- The escaped form of a text is the text exactly if none of its characters has an entity. -/
theorem escape_eq_self_iff {s : String} :
    escape s = s ↔ ∀ c ∈ s.toList, entity? c = none := by
  rw [← String.toList_inj, toList_escape, escapeChars_eq_self_iff]

/-- Texts one after the other are escaped one after the other. -/
theorem escape_append (s t : String) : escape (s ++ t) = escape s ++ escape t := by
  rw [← String.toList_inj, String.toList_append, toList_escape, toList_escape, toList_escape,
    String.toList_append, escapeChars_append]

/-- **Escaping is faithful.**

* Reading the escaped form of a text gives the text back, so different texts have different escaped
  forms.
* The escaped form has no markup, and every ampersand in it begins an entity.
* Texts one after the other are escaped one after the other.
* Nothing is built exactly if the text has no significant characters, and exactly then the escaped
  form is the text itself. -/
theorem unescape_escape :
    (∀ s : String, unescape (escape s).toList = s.toList) ∧ Function.Injective escape ∧
    (∀ s : String, Inert (escape s).toList ∧ Referential (escape s).toList) ∧
    (∀ s t : String, escape (s ++ t) = escape s ++ escape t) ∧
    ∀ s : String, (escape? s = none ↔ ∀ c ∈ significant, c ∉ s.toList) ∧
      (escape? s = none ↔ escape s = s) := by
  have hread : ∀ s : String, unescape (escape s).toList = s.toList := by
    intro s
    rw [toList_escape, unescape_escapeChars]
  refine ⟨hread, ?_, fun s => ⟨inert_escape s, referential_escape s⟩, escape_append, fun s => ?_⟩
  · intro s t heq
    rw [← String.toList_inj, ← hread s, heq, hread t]
  · refine ⟨?_, ?_⟩
    · rw [escape?_eq_none_iff, forall_entity?_eq_none_iff]
    · rw [escape?_eq_none_iff, escape_eq_self_iff]

/-- The ampersands of an entity and of a part of one are replaced like any other. -/
example : escape "&lt;&#3" = "&amp;lt;&amp;#3" := by decide +kernel

end Mustache.Html
