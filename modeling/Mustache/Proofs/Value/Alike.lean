import Mustache.Proofs.Entries
import Mustache.Proofs.Related
import Mustache.Proofs.Scopes
import Mustache.Value.Text

/-! # Values that differ in the order of entries
A map holds its entries in no particular order, and so do the maps inside of it. Values that are the
same but for this (`Value.Alike`) have the same text, the same members and items but for this, and
count as true both or neither; and in stacks of such values a name stands for such values
(`Scopes.lookup_alike`). The text is where the order could be seen, and there the entries of a map
are put in the order of their keys. -/

namespace Mustache

namespace Value

/-! ## The text of a map -/

/-- **In the text of a map the keys ascend**, each with the text of its value. -/
theorem text_map {entries : Entries Value} (h : entries.Distinct) :
    ∃ ascending : Entries Value, ascending.Perm entries ∧ ascending.Ascending ∧
      text (map entries) =
        "\x7b" ++ commas (labelled (ascending.map fun (k, v) => (k, v.text))) ++ "\x7d" := by
  refine ⟨entries.sorted, h.sorted_perm, Entries.ascending_sorted entries, ?_⟩
  have htexts : (memberTexts entries).sorted = memberTexts entries.sorted := by
    refine (Entries.ascending_sorted _).ext ?_ fun key => ?_
    · rw [memberTexts_eq_map]
      exact List.pairwise_map.2 (Entries.ascending_sorted entries)
    · rw [Entries.get?_sorted, memberTexts_eq_map, memberTexts_eq_map, Entries.get?_map_values,
        Entries.get?_map_values, Entries.get?_sorted]
  rw [text, htexts, memberTexts_eq_map]

/-! ## The same values but for the order -/

/-- **Values that are the same but for the order of entries** in maps, at any place: their keys
stand for such values again, and all else is in the same place. -/
inductive Alike : Value → Value → Prop where
  /-- The same value. -/
  | refl (v : Value) : Alike v v
  /-- Lists with such values in the same places. -/
  | list {items items' : List Value} (hlength : items.length = items'.length)
      (h : ∀ v v', (v, v') ∈ items.zip items' → Alike v v') : Alike (list items) (list items')
  /-- Maps in which the same keys stand for such values. -/
  | map {entries entries' : Entries Value}
      (hkeys : ∀ key, (entries.get? key).isSome = (entries'.get? key).isSome)
      (h : ∀ key v v', entries.get? key = some v → entries'.get? key = some v' → Alike v v') :
      Alike (map entries) (map entries')
  /-- Records with the same fields in the same places, but for such values. -/
  | record (name : String) {fields fields' : List (String × Value)}
      (hnames : fields.map Prod.fst = fields'.map Prod.fst)
      (h : ∀ e e', (e, e') ∈ fields.zip fields' → Alike e.2 e'.2) :
      Alike (record name fields) (record name fields')

/-- Fields with the same name and related values. -/
def SameField (R : Value → Value → Prop) (e e' : String × Value) : Prop :=
  e.1 = e'.1 ∧ R e.2 e'.2

theorem SameField.refl (e : String × Value) : SameField Alike e e := ⟨rfl, .refl e.2⟩

/-- Records with the same names have the same fields, but for their values. -/
theorem forall₂_sameField {R : Value → Value → Prop} {fields fields' : List (String × Value)}
    (hnames : fields.map Prod.fst = fields'.map Prod.fst)
    (h : ∀ e e', (e, e') ∈ fields.zip fields' → R e.2 e'.2) :
    List.Forall₂ (SameField R) fields fields' := by
  rw [← List.forall₂_eq_eq_eq, List.forall₂_map_left_iff, List.forall₂_map_right_iff] at hnames
  exact List.forall₂_iff_zip.2
    ⟨hnames.length_eq, fun hmem => ⟨List.forall₂_zip hnames hmem, h _ _ hmem⟩⟩

theorem alike_list {items items' : List Value} (h : List.Forall₂ Alike items items') :
    Alike (list items) (list items') :=
  .list h.length_eq fun _ _ hmem => List.forall₂_zip h hmem

theorem alike_map {entries entries' : Entries Value}
    (h : ∀ key, Option.Rel Alike (entries.get? key) (entries'.get? key)) :
    Alike (map entries) (map entries') :=
  .map (fun key => (rel_iff.1 (h key)).1) fun key => (rel_iff.1 (h key)).2

theorem alike_record (name : String) {fields fields' : List (String × Value)}
    (h : List.Forall₂ (SameField Alike) fields fields') :
    Alike (record name fields) (record name fields') :=
  .record name (map_eq_of_forall₂ (h.imp fun _ _ hfield => hfield.1))
    fun _ _ hmem => (List.forall₂_zip h hmem).2

/-- **A map in another order** of its entries. -/
theorem alike_of_perm {entries entries' : Entries Value} (h : entries.Distinct)
    (hperm : entries.Perm entries') : Alike (map entries) (map entries') := by
  refine alike_map fun key => ?_
  rw [h.get?_of_perm hperm]
  exact rel_refl .refl _

variable {v v' v'' : Value}

theorem Alike.symm (h : v.Alike v') : v'.Alike v := by
  induction h with
  | refl v => exact .refl v
  | @list items items' hlength _ ih =>
    have hitems : List.Forall₂ (fun v v' => v'.Alike v) items items' :=
      List.forall₂_iff_zip.2 ⟨hlength, fun hmem => ih _ _ hmem⟩
    exact alike_list hitems.flip
  | map hkeys _ ih =>
    exact .map (fun key => (hkeys key).symm) fun key v v' hv hv' => ih key v' v hv' hv
  | @record name fields fields' hnames _ ih =>
    have hfields : List.Forall₂ (SameField fun v v' => v'.Alike v) fields fields' :=
      forall₂_sameField hnames ih
    exact alike_record name (hfields.imp fun _ _ he => ⟨he.1.symm, he.2⟩).flip

/-- Such values differ no more from a third one than from each other. -/
theorem Alike.trans (h : v.Alike v') (h' : v'.Alike v'') : v.Alike v'' := by
  induction h generalizing v'' with
  | refl v => exact h'
  | @list items items' hlength h ih =>
    cases h' with
    | refl => exact .list hlength h
    | @list _ items'' hlength' h' =>
      have hleft : List.Forall₂ (fun v v' => ∀ v'', v'.Alike v'' → v.Alike v'') items items' :=
        List.forall₂_iff_zip.2 ⟨hlength, fun hmem v'' => ih _ _ hmem⟩
      have hright : List.Forall₂ Alike items' items'' :=
        List.forall₂_iff_zip.2 ⟨hlength', fun hmem => h' _ _ hmem⟩
      exact alike_list (forall₂_comp (fun v v' v'' hv hv' => hv v'' hv') hleft hright)
  | @map entries entries' hkeys h ih =>
    cases h' with
    | refl => exact .map hkeys h
    | @map _ entries'' hkeys' h' =>
      refine .map (fun key => (hkeys key).trans (hkeys' key)) fun key v v'' hv hv'' => ?_
      obtain ⟨v', hv'⟩ := Option.isSome_iff_exists.1 ((hkeys key).symm.trans (hv ▸ rfl))
      exact ih key v v' hv hv' (h' key v' v'' hv' hv'')
  | @record name fields fields' hnames h ih =>
    cases h' with
    | refl => exact .record name hnames h
    | @record _ _ fields'' hnames' h' =>
      have hleft : List.Forall₂ (SameField fun v v' => ∀ v'', v'.Alike v'' → v.Alike v'') fields
          fields' :=
        forall₂_sameField hnames fun e e' hmem v'' => ih e e' hmem
      have hright : List.Forall₂ (SameField Alike) fields' fields'' :=
        forall₂_sameField hnames' h'
      refine alike_record name (forall₂_comp (fun e e' e'' he he' => ?_) hleft hright)
      exact ⟨he.1.trans he'.1, he.2 e''.2 he'.2⟩

/-! ## What is seen of a value -/

/-- **The text of a value does not show the order** of entries. -/
theorem Alike.text_eq (h : v.Alike v') : v.text = v'.text := by
  induction h with
  | refl v => rfl
  | @list items items' hlength _ ih =>
    have htexts : items.map text = items'.map text :=
      map_eq_of_forall₂ (List.forall₂_iff_zip.2 ⟨hlength, fun hmem => ih _ _ hmem⟩)
    rw [text, text, itemTexts_eq_map, itemTexts_eq_map, htexts]
  | @map entries entries' hkeys _ ih =>
    -- each key stands for the same text, and there is one order for the keys
    have hsorted : (memberTexts entries).sorted = (memberTexts entries').sorted := by
      refine Entries.sorted_congr fun key => ?_
      rw [memberTexts_eq_map, memberTexts_eq_map, Entries.get?_map_values,
        Entries.get?_map_values]
      exact map_eq_of_rel (rel_iff.2 ⟨hkeys key, ih key⟩)
    rw [text, text, hsorted]
  | @record name fields fields' hnames _ ih =>
    have htexts : memberTexts fields = memberTexts fields' := by
      rw [memberTexts_eq_map, memberTexts_eq_map]
      have hfields : List.Forall₂ (SameField fun v v' => v.text = v'.text) fields fields' :=
        forall₂_sameField hnames ih
      exact map_eq_of_forall₂ (hfields.imp fun _ _ h => Prod.ext h.1 h.2)
    have hempty : fields.isEmpty = fields'.isEmpty := by
      simpa using congrArg List.isEmpty hnames
    rw [text, text, htexts, hempty]

/-- They count as true both or neither. -/
theorem Alike.isTruthy_eq (h : v.Alike v') : v.isTruthy = v'.isTruthy := by
  cases h with
  | refl v => rfl
  | @list items items' hlength _ =>
    have hempty : items.isEmpty = items'.isEmpty := by
      rw [Bool.eq_iff_iff, List.isEmpty_iff, List.isEmpty_iff, ← List.length_eq_zero_iff, hlength,
        List.length_eq_zero_iff]
    rw [isTruthy, isTruthy, hempty]
  | @map entries entries' hkeys _ => rw [isTruthy, isTruthy, Entries.isEmpty_congr hkeys]
  | record name hnames _ => rfl

/-- They are lists both or neither, of such items. -/
theorem Alike.asList? (h : v.Alike v') :
    Option.Rel (List.Forall₂ Alike) v.asList? v'.asList? := by
  cases h with
  | refl v => exact rel_refl (fun items => List.forall₂_same.2 fun v _ => .refl v) _
  | list hlength h => exact .some (List.forall₂_iff_zip.2 ⟨hlength, fun hmem => h _ _ hmem⟩)
  | map _ _ => exact .none
  | record _ _ _ => exact .none

theorem get?_fields {fields fields' : List (String × Value)}
    (h : List.Forall₂ (SameField Alike) fields fields') (key : String) :
    Option.Rel Alike (Entries.get? fields key) (Entries.get? fields' key) := by
  induction h with
  | nil => exact .none
  | @cons e e' fields fields' he _ ih =>
    obtain ⟨k, v⟩ := e
    obtain ⟨k', v'⟩ := e'
    obtain ⟨rfl, hv⟩ := he
    rw [Entries.get?_cons, Entries.get?_cons]
    split
    · exact .some hv
    · exact ih

/-- Their members of one name are such values again. -/
theorem Alike.get? (h : v.Alike v') (key : String) :
    Option.Rel Alike (v.get? key) (v'.get? key) := by
  cases h with
  | refl v => exact rel_refl .refl _
  | list _ _ => exact .none
  | map hkeys h => exact rel_iff.2 ⟨hkeys key, h key⟩
  | record name hnames h =>
    rw [get?_record, get?_record]
    exact get?_fields (forall₂_sameField hnames h) key

end Value

/-! ## Stacks -/

namespace Scopes

/-- Stacks of values that are the same but for the order of entries. -/
abbrev Alike : Scopes → Scopes → Prop := List.Forall₂ Value.Alike

variable {scopes scopes' : Scopes}

theorem pop_alike (h : scopes.Alike scopes') : scopes.pop.Alike scopes'.pop := by
  cases h with
  | nil => exact .nil
  | cons _ hrest => exact hrest

theorem member?_alike (h : scopes.Alike scopes') (name : String) :
    Option.Rel Value.Alike (scopes.member? name) (scopes'.member? name) := by
  induction h with
  | nil => exact .none
  | cons hv _ ih =>
    rw [member?_cons, member?_cons]
    exact rel_or (hv.get? name) ih

/-- What the characters of a name stand for: the first component is found among the scopes, and the
others inside it. -/
theorem resolve_alike (h : scopes.Alike scopes') (name : List Char) :
    Option.Rel Value.Alike (scopes.resolve name) (scopes'.resolve name) := by
  -- by induction on the length: behind a dot the name goes on inside what was found
  induction hn : name.length using Nat.strong_induction_on generalizing name scopes scopes' with
  | h n ih =>
    subst hn
    by_cases hdot : name = ['.']
    · rw [resolve, resolve, if_pos hdot, if_pos hdot]
      cases h with
      | nil => exact .none
      | cons hv _ => exact .some hv
    · rw [resolve_of_ne scopes hdot, resolve_of_ne scopes' hdot]
      refine rel_bind (member?_alike h _) fun v v' hv => ?_
      split
      · rename_i hmem
        have hlength := (List.dropWhile_sublist (l := name) (· != '.')).length_le
        have hpos := List.length_pos_of_mem hmem
        have hlt : (name.dropWhile (· != '.')).tail.length < name.length := by
          rw [List.length_tail]
          omega
        exact ih _ hlt (.cons hv .nil) _ rfl
      · exact .some hv

/-- **A name stands for such values** in stacks of them. -/
theorem lookup_alike (h : scopes.Alike scopes') (name : String) :
    Option.Rel Value.Alike (scopes.lookup name) (scopes'.lookup name) :=
  resolve_alike h name.toList

end Scopes

end Mustache
