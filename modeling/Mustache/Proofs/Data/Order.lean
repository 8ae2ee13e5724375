import Mustache.Proofs.Data.Maps
import Mustache.Proofs.Rendering.Alike

/-! # The order of entries
The entries of a map can be described in any order, in a map at any place in the data. It makes no
difference to the value but for the order of entries in it, as long as entries whose keys have one
text come in the same order (`Data.Reordered.value?_alike`): a map is bound to the last one of them.
As no rendering shows the order of entries in a value, none shows that of the description
(`Template.render_reordered`). -/

namespace Mustache

namespace Data

/-- **Entries in another order**: those whose keys have one text still come in the same order. -/
structure Rearranged (entries entries' : List (Data × Data)) : Prop where
  /-- The entries are the same. -/
  perm : entries.Perm entries'
  /-- Those with one text come in the same order. -/
  filter_eq (t : String) :
    entries.filter (fun (k, _) => k.keyText? = some t) =
      entries'.filter fun (k, _) => k.keyText? = some t

/-- **Data that differ in the order of entries only**, in one or more maps at any place. -/
inductive Reordered : Data → Data → Prop where
  /-- The same data. -/
  | refl (d : Data) : Reordered d d
  /-- One difference after the other. -/
  | trans {d d' d'' : Data} (h : Reordered d d') (h' : Reordered d' d'') : Reordered d d''
  /-- The entries of a map are in another order. -/
  | entries {entries entries' : List (Data × Data)} (h : Rearranged entries entries') :
      Reordered (ofEntries entries) (ofEntries entries')
  /-- The difference is inside a wrapper. -/
  | wrapped {d d' : Data} (h : Reordered d d') : Reordered (.wrapped d) (.wrapped d')
  /-- The difference is in an item of a list. -/
  | item (before after : List Data) {d d' : Data} (h : Reordered d d') :
      Reordered (.sequence (before ++ d :: after)) (.sequence (before ++ d' :: after))
  /-- The difference is in a key of a map. -/
  | key (before after : List (MapPart Data)) {d d' : Data} (h : Reordered d d') :
      Reordered (.map (before ++ .key d :: after)) (.map (before ++ .key d' :: after))
  /-- The difference is in a value of a map. -/
  | value (before after : List (MapPart Data)) {d d' : Data} (h : Reordered d d') :
      Reordered (.map (before ++ .value d :: after)) (.map (before ++ .value d' :: after))
  /-- The difference is in a field of a record. -/
  | field (name field : String) (before after : List (String × Data)) {d d' : Data}
      (h : Reordered d d') :
      Reordered (.record name (before ++ (field, d) :: after))
        (.record name (before ++ (field, d') :: after))

end Data

/-! ## Maps given by entries -/

namespace MapPart

variable {parts : List (MapPart Data)}

/-- The parts that describe entries: each key and then its value. -/
def ofEntries (entries : List (Data × Data)) : List (MapPart Data) :=
  entries.flatMap fun (k, d) => [.key k, .value d]

@[simp] theorem ofEntries_concat (entries : List (Data × Data)) (k d : Data) :
    ofEntries (entries ++ [(k, d)]) = ofEntries entries ++ [.key k] ++ [.value d] := by
  simp [ofEntries]

/-- The pairs of a description by entries are the entries. -/
theorem pairs_ofEntries (entries : List (Data × Data)) : pairs (ofEntries entries) = entries := by
  induction entries using List.reverseRecOn with
  | nil => rfl
  | append_singleton entries e ih =>
    obtain ⟨k, d⟩ := e
    rw [ofEntries_concat, pairs_concat_value, pairs_concat_key, latestFrom_concat_key, ih]
    rfl

/-- A key is accepted if it has a text. -/
theorem accepted_key_iff {k : Data} :
    (∀ fault, ¬ (key k).Refused parts fault) ↔ ∃ t, k.keyText? = some t := by
  refine ⟨fun h => ?_, fun ⟨t, ht⟩ => not_refused_key ht⟩
  cases hk : Value.ofData k with
  | error fault => exact absurd (.keyFault hk) (h fault)
  | ok v =>
    cases hv : v.keyText with
    | error fault =>
      obtain ⟨rfl, hnone⟩ := Value.keyText_eq_error_iff.1 hv
      exact absurd (.keyShape hk hnone) (h _)
    | ok t => exact ⟨t, Data.keyText?_eq_some_iff.2 ⟨v, hk, Value.keyText_eq_ok_iff.1 hv⟩⟩

/-- A value that has a key is accepted if it has a value of its own. -/
theorem accepted_value_iff {d : Data} (h : unused parts ≠ []) :
    (∀ fault, ¬ (value d).Refused parts fault) ↔ ∃ v, d.value? = some v := by
  refine ⟨fun hd => ?_, fun ⟨v, hv⟩ => not_refused_value hv h⟩
  cases hv : Value.ofData d with
  | error fault => exact absurd (.valueFault hv) (hd fault)
  | ok v => exact ⟨v, Data.value?_eq_some_iff.2 hv⟩

/-- **Entries are accepted** if all keys have texts and all values have values. -/
theorem accepted_ofEntries_iff (entries : List (Data × Data)) :
    Accepted Refused (ofEntries entries) ↔
      ∀ e ∈ entries, (∃ t, e.1.keyText? = some t) ∧ ∃ v, e.2.value? = some v := by
  induction entries using List.reverseRecOn with
  | nil => exact ⟨fun _ _ he => (List.not_mem_nil he).elim, fun _ => .nil⟩
  | append_singleton entries e ih =>
    obtain ⟨k, d⟩ := e
    have hunused : unused (ofEntries entries ++ [.key k]) ≠ [] := unused_concat_key _ k
    rw [ofEntries_concat, accepted_concat_iff, accepted_concat_iff, ih, accepted_key_iff,
      accepted_value_iff hunused, List.forall_mem_append, List.forall_mem_singleton, and_assoc]

end MapPart

namespace Data

/-- What is another order of some entries, of that they are another order. -/
theorem Rearranged.symm {entries entries' : List (Data × Data)} (h : Rearranged entries entries') :
    Rearranged entries' entries :=
  ⟨h.perm.symm, fun t => (h.filter_eq t).symm⟩

/-- Neighbours whose keys have different texts can change places. -/
theorem rearranged_swap {k k' : Data} (h : ∀ t, k.keyText? = some t → k'.keyText? ≠ some t)
    (d d' : Data) (before after : List (Data × Data)) :
    Rearranged (before ++ (k, d) :: (k', d') :: after) (before ++ (k', d') :: (k, d) :: after) := by
  refine ⟨.append_left before (.swap _ _ _), fun t => ?_⟩
  rw [List.filter_append, List.filter_append]
  refine congrArg _ ?_
  by_cases hk : k.keyText? = some t
  · simp [hk, h t hk]
  · simp [List.filter_cons, hk]

theorem value?_eq_none_iff {d : Data} : d.value? = none ↔ ¬ ∃ v, Value.ofData d = .ok v := by
  simp only [← value?_eq_some_iff, ← Option.isSome_iff_exists, Bool.not_eq_true,
    Option.isSome_eq_false_iff, Option.isNone_iff_eq_none]

/-- Data have related values if both have values or none, and the values are related. -/
theorem rel_value?_iff {R : Value → Value → Prop} {d d' : Data} :
    Option.Rel R d.value? d'.value? ↔
      ((∃ v, Value.ofData d = .ok v) ↔ ∃ v', Value.ofData d' = .ok v') ∧
        ∀ v v', Value.ofData d = .ok v → Value.ofData d' = .ok v' → R v v' := by
  rw [rel_iff, Bool.eq_iff_iff, Option.isSome_iff_exists, Option.isSome_iff_exists]
  simp only [value?_eq_some_iff]

/-- Entries are accepted in every order or in none. -/
theorem Rearranged.accepted_iff {entries entries' : List (Data × Data)}
    (h : Rearranged entries entries') :
    Accepted MapPart.Refused (MapPart.ofEntries entries) ↔
      Accepted MapPart.Refused (MapPart.ofEntries entries') := by
  simp only [MapPart.accepted_ofEntries_iff, h.perm.mem_iff]

/-- **A map with its entries in another order** has a value with them, in which the same texts are
bound to the same values. -/
theorem Rearranged.value?_alike {entries entries' : List (Data × Data)}
    (h : Rearranged entries entries') :
    Option.Rel Value.Alike (ofEntries entries).value? (ofEntries entries').value? := by
  by_cases ha : Accepted MapPart.Refused (MapPart.ofEntries entries)
  · obtain ⟨es, hes, -, hget⟩ := MapState.ofData_map_of_accepted ha
    obtain ⟨es', hes', -, hget'⟩ := MapState.ofData_map_of_accepted (h.accepted_iff.1 ha)
    have hv : (ofEntries entries).value? = some (.map es) := value?_eq_some_iff.2 hes
    have hv' : (ofEntries entries').value? = some (.map es') := value?_eq_some_iff.2 hes'
    rw [hv, hv']
    refine .some (Value.alike_map fun t => ?_)
    -- what a text is bound to hangs on the entries with this text alone
    rw [hget, hget', MapPart.pairs_ofEntries, MapPart.pairs_ofEntries, bound?, bound?, h.filter_eq]
    exact rel_refl .refl _
  · have hnone : (ofEntries entries).value? = none :=
      value?_eq_none_iff.2 (mt MapState.exists_ofData_map_iff.1 ha)
    have hnone' : (ofEntries entries').value? = none :=
      value?_eq_none_iff.2 (mt MapState.exists_ofData_map_iff.1 (mt h.accepted_iff.2 ha))
    rw [hnone, hnone']
    exact .none

/-! ## Data inside other data

What is around some data has the same value, but for the order of entries, for all data whose values
are the same but for it. -/

theorem toOption_bind {α β : Type} (x : Except ValueFault α) (f : α → Except ValueFault β) :
    (x >>= f).toOption = x.toOption.bind fun a => (f a).toOption := by
  cases x <;> rfl

theorem toOption_map {α β : Type} (x : Except ValueFault α) (f : α → β) :
    (x.map f).toOption = x.toOption.map f := by
  cases x <;> rfl

theorem value?_wrapped (d : Data) : (wrapped d).value? = d.value? := by
  rw [value?, Value.ofData, value?]

/-- The value of data in a row. -/
theorem value?_sequence (items : List Data) :
    (sequence items).value? = (items.mapM value?).map Value.list := by
  have hitems : (Value.ofItems items).toOption = items.mapM value? := by
    induction items with
    | nil => rfl
    | cons d items ih =>
      rw [Value.ofItems, toOption_bind, List.mapM_cons, ← ih]
      refine Option.bind_congr fun v _ => ?_
      rw [toOption_bind]
      rfl
  rw [value?, Value.ofData, toOption_map, hitems]

/-- The field of a record with its value. -/
def field? (e : String × Data) : Option (String × Value) := e.2.value?.map (e.1, ·)

theorem field?_alike (field : String) {d d' : Data}
    (h : Option.Rel Value.Alike d.value? d'.value?) :
    Option.Rel (Value.SameField Value.Alike) (field? (field, d)) (field? (field, d')) :=
  rel_map h fun _ _ hv => ⟨rfl, hv⟩

/-- The value of a record. -/
theorem value?_record (name : String) (fields : List (String × Data)) :
    (record name fields).value? = (fields.mapM field?).map (Value.record name) := by
  have hfields : (Value.ofFields fields).toOption = fields.mapM field? := by
    induction fields with
    | nil => rfl
    | cons e fields ih =>
      obtain ⟨field, d⟩ := e
      rw [Value.ofFields, toOption_bind, List.mapM_cons, ← ih]
      show _ = (d.value?.map _).bind _
      rw [Option.bind_map]
      refine Option.bind_congr fun v _ => ?_
      rw [toOption_bind]
      rfl
  rw [value?, Value.ofData, toOption_map, hfields]

end Data

/-- The order of entries makes no difference to the text of a key: what has entries has none. -/
theorem Value.Alike.keyText_eq {v v' : Value} (h : v.Alike v') :
    v.keyText.toOption = v'.keyText.toOption := by
  cases h <;> rfl

namespace MapState

/-- What is known of two maps is the same but for the order of entries. -/
structure Alike (s s' : MapState) : Prop where
  /-- The same key is pending. -/
  pending_eq : s.pending = s'.pending
  /-- The same keys have values, which are the same but for the order. -/
  entries (key : String) : Option.Rel Value.Alike (s.entries.get? key) (s'.entries.get? key)

theorem Alike.refl (s : MapState) : s.Alike s := ⟨rfl, fun _ => rel_refl .refl _⟩

variable {s s' : MapState} {d d' : Data}

/-- A key is taken in by its text. -/
theorem take_key_alike (h : Option.Rel Value.Alike d.value? d'.value?) (hs : s.Alike s') :
    Option.Rel Alike (s.take (.key d)).toOption (s'.take (.key d')).toOption := by
  rw [take, take, Data.toOption_bind, Data.toOption_bind]
  refine rel_bind h fun v v' hv => ?_
  rw [Data.toOption_bind, Data.toOption_bind, hv.keyText_eq]
  exact rel_bind (rel_refl (fun _ => rfl) _) fun t t' ht => .some ⟨congrArg some ht, hs.entries⟩

/-- A value is taken in for the pending key. -/
theorem take_value_alike (h : Option.Rel Value.Alike d.value? d'.value?) (hs : s.Alike s') :
    Option.Rel Alike (s.take (.value d)).toOption (s'.take (.value d')).toOption := by
  rw [take, take, Data.toOption_bind, Data.toOption_bind]
  refine rel_bind h fun v v' hv => ?_
  rw [hs.pending_eq]
  cases s'.pending with
  | none => exact .none
  | some t =>
    refine .some ⟨rfl, fun key => ?_⟩
    rw [Entries.get?_put, Entries.get?_put]
    split
    · exact .some hv
    · exact hs.entries key

/-- **The next part** is taken in alike. -/
theorem take_alike (part : MapPart Data) (hs : s.Alike s') :
    Option.Rel Alike (s.take part).toOption (s'.take part).toOption := by
  cases part with
  | key d => exact take_key_alike (rel_refl .refl _) hs
  | value d => exact take_value_alike (rel_refl .refl _) hs

/-- **All further parts** are taken in alike. -/
theorem foldlM_take_alike (parts : List (MapPart Data)) (hs : s.Alike s') :
    Option.Rel Alike (parts.foldlM take s).toOption (parts.foldlM take s').toOption := by
  induction parts generalizing s s' with
  | nil => exact .some hs
  | cons part parts ih =>
    rw [List.foldlM_cons, List.foldlM_cons, Data.toOption_bind, Data.toOption_bind]
    exact rel_bind (take_alike part hs) fun t t' ht => ih ht

/-- A part of a map has nothing to do with the others but for what is known behind it. -/
theorem value?_map_alike {part part' : MapPart Data}
    (h : ∀ s : MapState, Option.Rel Alike (s.take part).toOption (s.take part').toOption)
    (before after : List (MapPart Data)) :
    Option.Rel Value.Alike (Data.map (before ++ part :: after)).value?
      (Data.map (before ++ part' :: after)).value? := by
  have hrun : Option.Rel Alike (run (before ++ part :: after)).toOption
      (run (before ++ part' :: after)).toOption := by
    rw [run_append, run_append]
    show Option.Rel Alike (run before >>= _).toOption (run before >>= _).toOption
    rw [Data.toOption_bind, Data.toOption_bind]
    refine rel_bind (rel_refl (fun _ => rfl) _) fun s s' hs => ?_
    subst hs
    rw [List.foldlM_cons, List.foldlM_cons, Data.toOption_bind, Data.toOption_bind]
    exact rel_bind (h s) fun t t' ht => foldlM_take_alike after ht
  rw [Data.value?, Data.value?, ofData_map_eq_run, ofData_map_eq_run, Data.toOption_map,
    Data.toOption_map]
  exact rel_map hrun fun t t' ht => Value.alike_map ht.entries

end MapState

namespace Data

variable {d d' : Data}

/-- **The order of entries makes no difference** to the value of data, but for the order of entries
in the value, wherever it is changed. -/
theorem Reordered.value?_alike (h : Reordered d d') :
    Option.Rel Value.Alike d.value? d'.value? := by
  induction h with
  | refl d => exact rel_refl .refl _
  | trans _ _ ih ih' => exact rel_trans (fun _ _ _ hv hv' => hv.trans hv') ih ih'
  | entries h => exact h.value?_alike
  | wrapped _ ih =>
    rw [value?_wrapped, value?_wrapped]
    exact ih
  | item before after _ ih =>
    rw [value?_sequence, value?_sequence]
    have hitems := forall₂_replace (R := fun d d' => Option.Rel Value.Alike d.value? d'.value?)
      (fun d => rel_refl .refl _) before after ih
    exact rel_map (mapM_rel hitems) fun _ _ => Value.alike_list
  | key before after _ ih =>
    exact MapState.value?_map_alike (fun s => MapState.take_key_alike ih (.refl s)) before after
  | value before after _ ih =>
    exact MapState.value?_map_alike (fun s => MapState.take_value_alike ih (.refl s)) before after
  | field name field before after _ ih =>
    rw [value?_record, value?_record]
    have hfields := forall₂_replace
      (R := fun e e' => Option.Rel (Value.SameField Value.Alike) (field? e) (field? e'))
      (fun e => rel_refl .refl _) before after (field?_alike field ih)
    exact rel_map (mapM_rel hfields) fun _ _ => Value.alike_record name

end Data

/-- **The order of entries is invisible.** Data that differ in the order of the entries of maps
only, where entries whose keys have one text come in the same order, both have a value or both have
none. If they have values, then in whatever order the maps in these hold their entries, at any
depth, every template ends the same for both, with the same output, in any sink; and so do the
renderings of the data themselves. -/
theorem Template.render_reordered {d d' : Data} (h : d.Reordered d') :
    ((∃ v, Value.ofData d = .ok v) ↔ ∃ v', Value.ofData d' = .ok v') ∧
      ∀ v v', Value.ofData d = .ok v → Value.ofData d' = .ok v' →
        ∀ (t : Template) (outer : Resolver) (sink : Sink),
          (∀ w w', v.Alike w → v'.Alike w' →
            t.renderStack outer [w] sink = t.renderStack outer [w'] sink) ∧
          t.render outer d sink = t.render outer d' sink := by
  have hrel := Data.rel_value?_iff.1 h.value?_alike
  refine ⟨hrel.1, fun v v' hv hv' t outer sink => ?_⟩
  have halike : v.Alike v' := hrel.2 v v' hv hv'
  constructor
  · intro w w' hw hw'
    exact t.renderStack_alike outer (.cons (hw.symm.trans (halike.trans hw')) .nil) sink
  · rw [Template.render, Template.render, hv, hv']
    exact t.renderStack_alike outer (.cons halike .nil) sink

/-- Two maps, one in a list in the other one, with their entries in other orders. The key `1` comes
twice in the inner one, as a number and as a text. The page shows both maps as a whole. -/
theorem Template.render_reordered_page :
    let inner : List (Data × Data) :=
      [(.signed 1, .text "x"), (.bool true, .unit), (.text "1", .text "y")]
    let inner' : List (Data × Data) :=
      [(.signed 1, .text "x"), (.text "1", .text "y"), (.bool true, .unit)]
    let d := Data.ofEntries [(.text "a", .sequence [.ofEntries inner]), (.text "b", .float 0.5)]
    let d' := Data.ofEntries [(.text "b", .float 0.5), (.text "a", .sequence [.ofEntries inner'])]
    let v : Value :=
      .map [("b", .float 0.5), ("a", .list [.map [("1", .str "y"), ("true", .null)]])]
    let v' : Value :=
      .map [("a", .list [.map [("true", .null), ("1", .str "y")]]), ("b", .float 0.5)]
    let w : Value :=
      .map [("b", .float 0.5), ("a", .list [.map [("true", .null), ("1", .str "y")]])]
    let page : Template := ⟨"page", [.interpolation "." true, .interpolation "c" true], [], true⟩
    (d.Reordered d' ∧ Value.ofData d = .ok v ∧ Value.ofData d' = .ok v' ∧ v'.Alike w) ∧
      page.renderStack (fun _ => none) [v] (.bounded 7) =
        page.renderStack (fun _ => none) [w] (.bounded 7) ∧
      page.render (fun _ => none) d (.bounded 7) = page.render (fun _ => none) d' (.bounded 7) := by
  intro inner inner' d d' v v' w page
  have hinner : (Data.ofEntries inner).Reordered (.ofEntries inner') := by
    refine .entries (Data.rearranged_swap (fun t ht => ?_) _ _ [(.signed 1, .text "x")] [])
    cases ht
    decide
  have houter : (Data.ofEntries
      [(.text "a", .sequence [.ofEntries inner']), (.text "b", .float 0.5)]).Reordered d' := by
    refine .entries (Data.rearranged_swap (fun t ht => ?_) _ _ [] [])
    cases ht
    decide
  have hreordered : d.Reordered d' :=
    .trans (.value [.key (.text "a")] _ (.item [] [] hinner)) houter
  have hv : Value.ofData d = .ok v := rfl
  have hv' : Value.ofData d' = .ok v' := rfl
  have hw : v'.Alike w := Value.alike_of_perm (by simp [Entries.Distinct]) (.swap _ _ [])
  obtain ⟨hstack, hrender⟩ :=
    (Template.render_reordered hreordered).2 v v' hv hv' page (fun _ => none) (.bounded 7)
  exact ⟨⟨hreordered, hv, hv', hw⟩, hstack v w (.refl v) hw, hrender⟩

end Mustache
