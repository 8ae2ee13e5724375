import Mustache.Proofs.Registry.Invariant

/-! # The registry is transparent
Over any history of calls a registry answers as if every source were parsed anew, although it parses
a source only if it does not stand under its name already (`after_transparent`). -/

namespace Mustache.Registry

/-! ## Runs -/

/-- The registry after some calls, where sources have this digest. -/
def after (digest : String → UInt64) (history : List Call) : Registry :=
  history.foldl perform (emptyWith digest)

/-- The events of some calls. -/
def eventsOf (history : List Call) : List Event := history.flatMap Call.events

@[simp] theorem after_concat (digest : String → UInt64) (history : List Call) (call : Call) :
    after digest (history ++ [call]) = (after digest history).perform call := by
  simp [after]

@[simp] theorem eventsOf_concat (history : List Call) (call : Call) :
    eventsOf (history ++ [call]) = eventsOf history ++ call.events := by
  simp [eventsOf]

/-- **Every history** leaves a registry that shows it. -/
theorem shows_after {digest : String → UInt64} {used : List String} (hd : NoCollision digest used)
    {history : List Call} (hu : ∀ source ∈ history.flatMap Call.sources, source ∈ used) :
    Shows digest used (after digest history) (eventsOf history) := by
  induction history using List.reverseRecOn with
  | nil => exact Shows.emptyWith digest used
  | append_singleton history call ih =>
    simp only [List.flatMap_append, List.mem_append] at hu
    rw [after_concat, eventsOf_concat]
    exact (ih fun s hs => hu s (.inl hs)).perform hd fun s hs => hu s (.inr (by simpa using hs))

/-! ## What calls keep -/

/-- A file that is loaded could be read, and is registered under its stem, which is new. -/
theorem register_of_loadFile {r r' : Registry} {name : String} {seen : List String}
    {file : LibraryFile} (h : r.loadFile seen file = .ok (name, r')) :
    ∃ text, file.text = .ok text ∧ Path.stem? file.path = some name ∧ name ∉ seen ∧
      r.register name text = .ok r' := by
  obtain ⟨path, text⟩ := file
  cases text with
  | error fault => cases h
  | ok text =>
    rw [loadFile_of_text] at h
    cases hstem : Path.stem? path with
    | none =>
      rw [hstem] at h
      cases h
    | some stem =>
      simp only [hstem] at h
      by_cases hseen : stem ∈ seen
      · rw [if_pos hseen] at h
        cases h
      · rw [if_neg hseen] at h
        cases hr : r.register stem text with
        | error e =>
          rw [hr] at h
          cases h
        | ok r'' =>
          rw [hr] at h
          cases h
          exact ⟨text, rfl, rfl, hseen, hr⟩

/-- **What registering keeps, loading keeps**, also when a fault ends it early. -/
theorem loadFrom_keeps {P : Registry → Prop} {files : List LibraryFile}
    (hregister : ∀ {r r' name text}, (∃ file ∈ files, file.text = .ok text) → P r →
      r.register name text = .ok r' → P r')
    {r : Registry} (h : P r) (seen : List String) : P (r.loadFrom seen files).2 := by
  induction files generalizing r seen with
  | nil => exact h
  | cons file files ih =>
    unfold loadFrom
    cases hf : r.loadFile seen file with
    | error fault => exact h
    | ok result =>
      obtain ⟨text, htext, -, -, hr⟩ := register_of_loadFile hf
      have hnext : P result.2 := hregister ⟨file, List.mem_cons_self, htext⟩ h hr
      refine ih (fun hex => hregister (hex.imp fun f h => ?_)) hnext _
      exact ⟨List.mem_cons_of_mem file h.1, h.2⟩

/-- **What registering and removing keep, every call keeps.** -/
theorem perform_keeps {P : Registry → Prop} {call : Call}
    (hregister : ∀ {r r' name source}, source ∈ call.sources → P r →
      r.register name source = .ok r' → P r')
    (hremove : ∀ {r} name, P r → P (r.remove name).2) {r : Registry} (h : P r) :
    P (r.perform call) := by
  have hone {name source : String} (hs : source ∈ call.sources) :
      P (r.perform (.register name source)) := by
    show P ((r.register name source).toOption.getD r)
    cases hr : r.register name source with
    | error e => exact h
    | ok r' => exact hregister hs h hr
  cases call with
  | register name source => exact hone (List.mem_singleton_self _)
  | getOrParse name source =>
    exact perform_getOrParse r name source ▸ hone (List.mem_singleton_self _)
  | render name source data =>
    exact perform_render r name source data ▸ hone (List.mem_singleton_self _)
  | remove name => exact hremove name h
  | loadTexts texts =>
    rw [perform, loadTexts_eq]
    refine loadFrom_keeps (fun hex => ?_) h []
    obtain ⟨file, hfile, ht⟩ := hex
    obtain ⟨entry, hentry, rfl⟩ := List.mem_map.1 hfile
    cases ht
    exact hregister (List.mem_map_of_mem hentry)

/-- **What holds at first and is kept, holds after every history.** -/
theorem after_keeps {P : Registry → Prop} {digest : String → UInt64} {history : List Call}
    (hregister : ∀ {r r' name source}, source ∈ history.flatMap Call.sources → P r →
      r.register name source = .ok r' → P r')
    (hremove : ∀ {r} name, P r → P (r.remove name).2) (h : P (emptyWith digest)) :
    P (after digest history) := by
  induction history using List.reverseRecOn with
  | nil => exact h
  | append_singleton history call ih =>
    simp only [List.flatMap_append, List.mem_append] at hregister
    rw [after_concat]
    refine perform_keeps (fun hs => hregister (.inr ?_)) hremove (ih fun hs => hregister (.inl hs))
    exact List.mem_flatMap.2 ⟨call, List.mem_singleton_self call, hs⟩

/-! ## Numbers of templates -/

/-- An answer is what is there already, or is put in its place. -/
theorem getOrParse_cases {r r' : Registry} {name source : String} {entry : Registered}
    (h : r.getOrParse name source = .ok (entry, r')) :
    r.get? name = some entry ∧ r' = r ∨
      ∃ t, parse name source = .ok t ∧ r.insert name source t = (entry, r') := by
  have hparsed : (parse name source).map (r.insert name source) = .ok (entry, r') →
      ∃ t, parse name source = .ok t ∧ r.insert name source t = (entry, r') := by
    intro h
    cases ht : parse name source with
    | error e =>
      rw [ht] at h
      cases h
    | ok t =>
      rw [ht] at h
      exact ⟨t, rfl, Except.ok.inj h⟩
  unfold getOrParse at h
  cases hget : r.get? name with
  | none =>
    simp only [hget] at h
    exact .inr (hparsed h)
  | some old =>
    simp only [hget] at h
    by_cases hd : old.digest = r.digest source
    · rw [if_pos hd] at h
      cases h
      exact .inl ⟨rfl, rfl⟩
    · rw [if_neg hd] at h
      exact .inr (hparsed h)

theorem parses_le_of_getOrParse {r r' : Registry} {name source : String} {entry : Registered}
    (h : r.getOrParse name source = .ok (entry, r')) : r.parses ≤ r'.parses := by
  rcases getOrParse_cases h with ⟨-, rfl⟩ | ⟨t, -, hins⟩
  · exact Nat.le_refl r'.parses
  · cases hins
    exact Nat.le_succ r.parses

/-- What is registered is the answer to a source. -/
theorem exists_getOrParse_of_register {r r' : Registry} {name source : String}
    (h : r.register name source = .ok r') :
    ∃ entry, r.getOrParse name source = .ok (entry, r') := by
  unfold register at h
  cases hgp : r.getOrParse name source with
  | error e =>
    rw [hgp] at h
    cases h
  | ok found =>
    rw [hgp] at h
    cases h
    exact ⟨found.1, rfl⟩

theorem parses_le_of_register {r r' : Registry} {name source : String}
    (h : r.register name source = .ok r') : r.parses ≤ r'.parses := by
  obtain ⟨entry, hgp⟩ := exists_getOrParse_of_register h
  exact parses_le_of_getOrParse hgp

theorem parses_le_perform (r : Registry) (call : Call) : r.parses ≤ (r.perform call).parses :=
  perform_keeps (fun _ h hr => Nat.le_trans h (parses_le_of_register hr)) (fun _ h => h)
    (Nat.le_refl r.parses)

/-- Numbers are never used again. -/
theorem parses_after_mono (digest : String → UInt64) {earlier history : List Call}
    (h : earlier <+: history) : (after digest earlier).parses ≤ (after digest history).parses := by
  obtain ⟨later, rfl⟩ := h
  induction later using List.reverseRecOn with
  | nil => simp only [List.append_nil, Nat.le_refl]
  | append_singleton later call ih =>
    rw [← List.append_assoc, after_concat]
    exact Nat.le_trans ih (parses_le_perform _ call)

/-! ## Transparency -/

section Answers

variable {digest : String → UInt64} {used : List String} {r : Registry} {events : List Event}
  {name source : String}

/-- There is a template exactly where one was registered and not removed since. -/
theorem Shows.isSome_get? (h : Shows digest used r events) :
    (r.get? name).isSome ↔ Kept events name := by
  rw [← isSome_standing_iff]
  cases hs : standing events name with
  | none =>
    rw [h.absent hs]
    rfl
  | some content =>
    obtain ⟨-, entry, hget, -, -⟩ := h.present hs
    rw [hget]
    rfl

/-- What is there is the template of the source that was registered last. -/
theorem Shows.template_eq {entry : Registered} (h : Shows digest used r events)
    (hget : r.get? name = some entry) :
    ∃ content fresh, LastRegistered events name content ∧
      Template.parse {} content = .ok fresh ∧ entry.template = ⟨name, fresh.nodes, [], false⟩ := by
  cases hs : standing events name with
  | none =>
    rw [h.absent hs] at hget
    cases hget
  | some content =>
    obtain ⟨-, entry', hget', -, ht⟩ := h.present hs
    rw [hget] at hget'
    cases hget'
    obtain ⟨fresh, hfresh, heq⟩ := exists_of_parse_eq_ok ht
    exact ⟨content, fresh, standing_eq_some_iff.1 hs, hfresh, heq⟩

/-- The answers to a source that is no template. -/
theorem Shows.answers_of_error {e : Error} (h : Shows digest used r events)
    (hd : NoCollision digest used) (hu : source ∈ used) (he : Template.parse {} source = .error e)
    (data : Data) :
    r.register name source = .error e ∧ r.getOrParse name source = .error e ∧
      r.render name source data = (.error e, r) := by
  have hgp := h.getOrParse_error hd hu (parse_of_error he name)
  refine ⟨?_, hgp, ?_⟩
  · rw [register, hgp]
    rfl
  · rw [render, hgp]

/-- Where the template of a source was there before, it was registered last. -/
theorem Shows.get?_eq_iff {fresh : Template} {entry : Registered} {r' : Registry}
    (h : Shows digest used r events) (hd : NoCollision digest used) (hu : source ∈ used)
    (ht : Template.parse {} source = .ok fresh)
    (hgp : r.getOrParse name source = .ok (entry, r')) :
    (r.get? name = some entry ↔ LastRegistered events name source) ∧
      (¬ LastRegistered events name source → entry.serial = r.parses) := by
  obtain ⟨entry', r'', hgp', -, hget, -, hcases⟩ :=
    h.getOrParse_ok hd hu (parse_of_ok ht name)
  rw [hgp] at hgp'
  cases hgp'
  rw [← standing_eq_some_iff]
  rcases hcases with ⟨hs, rfl⟩ | ⟨hs, hserial⟩
  · exact ⟨⟨fun _ => hs, fun _ => hget⟩, fun hns => absurd hs hns⟩
  · refine ⟨⟨fun hold => ?_, fun hs' => absurd hs' hs⟩, fun _ => hserial⟩
    have hlt := h.serial_lt hold
    omega

/-- No other name is touched. -/
theorem getOrParse_get?_of_ne {entry : Registered} {r' : Registry} {n : String}
    (hgp : r.getOrParse name source = .ok (entry, r')) (hn : n ≠ name) :
    r'.get? n = r.get? n := by
  rcases getOrParse_cases hgp with ⟨-, rfl⟩ | ⟨t, -, hins⟩
  · rfl
  · have hget := get?_insert r name source t n
    rw [hins, if_neg hn] at hget
    exact hget

/-- The answers to the source of a template. -/
theorem Shows.answers_of_ok {fresh : Template} (h : Shows digest used r events)
    (hd : NoCollision digest used) (hu : source ∈ used)
    (ht : Template.parse {} source = .ok fresh) (name : String) (data : Data) :
    ∃ entry r', r.getOrParse name source = .ok (entry, r') ∧
      r.register name source = .ok r' ∧
      r.render name source data =
        ((⟨name, fresh.nodes, [], false⟩ : Template).renderText r'.resolver data, r') ∧
      entry.template = ⟨name, fresh.nodes, [], false⟩ ∧ r'.get? name = some entry := by
  obtain ⟨entry, r', hgp, htemplate, hget, -, -⟩ := h.getOrParse_ok hd hu (parse_of_ok ht name)
  refine ⟨entry, r', hgp, ?_, ?_, htemplate, hget⟩
  · rw [register, hgp]
    rfl
  · rw [render, hgp, ← htemplate]

/-- The answer to texts that are loaded. -/
theorem Shows.loadTexts_fst {texts : List (String × String)} (h : Shows digest used r events)
    (hd : NoCollision digest used) (hu : ∀ text ∈ texts.map (·.2), text ∈ used) :
    (r.loadTexts texts).1 = answer texts.length (loading [] texts).2 := by
  rw [loadTexts_eq, (h.loadFrom_texts hd hu []).1, List.length_nil, Nat.zero_add]

/-- The answer to texts of which one is no template. -/
theorem Shows.loadTexts_unparsable {before rest : List (String × String)} {path text : String}
    {e : Error} (h : Shows digest used r events) (hd : NoCollision digest used)
    (hu : ∀ t ∈ (before ++ (path, text) :: rest).map (·.2), t ∈ used)
    (hbefore : (r.loadTexts before).1 = .ok before.length) (hname : Path.stem? path = some name)
    (hother : ∀ p ∈ before, Path.stem? p.1 ≠ some name)
    (he : Template.parse {} text = .error e) :
    r.loadTexts (before ++ (path, text) :: rest) =
      (.error (.unparsable path e), (r.loadTexts before).2) := by
  simp only [List.map_append, List.map_cons, List.mem_append, List.mem_cons] at hu
  have hub : ∀ t ∈ before.map (·.2), t ∈ used := fun t ht => hu t (.inl ht)
  have hnone : (loading [] before).2 = none := by
    cases hf : (loading [] before).2 with
    | none => rfl
    | some fault =>
      rw [h.loadTexts_fst hd hub, hf] at hbefore
      cases hbefore
  exact h.loadFrom_unparsable hd hub (hu text (.inr (.inl rfl))) hname he List.not_mem_nil hother
    hnone

end Answers

/-- **The registry is transparent**, if no two of the sources have the same digest. After every
history of calls:

* a name has a template exactly if one was registered under it and not removed since, and that is the
  template of the source that was registered last, with all settings at their defaults;
* a source that is no template gives its error and changes nothing, also among texts that are loaded;
* a source that is a template gives its template, which stands under its name afterwards. It is what
  stood there before exactly if this source was registered last, and otherwise has a number that no
  template of the registry ever had;
* so what is rendered is the tree of the source. -/
theorem after_transparent (digest : String → UInt64) (history : List Call) (name source : String)
    (data : Data) (texts : List (String × String))
    (hd : NoCollision digest
      (source :: texts.map (·.2) ++ history.flatMap Call.sources)) :
    (((after digest history).get? name).isSome ↔ Kept (eventsOf history) name) ∧
    (∀ entry, (after digest history).get? name = some entry →
      ∃ content fresh, LastRegistered (eventsOf history) name content ∧
        Template.parse {} content = .ok fresh ∧
        entry.template = ⟨name, fresh.nodes, [], false⟩) ∧
    (∀ e, Template.parse {} source = .error e →
      (after digest history).register name source = .error e ∧
      (after digest history).getOrParse name source = .error e ∧
      (after digest history).render name source data = (.error e, after digest history)) ∧
    ((after digest history).loadTexts texts).1 = answer texts.length (loading [] texts).2 ∧
    (∀ before (path text : String) rest stem e, texts = before ++ (path, text) :: rest →
      ((after digest history).loadTexts before).1 = .ok before.length →
      Path.stem? path = some stem → (∀ p ∈ before, Path.stem? p.1 ≠ some stem) →
      Template.parse {} text = .error e →
      (after digest history).loadTexts texts =
        (.error (.unparsable path e), ((after digest history).loadTexts before).2)) ∧
    (∀ fresh, Template.parse {} source = .ok fresh →
      ∃ entry r, (after digest history).getOrParse name source = .ok (entry, r) ∧
        (after digest history).register name source = .ok r ∧
        (after digest history).render name source data =
          ((⟨name, fresh.nodes, [], false⟩ : Template).renderText r.resolver data, r) ∧
        entry.template = ⟨name, fresh.nodes, [], false⟩ ∧
        r.get? name = some entry ∧
        (∀ n, n ≠ name → r.get? n = (after digest history).get? n) ∧
        ((after digest history).get? name = some entry ↔
          LastRegistered (eventsOf history) name source) ∧
        (¬ LastRegistered (eventsOf history) name source →
          ∀ earlier, earlier <+: history → ∀ n old,
            (after digest earlier).get? n = some old → old.serial ≠ entry.serial)) := by
  -- no source of this call or of an earlier one is left out
  have hused : ∀ s ∈ history.flatMap Call.sources,
      s ∈ source :: texts.map (·.2) ++ history.flatMap Call.sources :=
    fun s hs => List.mem_append_right _ hs
  have htexts : ∀ s ∈ texts.map (·.2),
      s ∈ source :: texts.map (·.2) ++ history.flatMap Call.sources :=
    fun s hs => List.mem_append_left _ (List.mem_cons_of_mem _ hs)
  have hsource : source ∈ source :: texts.map (·.2) ++ history.flatMap Call.sources :=
    List.mem_append_left _ (List.mem_cons_self ..)
  have h := shows_after hd hused
  refine ⟨h.isSome_get?, fun entry hget => h.template_eq hget,
    fun e he => h.answers_of_error hd hsource he data, h.loadTexts_fst hd htexts, ?_, ?_⟩
  · intro before path text rest stem e heq hbefore hstem hother he
    subst heq
    exact h.loadTexts_unparsable hd htexts hbefore hstem hother he
  · intro fresh ht
    obtain ⟨entry, r, hgp, hreg, hren, htemplate, hget⟩ :=
      h.answers_of_ok hd hsource ht name data
    obtain ⟨hiff, hserial⟩ := h.get?_eq_iff hd hsource ht hgp
    refine ⟨entry, r, hgp, hreg, hren, htemplate, hget,
      fun n hn => getOrParse_get?_of_ne hgp hn, hiff, ?_⟩
    intro hlast earlier hprefix n old hold
    have hbefore : ∀ s ∈ earlier.flatMap Call.sources, s ∈ history.flatMap Call.sources := by
      intro s hs
      obtain ⟨call, hcall, hs⟩ := List.mem_flatMap.1 hs
      exact List.mem_flatMap.2 ⟨call, hprefix.subset hcall, hs⟩
    have hearlier := shows_after hd fun s hs => hused s (hbefore s hs)
    -- the number of the new template was still free in every earlier registry
    have hlt : old.serial < entry.serial := calc
      old.serial < (after digest earlier).parses := hearlier.serial_lt hold
      _ ≤ (after digest history).parses := parses_after_mono digest hprefix
      _ = entry.serial := (hserial hlast).symm
    exact Nat.ne_of_lt hlt

/-- After two templates of one name and some other calls, the second one is there still. -/
theorem after_transparent_again :
    let history : List Call := [.register "a" "x", .register "a" "y", .loadTexts [("b", "z")],
      .getOrParse "a" "\x7b\x7b", .remove "b"]
    NoCollision Text.digest
        ("y" :: [("c", "z")].map (·.2) ++ history.flatMap Call.sources) ∧
      ∃ entry r, (after Text.digest history).getOrParse "a" "y" = .ok (entry, r) ∧
        (after Text.digest history).get? "a" = some entry := by
  intro history
  have hd : NoCollision Text.digest
      ("y" :: [("c", "z")].map (·.2) ++ history.flatMap Call.sources) := by decide +kernel
  have hlast : LastRegistered (eventsOf history) "a" "y" :=
    standing_eq_some_iff.1 (by decide +kernel)
  have hok : (Template.parse {} "y").toOption.isSome = true := by decide +kernel
  cases ht : Template.parse {} "y" with
  | error e =>
    rw [ht] at hok
    cases hok
  | ok fresh =>
    obtain ⟨-, -, -, -, -, hsome⟩ :=
      after_transparent Text.digest history "a" "y" .unit [("c", "z")] hd
    obtain ⟨entry, r, hgp, -, -, -, -, -, hiff, -⟩ := hsome fresh ht
    exact ⟨hd, entry, r, hgp, hiff.2 hlast⟩

end Mustache.Registry
