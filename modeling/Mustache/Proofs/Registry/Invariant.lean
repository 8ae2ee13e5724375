import Mustache.Proofs.Registry.Events

/-! # What a registry holds
After every call the registry holds, under each name, the template of the source that stands there
(`Shows`). The steps: a source that stands already, one that takes a place, a name that is removed,
and texts that are loaded one by one. All of this needs that no two sources have the same digest. -/

namespace Mustache.Registry

/-! ## Templates of the registry -/

/-- A template of the registry is that of its source alone, but for the name. -/
theorem parse_eq (name source : String) :
    parse name source = (Template.parse {} source).map fun t => ⟨name, t.nodes, [], false⟩ := by
  simp only [parse, Template.parse, Template.Options.withName]
  cases Node.parse (Scanner.ofTexts _ _ source) <;> rfl

theorem parse_of_error {source : String} {e : Error} (h : Template.parse {} source = .error e)
    (name : String) : parse name source = .error e := by
  rw [parse_eq, h]
  rfl

theorem parse_of_ok {source : String} {t : Template} (h : Template.parse {} source = .ok t)
    (name : String) : parse name source = .ok ⟨name, t.nodes, [], false⟩ := by
  rw [parse_eq, h]
  rfl

/-- The source of a template of the registry is that of a template. -/
theorem exists_of_parse_eq_ok {name source : String} {t : Template}
    (h : parse name source = .ok t) :
    ∃ fresh, Template.parse {} source = .ok fresh ∧ t = ⟨name, fresh.nodes, [], false⟩ := by
  cases hf : Template.parse {} source with
  | error e =>
    rw [parse_of_error hf] at h
    cases h
  | ok fresh =>
    rw [parse_of_ok hf] at h
    cases h
    exact ⟨fresh, rfl, rfl⟩

theorem get?_insert (r : Registry) (name source : String) (t : Template) (n : String) :
    (r.insert name source t).2.get? n =
      if n = name then some ⟨t, r.digest source, r.parses⟩ else r.get? n :=
  Entries.get?_insert name _ r.entries n

theorem get?_remove (r : Registry) (name n : String) :
    (r.remove name).2.get? n = if n = name then none else r.get? n :=
  Entries.get?_erase name r.entries n

/-! ## What a registry has to do with its history -/

/-- No two of these sources have the same digest. -/
def NoCollision (digest : String → UInt64) (sources : List String) : Prop :=
  ∀ a ∈ sources, ∀ b ∈ sources, digest a = digest b → a = b

instance (digest : String → UInt64) (sources : List String) :
    Decidable (NoCollision digest sources) :=
  inferInstanceAs (Decidable (∀ a ∈ sources, ∀ b ∈ sources, digest a = digest b → a = b))

section History

variable {digest : String → UInt64} {used : List String}

/-- **The registry shows its history**: under each name it holds the template of the source that
stands there, and no template made later has the number of one in it. -/
structure Shows (digest : String → UInt64) (used : List String) (r : Registry)
    (events : List Event) : Prop where
  /-- Sources have this digest. -/
  digest_eq : r.digest = digest
  /-- Where no source stands, there is no template. -/
  absent {name : String} (h : standing events name = none) : r.get? name = none
  /-- Where a source stands, its template is there. -/
  present {name source : String} (h : standing events name = some source) :
    source ∈ used ∧ ∃ entry, r.get? name = some entry ∧ entry.digest = digest source ∧
      parse name source = .ok entry.template
  /-- The numbers of the templates are used up. -/
  serial_lt {name : String} {entry : Registered} (h : r.get? name = some entry) :
    entry.serial < r.parses

theorem Shows.emptyWith (digest : String → UInt64) (used : List String) :
    Shows digest used (emptyWith digest) [] where
  digest_eq := rfl
  absent _ := rfl
  present h := by cases h
  serial_lt h := by cases h

/-- What a source that stands under its name already changes. -/
theorem Shows.again {r : Registry} {events : List Event} {name source : String}
    (h : Shows digest used r events) (hs : standing events name = some source) :
    Shows digest used r (events ++ [.registered name source]) := by
  have hsame : standing (events ++ [.registered name source]) = standing events := by
    funext n
    rw [standing_concat, apply_registered]
    by_cases hn : name = n
    · rw [if_pos hn, ← hn, hs]
    · rw [if_neg hn]
  exact ⟨h.digest_eq, fun h' => h.absent (hsame ▸ h'), fun h' => h.present (hsame ▸ h'),
    h.serial_lt⟩

/-- A new template takes its place. -/
theorem Shows.insert {r : Registry} {events : List Event} {name source : String} {t : Template}
    (h : Shows digest used r events) (hu : source ∈ used) (ht : parse name source = .ok t) :
    Shows digest used (r.insert name source t).2 (events ++ [.registered name source]) where
  digest_eq := h.digest_eq
  absent {n} hn := by
    rw [standing_concat, apply_registered] at hn
    rw [get?_insert]
    by_cases hname : name = n
    · rw [if_pos hname] at hn
      cases hn
    · rw [if_neg hname] at hn
      rw [if_neg (Ne.symm hname)]
      exact h.absent hn
  present {n content} hn := by
    rw [standing_concat, apply_registered] at hn
    rw [get?_insert]
    by_cases hname : name = n
    · subst hname
      rw [if_pos rfl] at hn
      cases hn
      rw [if_pos rfl]
      exact ⟨hu, _, rfl, congrFun h.digest_eq source, ht⟩
    · rw [if_neg hname] at hn
      rw [if_neg (Ne.symm hname)]
      exact h.present hn
  serial_lt {n entry} hn := by
    rw [get?_insert] at hn
    by_cases hname : n = name
    · rw [if_pos hname] at hn
      cases hn
      exact Nat.lt_succ_self r.parses
    · rw [if_neg hname] at hn
      exact Nat.lt_succ_of_lt (h.serial_lt hn)

/-- A name is removed. -/
theorem Shows.remove {r : Registry} {events : List Event} (h : Shows digest used r events)
    (name : String) : Shows digest used (r.remove name).2 (events ++ [.removed name]) where
  digest_eq := h.digest_eq
  absent {n} hn := by
    rw [standing_concat, apply_removed] at hn
    rw [get?_remove]
    by_cases hname : name = n
    · rw [if_pos hname.symm]
    · rw [if_neg hname] at hn
      rw [if_neg (Ne.symm hname)]
      exact h.absent hn
  present {n content} hn := by
    rw [standing_concat, apply_removed] at hn
    rw [get?_remove]
    by_cases hname : name = n
    · rw [if_pos hname] at hn
      cases hn
    · rw [if_neg hname] at hn
      rw [if_neg (Ne.symm hname)]
      exact h.present hn
  serial_lt {n entry} hn := by
    rw [get?_remove] at hn
    by_cases hname : n = name
    · rw [if_pos hname] at hn
      cases hn
    · rw [if_neg hname] at hn
      exact h.serial_lt hn

/-! ## Asking for templates -/

/-- A source that stands under its name is not parsed again: its template is the one that is
there. -/
theorem Shows.getOrParse_of_standing {r : Registry} {events : List Event} {name source : String}
    (h : Shows digest used r events) (hs : standing events name = some source) :
    ∃ entry, r.get? name = some entry ∧ parse name source = .ok entry.template ∧
      r.getOrParse name source = .ok (entry, r) := by
  obtain ⟨-, entry, hget, hd, ht⟩ := h.present hs
  have hsame : entry.digest = r.digest source := by rw [hd, h.digest_eq]
  refine ⟨entry, hget, ht, ?_⟩
  simp only [getOrParse, hget, if_pos hsame]

/-- Any other source is parsed. -/
theorem Shows.getOrParse_of_not_standing {r : Registry} {events : List Event}
    {name source : String} (h : Shows digest used r events) (hd : NoCollision digest used)
    (hu : source ∈ used) (hs : standing events name ≠ some source) :
    r.getOrParse name source = (parse name source).map (r.insert name source) := by
  cases hc : standing events name with
  | none => simp only [getOrParse, h.absent hc]
  | some content =>
    obtain ⟨hcu, entry, hget, hdigest, -⟩ := h.present hc
    -- an equal digest would be that of an equal source
    have hother : entry.digest ≠ r.digest source := by
      rw [hdigest, h.digest_eq]
      intro heq
      exact hs (hd content hcu source hu heq ▸ hc)
    simp only [getOrParse, hget, if_neg hother]

/-- A source that is no template gives its error. -/
theorem Shows.getOrParse_error {r : Registry} {events : List Event} {name source : String}
    {e : Error} (h : Shows digest used r events) (hd : NoCollision digest used)
    (hu : source ∈ used) (he : parse name source = .error e) :
    r.getOrParse name source = .error e := by
  have hs : standing events name ≠ some source := by
    intro hs
    obtain ⟨-, entry, -, -, ht⟩ := h.present hs
    rw [he] at ht
    cases ht
  rw [h.getOrParse_of_not_standing hd hu hs, he]
  rfl

/-- A source that is a template gives what stands under its name afterwards. -/
theorem Shows.getOrParse_ok {r : Registry} {events : List Event} {name source : String}
    {t : Template} (h : Shows digest used r events) (hd : NoCollision digest used)
    (hu : source ∈ used) (ht : parse name source = .ok t) :
    ∃ entry r', r.getOrParse name source = .ok (entry, r') ∧ entry.template = t ∧
      r'.get? name = some entry ∧ Shows digest used r' (events ++ [.registered name source]) ∧
      (standing events name = some source ∧ r' = r ∨
        standing events name ≠ some source ∧ entry.serial = r.parses) := by
  by_cases hs : standing events name = some source
  · -- the template that is there was parsed from this source, so it is t
    obtain ⟨entry, hget, ht', hgp⟩ := h.getOrParse_of_standing hs
    rw [ht] at ht'
    cases ht'
    exact ⟨entry, r, hgp, rfl, hget, h.again hs, .inl ⟨hs, rfl⟩⟩
  · have hgp := h.getOrParse_of_not_standing hd hu hs
    rw [ht] at hgp
    refine ⟨_, _, hgp, rfl, ?_, h.insert hu ht, .inr ⟨hs, rfl⟩⟩
    exact (get?_insert r name source t name).trans (if_pos rfl)

/-- Whether a source is registered hangs on the source alone. -/
theorem Shows.register_eq {r : Registry} {events : List Event} {source : String}
    (h : Shows digest used r events) (hd : NoCollision digest used) (hu : source ∈ used)
    (name : String) :
    (∃ e, Template.parse {} source = .error e ∧ r.register name source = .error e) ∨
      ∃ t r', Template.parse {} source = .ok t ∧ r.register name source = .ok r' ∧
        Shows digest used r' (events ++ [.registered name source]) := by
  cases ht : Template.parse {} source with
  | error e =>
    refine .inl ⟨e, rfl, ?_⟩
    rw [register, h.getOrParse_error hd hu (parse_of_error ht name)]
    rfl
  | ok t =>
    obtain ⟨entry, r', hgp, -, -, h', -⟩ := h.getOrParse_ok hd hu (parse_of_ok ht name)
    refine .inr ⟨t, r', rfl, ?_, h'⟩
    rw [register, hgp]
    rfl

/-! ## Loading templates -/

/-- A file at hand. -/
def fileOf : String × String → LibraryFile := fun (path, text) => ⟨path, .ok text⟩

theorem loadTexts_eq (r : Registry) (texts : List (String × String)) :
    r.loadTexts texts = r.loadFrom [] (texts.map fileOf) := rfl

/-- A file that could be read is registered under its stem, if that is new. -/
theorem loadFile_of_text (r : Registry) (seen : List String) (path : RawText) (text : String) :
    r.loadFile seen ⟨path, .ok text⟩ =
      match Path.stem? path with
      | none => .error (.noName path)
      | some name =>
        if name ∈ seen then .error (.duplicate name path)
        else ((r.register name text).mapError (.unparsable path)).map (name, ·) := by
  simp only [loadFile, Except.mapError, bind, Except.bind, throw, throwThe,
    MonadExceptOf.throw, pure, Except.pure]
  cases Path.stem? path with
  | none => rfl
  | some name =>
    by_cases hs : name ∈ seen
    · simp only [if_pos hs]
    · simp only [if_neg hs]
      cases r.register name text <;> rfl

theorem loadFile_fileOf (r : Registry) (seen : List String) (path text : String) :
    r.loadFile seen (fileOf (path, text)) =
      match Path.stem? path with
      | none => .error (.noName path)
      | some name =>
        if name ∈ seen then .error (.duplicate name path)
        else ((r.register name text).mapError (.unparsable path)).map (name, ·) :=
  loadFile_of_text r seen path text

/-- What the next text does: it ends the loading and changes nothing, or it is registered. -/
theorem Shows.loadFrom_cons {r : Registry} {events : List Event} {path text : String}
    (h : Shows digest used r events) (hd : NoCollision digest used) (hu : text ∈ used)
    (seen : List String) :
    (∃ fault, (∀ texts, loading seen ((path, text) :: texts) = ([], some fault)) ∧
        ∀ files, r.loadFrom seen (fileOf (path, text) :: files) = (.error fault, r)) ∨
      ∃ name r', Path.stem? path = some name ∧
        Shows digest used r' (events ++ [.registered name text]) ∧
        (∀ texts, loading seen ((path, text) :: texts) =
          (.registered name text :: (loading (name :: seen) texts).1,
            (loading (name :: seen) texts).2)) ∧
        ∀ files, r.loadFrom seen (fileOf (path, text) :: files) =
          r'.loadFrom (name :: seen) files := by
  cases hname : Path.stem? path with
  | none =>
    refine .inl ⟨.noName path, fun texts => ?_, fun files => ?_⟩
    · simp only [loading, hname]
    · simp only [loadFrom, loadFile_fileOf, hname]
  | some name =>
    by_cases hs : name ∈ seen
    · refine .inl ⟨.duplicate name path, fun texts => ?_, fun files => ?_⟩
      · simp only [loading, hname, if_pos hs]
      · simp only [loadFrom, loadFile_fileOf, hname, if_pos hs]
    · rcases h.register_eq hd hu name with ⟨e, ht, hr⟩ | ⟨t, r', ht, hr, h'⟩
      · refine .inl ⟨.unparsable path e, fun texts => ?_, fun files => ?_⟩
        · simp only [loading, hname, if_neg hs, ht]
        · simp only [loadFrom, loadFile_fileOf, hname, if_neg hs, hr, Except.mapError, Except.map]
      · refine .inr ⟨name, r', rfl, h', fun texts => ?_, fun files => ?_⟩
        · simp only [loading, hname, if_neg hs, ht]
        · simp only [loadFrom, loadFile_fileOf, hname, if_neg hs, hr, Except.mapError, Except.map]

/-- **Loading templates** has the outcome and the events of the texts alone. -/
theorem Shows.loadFrom_texts {r : Registry} {events : List Event}
    {texts : List (String × String)} (h : Shows digest used r events)
    (hd : NoCollision digest used) (hu : ∀ text ∈ texts.map (·.2), text ∈ used)
    (seen : List String) :
    (r.loadFrom seen (texts.map fileOf)).1 =
        answer (seen.length + texts.length) (loading seen texts).2 ∧
      Shows digest used (r.loadFrom seen (texts.map fileOf)).2
        (events ++ (loading seen texts).1) := by
  induction texts generalizing r events seen with
  | nil => exact ⟨rfl, (List.append_nil events).symm ▸ h⟩
  | cons file texts ih =>
    obtain ⟨path, text⟩ := file
    rw [List.map_cons]
    rcases h.loadFrom_cons hd (hu text (List.mem_cons_self ..)) seen with
      ⟨fault, hl, hr⟩ | ⟨name, r', -, h', hl, hr⟩
    · rw [hl, hr]
      exact ⟨rfl, (List.append_nil events).symm ▸ h⟩
    · obtain ⟨hres, hrest⟩ := ih h' (fun t ht => hu t (List.mem_cons_of_mem _ ht)) (name :: seen)
      rw [hl, hr, hres, List.length_cons, List.length_cons]
      refine ⟨?_, ?_⟩
      · rw [Nat.add_right_comm, Nat.add_assoc]
      · simpa using hrest

/-- A text that is no template, with those before it registered, gives its error and changes
nothing. -/
theorem Shows.loadFrom_unparsable {r : Registry} {events : List Event}
    {before rest : List (String × String)} {path text name : String} {e : Error}
    {seen : List String} (h : Shows digest used r events) (hd : NoCollision digest used)
    (hub : ∀ t ∈ before.map (·.2), t ∈ used) (hu : text ∈ used)
    (hname : Path.stem? path = some name) (he : Template.parse {} text = .error e)
    (hs : name ∉ seen) (hother : ∀ p ∈ before, Path.stem? p.1 ≠ some name)
    (hnone : (loading seen before).2 = none) :
    r.loadFrom seen ((before ++ (path, text) :: rest).map fileOf) =
      (.error (.unparsable path e), (r.loadFrom seen (before.map fileOf)).2) := by
  induction before generalizing r events seen with
  | nil =>
    have hr : r.register name text = .error e := by
      rw [register, h.getOrParse_error hd hu (parse_of_error he name)]
      rfl
    simp only [List.nil_append, List.map_cons, List.map_nil, loadFrom, loadFile_fileOf, hname,
      if_neg hs, hr, Except.mapError, Except.map]
  | cons file before ih =>
    obtain ⟨path', text'⟩ := file
    rw [List.cons_append, List.map_cons, List.map_cons]
    rcases h.loadFrom_cons hd (hub text' (List.mem_cons_self ..)) seen with
      ⟨fault, hl, -⟩ | ⟨name', r', hname', h', hl, hr⟩
    · rw [hl] at hnone
      cases hnone
    · have hne : name ≠ name' := by
        rintro rfl
        exact hother _ (List.mem_cons_self ..) hname'
      rw [hl] at hnone
      rw [hr, hr]
      exact ih h' (fun t ht => hub t (List.mem_cons_of_mem _ ht)) (by simp [hne, hs])
        (fun p hp => hother p (List.mem_cons_of_mem _ hp)) hnone

/-! ## Calls -/

theorem perform_getOrParse (r : Registry) (name source : String) :
    r.perform (.getOrParse name source) = r.perform (.register name source) := by
  simp only [perform, register]
  cases r.getOrParse name source <;> rfl

theorem perform_render (r : Registry) (name source : String) (data : Data) :
    r.perform (.render name source data) = r.perform (.register name source) := by
  simp only [perform, register, render]
  cases r.getOrParse name source <;> rfl

/-- What one registration does. -/
theorem Shows.perform_register {r : Registry} {events : List Event} {source : String}
    (h : Shows digest used r events) (hd : NoCollision digest used) (hu : source ∈ used)
    (name : String) :
    Shows digest used (r.perform (.register name source)) (events ++ registering name source) := by
  rcases h.register_eq hd hu name with ⟨e, ht, hr⟩ | ⟨t, r', ht, hr, h'⟩
  · simpa only [perform, registering, ht, hr, Except.toOption, Option.getD_none, List.append_nil]
  · simpa only [perform, registering, ht, hr, Except.toOption, Option.getD_some]

/-- **One call** does what its events say. -/
theorem Shows.perform {r : Registry} {events : List Event} {call : Call}
    (h : Shows digest used r events) (hd : NoCollision digest used)
    (hu : ∀ source ∈ call.sources, source ∈ used) :
    Shows digest used (r.perform call) (events ++ call.events) := by
  cases call with
  | register name source => exact h.perform_register hd (hu _ (List.mem_singleton_self _)) name
  | getOrParse name source =>
    rw [perform_getOrParse]
    exact h.perform_register hd (hu _ (List.mem_singleton_self _)) name
  | render name source data =>
    rw [perform_render]
    exact h.perform_register hd (hu _ (List.mem_singleton_self _)) name
  | remove name => exact h.remove name
  | loadTexts texts => exact (h.loadFrom_texts hd hu []).2

end History

end Mustache.Registry
