import Mustache.FileTree
import Mustache.Proofs.Registry.Loading

/-! # Libraries in any order
Whether the files of a library can be loaded hangs on no order of theirs (`Registry.Loadable`), nor
does what stands under each name afterwards (`Registry.Updated`). The order tells only which fault
ends a loading that fails, and what is registered until then. -/

namespace Mustache

/-- One of the files has this stem and this text. -/
def Offers (files : List LibraryFile) (name text : String) : Prop :=
  ∃ file ∈ files, Path.stem? file.path = some name ∧ file.text = .ok text

section Files

variable {files : List LibraryFile} {file : LibraryFile} {name text : String}

theorem Offers.stems (h : Offers files name text) : Stems files name := by
  obtain ⟨file, hfile, hstem, -⟩ := h
  exact ⟨file, hfile, hstem⟩

/-- A stem that no file has is not that of a text among them. -/
theorem Offers.ne_of_not_stems (h : Offers files name text) {n : String} (hn : ¬ Stems files n) :
    name ≠ n := by
  rintro rfl
  exact hn h.stems

theorem stems_cons (hstem : Path.stem? file.path = some name) (n : String) :
    Stems (file :: files) n ↔ name = n ∨ Stems files n := by
  simp only [Stems, List.mem_cons, or_and_right, exists_or, exists_eq_left, hstem,
    Option.some.injEq]

theorem offers_cons (hstem : Path.stem? file.path = some name) (htext : file.text = .ok text)
    (n content : String) :
    Offers (file :: files) n content ↔ name = n ∧ text = content ∨ Offers files n content := by
  simp only [Offers, List.mem_cons, or_and_right, exists_or, exists_eq_left, hstem, htext,
    Option.some.injEq, Except.ok.injEq]

end Files

namespace Registry

variable {r r' r₁ : Registry} {name text : String}

/-! ## Sources that are mistaken -/

/-- **The registry mistakes a source** for what stands under a name: that has the digest of this
source, and is not its template. -/
def Mistakes (r : Registry) (name text : String) : Prop :=
  ∃ entry, r.get? name = some entry ∧ entry.digest = r.digest text ∧
    parse name text ≠ .ok entry.template

/-- Whether a source is mistaken hangs on what stands under the name. -/
theorem mistakes_congr (hd : r'.digest = r.digest) (hget : r'.get? name = r.get? name) :
    r'.Mistakes name text ↔ r.Mistakes name text := by
  unfold Mistakes
  rw [hd, hget]

/-- **Every template of the registry is that of one of these sources**, and has its digest. -/
def Sourced (sources : List String) (r : Registry) : Prop :=
  ∀ ⦃name : String⦄ ⦃entry : Registered⦄, r.get? name = some entry →
    ∃ content ∈ sources, entry.digest = r.digest content ∧ parse name content = .ok entry.template

section Sources

variable {sources : List String}

theorem sourced_emptyWith (digest : String → UInt64) (sources : List String) :
    (emptyWith digest).Sourced sources := fun _ _ h => nomatch h

/-- The template of one of the sources can take its place. -/
theorem Sourced.insert (h : r.Sourced sources) (htext : text ∈ sources) {t : Template}
    (ht : parse name text = .ok t) : (r.insert name text t).2.Sourced sources := by
  intro n entry hn
  rw [get?_insert] at hn
  split at hn
  · rename_i heq
    cases hn
    exact ⟨text, htext, rfl, heq ▸ ht⟩
  · exact h hn

/-- One of the sources can be registered. -/
theorem Sourced.register (h : r.Sourced sources) (htext : text ∈ sources)
    (hr : r.register name text = .ok r') : r'.Sourced sources := by
  obtain ⟨entry, hgp⟩ := exists_getOrParse_of_register hr
  rcases getOrParse_cases hgp with ⟨-, rfl⟩ | ⟨t, ht, hinsert⟩
  · exact h
  · have hsourced := h.insert htext ht
    rw [hinsert] at hsourced
    exact hsourced

/-- Any name can be removed. -/
theorem Sourced.remove (h : r.Sourced sources) (name : String) :
    (r.remove name).2.Sourced sources := by
  intro n entry hn
  rw [get?_remove] at hn
  split at hn
  · cases hn
  · exact h hn

/-- **After every history** the templates of the registry are those of its sources. -/
theorem sourced_after (digest : String → UInt64) (history : List Call) :
    (after digest history).Sourced (history.flatMap Call.sources) :=
  after_keeps (fun hsource h hr => h.register hsource hr) (fun name h => h.remove name)
    (sourced_emptyWith digest _)

/-- Sources have the same digest after every history. -/
theorem digest_after (digest : String → UInt64) (history : List Call) :
    (after digest history).digest = digest :=
  after_keeps (fun _ h hr => (digest_of_register hr).trans h) (fun _ h => h) rfl

/-- **A mistake is a collision**: the source is mistaken for another one with the same digest. -/
theorem Sourced.exists_collision (h : r.Sourced sources) (hm : r.Mistakes name text) :
    ∃ content ∈ sources, content ≠ text ∧ r.digest content = r.digest text := by
  obtain ⟨entry, hget, hd, hne⟩ := hm
  obtain ⟨content, hcontent, hdigest, ht⟩ := h hget
  refine ⟨content, hcontent, ?_, hdigest.symm.trans hd⟩
  rintro rfl
  exact hne ht

end Sources

/-! ## One source -/

/-- **A source can be registered** exactly if it is that of a template or is mistaken. -/
theorem exists_register_iff (r : Registry) (name text : String) :
    (∃ r', r.register name text = .ok r') ↔
      (∃ t, Template.parse {} text = .ok t) ∨ r.Mistakes name text := by
  constructor
  · rintro ⟨r', hr⟩
    cases ht : Template.parse {} text with
    | ok t => exact .inl ⟨t, rfl⟩
    | error e =>
      -- a source that is no template is only registered if it is not parsed
      by_contra hnot
      have hne : r.register name text = .error e := by
        refine register_of_parse_error ht fun entry hget hd => hnot (.inr ⟨entry, hget, hd, ?_⟩)
        rw [parse_of_error ht]
        rintro ⟨⟩
      cases hr.symm.trans hne
  · rintro (⟨t, ht⟩ | ⟨entry, hget, hd, -⟩)
    · exact exists_register_of_parse ht r name
    · rw [register, getOrParse_of_digest_eq hget hd]
      exact ⟨r, rfl⟩

/-- A source that is mistaken changes nothing. -/
theorem Mistakes.eq_of_register (hm : r.Mistakes name text)
    (hr : r.register name text = .ok r') : r' = r := by
  obtain ⟨entry, hget, hd, -⟩ := hm
  rw [register, getOrParse_of_digest_eq hget hd] at hr
  cases hr
  rfl

/-- Otherwise the template of the source stands under the name. -/
theorem exists_get?_of_register (hm : ¬ r.Mistakes name text)
    (hr : r.register name text = .ok r') :
    ∃ entry, r'.get? name = some entry ∧ parse name text = .ok entry.template ∧
      entry.digest = r.digest text := by
  by_cases hd : ∃ entry, r.get? name = some entry ∧ entry.digest = r.digest text
  · -- nothing is parsed, but what stands there is no mistake
    obtain ⟨entry, hget, hd⟩ := hd
    have ht : parse name text = .ok entry.template := by
      by_contra hne
      exact hm ⟨entry, hget, hd, hne⟩
    rw [register, getOrParse_of_digest_eq hget hd] at hr
    cases hr
    exact ⟨entry, hget, ht, hd⟩
  · rw [register, getOrParse_of_digest_ne fun entry hget heq => hd ⟨entry, hget, heq⟩] at hr
    cases ht : parse name text with
    | error e =>
      rw [ht] at hr
      cases hr
    | ok t =>
      rw [ht] at hr
      cases hr
      exact ⟨_, (get?_insert r name text t name).trans (if_pos rfl), rfl, rfl⟩

/-- What is registered leaves all other names as they were. -/
theorem get?_of_register_of_ne {n : String} (hr : r.register name text = .ok r') (hn : n ≠ name) :
    r'.get? n = r.get? n := by
  obtain ⟨entry, hgp⟩ := exists_getOrParse_of_register hr
  exact getOrParse_get?_of_ne hgp hn

/-! ## Many files -/

/-- **Files that can be loaded together.** -/
structure Loadable (r : Registry) (files : List LibraryFile) : Prop where
  /-- Each of them can be read. -/
  readable : ∀ file ∈ files, ∃ text, file.text = .ok text
  /-- Each has a stem that is a text. -/
  named : ∀ file ∈ files, ∃ name, Path.stem? file.path = some name
  /-- No two of them have the same stem. -/
  distinct : (files.map fun file => Path.stem? file.path).Nodup
  /-- The text of each is a template or is mistaken. -/
  parsable : ∀ name text, Offers files name text →
    (∃ t, Template.parse {} text = .ok t) ∨ r.Mistakes name text

/-- **What files make of a registry.** -/
structure Updated (r : Registry) (files : List LibraryFile) (r' : Registry) : Prop where
  /-- Sources have the same digest as before. -/
  digest_eq : r'.digest = r.digest
  /-- Under the stem of a file its template stands. -/
  template : ∀ name text, Offers files name text → ¬ r.Mistakes name text →
    ∃ entry, r'.get? name = some entry ∧ parse name text = .ok entry.template ∧
      entry.digest = r.digest text
  /-- If its text is mistaken, what stood there before does. -/
  mistaken : ∀ name text, Offers files name text → r.Mistakes name text →
    r'.get? name = r.get? name
  /-- So it does under all other names. -/
  other : ∀ name, ¬ Stems files name → r'.get? name = r.get? name

/-- **Registries that hold the same**: under each name the same template with the same digest. Only
the numbers of the templates tell in which order they were parsed. -/
structure Alike (r r' : Registry) : Prop where
  /-- Sources have the same digest. -/
  digest_eq : r.digest = r'.digest
  /-- Under each name the same template stands, and has the same digest. -/
  held_eq : ∀ name, (r.get? name).map (fun entry => (entry.template, entry.digest)) =
    (r'.get? name).map fun entry => (entry.template, entry.digest)

section Files

variable {files files' : List LibraryFile} {file : LibraryFile} {seen : List String} {n : Nat}

/-! ### Loading them one by one -/

/-- A loading that succeeds registers the first file and goes on. -/
theorem loadFrom_cons_eq_ok_iff :
    r.loadFrom seen (file :: files) = (.ok n, r') ↔
      ∃ text name r₁, file.text = .ok text ∧ Path.stem? file.path = some name ∧ name ∉ seen ∧
        r.register name text = .ok r₁ ∧ r₁.loadFrom (name :: seen) files = (.ok n, r') := by
  constructor
  · intro h
    unfold loadFrom at h
    cases hf : r.loadFile seen file with
    | error fault =>
      rw [hf] at h
      cases h
    | ok result =>
      obtain ⟨name, r₁⟩ := result
      rw [hf] at h
      obtain ⟨text, htext, hstem, hseen, hr⟩ := register_of_loadFile hf
      exact ⟨text, name, r₁, htext, hstem, hseen, hr, h⟩
  · rintro ⟨text, name, r₁, htext, hstem, hseen, hr, h⟩
    obtain ⟨path, content⟩ := file
    cases htext
    rw [loadFrom_cons_of_register hstem hseen hr]
    exact h

/-- After another file was registered, a text is mistaken if it was before. -/
theorem mistakes_iff_of_offers (hr : r.register name text = .ok r₁) (hnew : ¬ Stems files name)
    {m content : String} (hoffer : Offers files m content) :
    r₁.Mistakes m content ↔ r.Mistakes m content :=
  mistakes_congr (digest_of_register hr)
    (get?_of_register_of_ne hr (hoffer.ne_of_not_stems hnew))

/-- So the others can be loaded after it if they can be before. -/
theorem loadable_iff_of_register (hr : r.register name text = .ok r₁) (hnew : ¬ Stems files name) :
    r₁.Loadable files ↔ r.Loadable files := by
  constructor <;> rintro ⟨hread, hnamed, hdistinct, hparse⟩ <;>
    refine ⟨hread, hnamed, hdistinct, fun m content hoffer =>
      (hparse m content hoffer).imp_right ?_⟩
  · exact (mistakes_iff_of_offers hr hnew hoffer).1
  · exact (mistakes_iff_of_offers hr hnew hoffer).2

/-- One more file can be loaded with others exactly if it can be registered and has another stem. -/
theorem loadable_cons (hstem : Path.stem? file.path = some name) (htext : file.text = .ok text) :
    r.Loadable (file :: files) ↔
      (∃ r₁, r.register name text = .ok r₁) ∧ ¬ Stems files name ∧ r.Loadable files := by
  have hmem : some name ∈ files.map (fun f => Path.stem? f.path) ↔ Stems files name := List.mem_map
  rw [exists_register_iff]
  constructor
  · rintro ⟨hread, hnamed, hdistinct, hparse⟩
    rw [List.map_cons, List.nodup_cons, hstem, hmem] at hdistinct
    refine ⟨hparse name text ((offers_cons hstem htext _ _).2 (.inl ⟨rfl, rfl⟩)), hdistinct.1,
      (List.forall_mem_cons.1 hread).2, (List.forall_mem_cons.1 hnamed).2,
      hdistinct.2, fun m c ho => ?_⟩
    exact hparse m c ((offers_cons hstem htext _ _).2 (.inr ho))
  · rintro ⟨hfirst, hnew, hread, hnamed, hdistinct, hparse⟩
    refine ⟨List.forall_mem_cons.2 ⟨⟨text, htext⟩, hread⟩,
      List.forall_mem_cons.2 ⟨⟨name, hstem⟩, hnamed⟩, ?_, fun m c ho => ?_⟩
    · rw [List.map_cons, List.nodup_cons, hstem, hmem]
      exact ⟨hnew, hdistinct⟩
    · rcases (offers_cons hstem htext m c).1 ho with ⟨rfl, rfl⟩ | ho
      · exact hfirst
      · exact hparse m c ho

/-- **Files that can be loaded are all loaded**, if no stem of theirs was seen. -/
theorem Loadable.exists_loadFrom (h : r.Loadable files)
    (hseen : ∀ name ∈ seen, ¬ Stems files name) :
    ∃ n r', r.loadFrom seen files = (.ok n, r') := by
  induction files generalizing r seen with
  | nil => exact ⟨seen.length, r, rfl⟩
  | cons file files ih =>
    obtain ⟨name, hstem⟩ := h.named file List.mem_cons_self
    obtain ⟨text, htext⟩ := h.readable file List.mem_cons_self
    obtain ⟨⟨r₁, hr⟩, hnew, hrest⟩ := (loadable_cons hstem htext).1 h
    have hfirst : name ∉ seen := fun hmem => hseen name hmem ((stems_cons hstem name).2 (.inl rfl))
    -- the stem of the first file counts as seen from here on
    have hlater : ∀ m ∈ name :: seen, ¬ Stems files m := by
      intro m hm hs
      rcases List.mem_cons.1 hm with rfl | hm
      · exact hnew hs
      · exact hseen m hm ((stems_cons hstem m).2 (.inr hs))
    obtain ⟨n, r', hload⟩ := ih ((loadable_iff_of_register hr hnew).2 hrest) hlater
    exact ⟨n, r', loadFrom_cons_eq_ok_iff.2 ⟨text, name, r₁, htext, hstem, hfirst, hr, hload⟩⟩

/-- Without files nothing changes. -/
theorem updated_nil (r : Registry) : r.Updated [] r where
  digest_eq := rfl
  template _ _ h := absurd h.stems (not_stems_nil _)
  mistaken _ _ _ _ := rfl
  other _ _ := rfl

/-- **One more file** with another stem: what it makes of the registry, the others leave as it is. -/
theorem Updated.cons (h : r₁.Updated files r') (hstem : Path.stem? file.path = some name)
    (htext : file.text = .ok text) (hr : r.register name text = .ok r₁)
    (hnew : ¬ Stems files name) : r.Updated (file :: files) r' where
  digest_eq := h.digest_eq.trans (digest_of_register hr)
  template m content hoffer hm := by
    rcases (offers_cons hstem htext m content).1 hoffer with ⟨rfl, rfl⟩ | hoffer
    · -- no later file has this stem, so its template stays
      rw [h.other name hnew]
      exact exists_get?_of_register hm hr
    · rw [← mistakes_iff_of_offers hr hnew hoffer] at hm
      rw [← digest_of_register hr]
      exact h.template m content hoffer hm
  mistaken m content hoffer hm := by
    rcases (offers_cons hstem htext m content).1 hoffer with ⟨rfl, rfl⟩ | hoffer
    · rw [h.other name hnew, hm.eq_of_register hr]
    · rw [h.mistaken m content hoffer ((mistakes_iff_of_offers hr hnew hoffer).2 hm),
        get?_of_register_of_ne hr (hoffer.ne_of_not_stems hnew)]
  other m hm := by
    rw [stems_cons hstem, not_or] at hm
    rw [h.other m hm.2, get?_of_register_of_ne hr (Ne.symm hm.1)]

/-- **A loading that succeeds** had files that could be loaded, counts them all, and updates the
registry with them. -/
theorem loadable_of_loadFrom (h : r.loadFrom seen files = (.ok n, r')) :
    r.Loadable files ∧ (∀ name ∈ seen, ¬ Stems files name) ∧ n = seen.length + files.length ∧
      r.Updated files r' := by
  induction files generalizing r seen with
  | nil =>
    cases h
    have hnone (name text : String) : ¬ Offers [] name text := fun ho => not_stems_nil name ho.stems
    exact ⟨⟨by simp, by simp, by simp, fun m content ho => absurd ho (hnone m content)⟩,
      fun m _ => not_stems_nil m, rfl, updated_nil _⟩
  | cons file files ih =>
    obtain ⟨text, name, r₁, htext, hstem, hseen, hr, hload⟩ := loadFrom_cons_eq_ok_iff.1 h
    -- what comes later does not have the stem of the first file, which counts as seen
    obtain ⟨hloadable, hother, hn, hupdated⟩ := ih hload
    have hnew : ¬ Stems files name := hother name List.mem_cons_self
    refine ⟨(loadable_cons hstem htext).2 ⟨⟨r₁, hr⟩, hnew,
      (loadable_iff_of_register hr hnew).1 hloadable⟩, fun m hm hs => ?_, ?_,
      hupdated.cons hstem htext hr hnew⟩
    · rcases (stems_cons hstem m).1 hs with rfl | hs
      · exact hseen hm
      · exact hother m (List.mem_cons_of_mem _ hm) hs
    · rw [hn, List.length_cons, List.length_cons]
      omega

/-- **Files can be loaded** exactly if they are loadable. -/
theorem exists_load_iff : (∃ n r', r.load files = (.ok n, r')) ↔ r.Loadable files :=
  ⟨fun ⟨_, _, h⟩ => (loadable_of_loadFrom h).1, fun h => h.exists_loadFrom (by simp)⟩

/-! ### Other orders -/

theorem offers_iff_of_perm (hp : files'.Perm files) (name text : String) :
    Offers files' name text ↔ Offers files name text := by
  simp only [Offers, hp.mem_iff]

/-- Whether files can be loaded hangs on no order. -/
theorem Loadable.perm (h : r.Loadable files) (hp : files'.Perm files) : r.Loadable files' where
  readable file hfile := h.readable file (hp.mem_iff.1 hfile)
  named file hfile := h.named file (hp.mem_iff.1 hfile)
  distinct := (hp.map _).nodup_iff.2 h.distinct
  parsable name text hoffer := h.parsable name text ((offers_iff_of_perm hp name text).1 hoffer)

/-- Nor does what they make of a registry. -/
theorem Updated.perm (h : r.Updated files r') (hp : files'.Perm files) : r.Updated files' r' where
  digest_eq := h.digest_eq
  template name text hoffer := h.template name text ((offers_iff_of_perm hp name text).1 hoffer)
  mistaken name text hoffer := h.mistaken name text ((offers_iff_of_perm hp name text).1 hoffer)
  other name hname := h.other name fun ⟨file, hfile, hstem⟩ =>
    hname ⟨file, hp.mem_iff.2 hfile, hstem⟩

/-- **What files make of a registry is told by the files.** -/
theorem Updated.alike {r₂ : Registry} (h₁ : r.Updated files r₁) (h₂ : r.Updated files r₂)
    (hread : ∀ file ∈ files, ∃ text, file.text = .ok text) : r₁.Alike r₂ where
  digest_eq := h₁.digest_eq.trans h₂.digest_eq.symm
  held_eq name := by
    by_cases hname : Stems files name
    · obtain ⟨file, hfile, hstem⟩ := hname
      obtain ⟨text, htext⟩ := hread file hfile
      have hoffer : Offers files name text := ⟨file, hfile, hstem, htext⟩
      by_cases hm : r.Mistakes name text
      · rw [h₁.mistaken name text hoffer hm, h₂.mistaken name text hoffer hm]
      · -- both are the template of this text
        obtain ⟨entry₁, hget₁, ht₁, hd₁⟩ := h₁.template name text hoffer hm
        obtain ⟨entry₂, hget₂, ht₂, hd₂⟩ := h₂.template name text hoffer hm
        have ht : entry₁.template = entry₂.template := Except.ok.inj (ht₁.symm.trans ht₂)
        rw [hget₁, hget₂, Option.map_some, Option.map_some, ht, hd₁, hd₂]
    · rw [h₁.other name hname, h₂.other name hname]

end Files

end Registry

/-! ## Directories -/

namespace FileSystem

variable {fs fs' : FileSystem Id} {dir : RawText}

/-- The library of a directory, file by file. -/
theorem library_eq (fs : FileSystem Id) (dir : RawText) :
    (fs.library dir).run = ((fs.filesBelow dir).run.filter Path.isTemplate).map
      fun path => ⟨path, (fs.readText path).run⟩ := by
  unfold library
  exact List.mapM_pure

/-- **In another order** the files of a directory make the same library in another order. -/
theorem library_perm (hread : fs'.read = fs.read)
    (hpaths : (fs'.filesBelow dir).run.Perm (fs.filesBelow dir).run) :
    (fs'.library dir).run.Perm (fs.library dir).run := by
  have htext : fs'.readText = fs.readText := by
    funext path
    unfold readText
    rw [hread]
  rw [library_eq, library_eq, htext]
  exact (hpaths.filter _).map _

end FileSystem

namespace Registry

/-- **A library can be loaded in any order.** Whichever way the files below a directory are walked
through, all of them are loaded exactly if each can be read as text and has a stem that is a text,
no two have the same stem, and each is a template or is mistaken. Their number is the answer then,
and both ways the registry holds the same: under the stem of each file its template, unless the file
is mistaken, and under all other names what it held before. A file can only be mistaken for a source
with the same digest that is another one and was registered before. -/
theorem load_library_any_order (r : Registry) {fs fs' : FileSystem Id} {dir : RawText}
    (hread : fs'.read = fs.read)
    (hpaths : (fs'.filesBelow dir).run.Perm (fs.filesBelow dir).run) :
    let files := (fs.library dir).run
    let files' := (fs'.library dir).run
    ((∃ n r₁, r.load files = (.ok n, r₁)) ↔ r.Loadable files) ∧
      ((∃ n r₂, r.load files' = (.ok n, r₂)) ↔ r.Loadable files) ∧
      (∀ n₁ n₂ r₁ r₂, r.load files = (.ok n₁, r₁) → r.load files' = (.ok n₂, r₂) →
        n₁ = files.length ∧ n₂ = files.length ∧ r.Updated files r₁ ∧ r.Updated files r₂ ∧
          r₁.Alike r₂) ∧
      ∀ digest history, r = after digest history → ∀ name text, r.Mistakes name text →
        ∃ content ∈ history.flatMap Call.sources, content ≠ text ∧
          digest content = digest text := by
  intro files files'
  have hp : files'.Perm files := FileSystem.library_perm hread hpaths
  have hloadable : r.Loadable files' ↔ r.Loadable files :=
    ⟨fun h => h.perm hp.symm, fun h => h.perm hp⟩
  refine ⟨exists_load_iff, exists_load_iff.trans hloadable, ?_, ?_⟩
  · intro n₁ n₂ r₁ r₂ h₁ h₂
    obtain ⟨hfiles, -, hn₁, hupdated₁⟩ := loadable_of_loadFrom h₁
    obtain ⟨-, -, hn₂, hupdated₂⟩ := loadable_of_loadFrom h₂
    rw [List.length_nil, Nat.zero_add] at hn₁ hn₂
    have hupdated := hupdated₂.perm hp.symm
    exact ⟨hn₁, hn₂.trans hp.length_eq, hupdated₁, hupdated,
      hupdated₁.alike hupdated hfiles.readable⟩
  · rintro digest history rfl name text hm
    obtain ⟨content, hcontent, hne, hd⟩ :=
      (sourced_after digest history).exists_collision hm
    rw [digest_after] at hd
    exact ⟨content, hcontent, hne, hd⟩

/-- Two templates in two directories are loaded in either order. One takes the place of an older
one, and a template under another name stays. -/
theorem load_library_reversed :
    let tree := FileTree.directory [("a.mustache", .file "A".toUTF8),
      ("b", .directory [("c.mustache", .file "C".toUTF8), ("d.txt", .file "\x7b\x7b".toUTF8)])]
    let fs := FileSystem.ofTree tree tree
    let fs' : FileSystem Id := ⟨fs.read, fun dir => (fs.filesBelow dir).run.reverse⟩
    let r := after Text.digest [.register "a" "old", .register "z" "Z"]
    ∃ r₁ r₂ entry, r.load (fs.library ".").run = (.ok 2, r₁) ∧
      r.load (fs'.library ".").run = (.ok 2, r₂) ∧ r₁.Alike r₂ ∧ r₁.get? "a" = some entry ∧
      parse "a" "A" = .ok entry.template ∧ r₁.get? "z" = r.get? "z" := by
  intro tree fs fs' r
  have hread : fs'.read = fs.read := rfl
  have hpaths : (fs'.filesBelow ".").run.Perm (fs.filesBelow ".").run := List.reverse_perm _
  obtain ⟨hiff, hiff', hboth, hcollision⟩ := load_library_any_order r hread hpaths
  have hok : (r.load (fs.library ".").run).1.toOption.isSome := by decide +kernel
  obtain ⟨n₁, h₁⟩ := exists_eq_ok hok
  have hload : r.load (fs.library ".").run = (.ok n₁, (r.load (fs.library ".").run).2) :=
    Prod.ext h₁ rfl
  obtain ⟨n₂, r₂, hload'⟩ := hiff'.2 (hiff.1 ⟨_, _, hload⟩)
  obtain ⟨rfl, rfl, hupdated, -, halike⟩ := hboth _ _ _ _ hload hload'
  have hlength : (fs.library ".").run.length = 2 := by decide +kernel
  rw [hlength] at hload hload'
  have hoffer : Offers (fs.library ".").run "a" "A" := by
    have htext : (fs.readText "./a.mustache").run = .ok "A" := by decide +kernel
    refine ⟨⟨"./a.mustache", (fs.readText "./a.mustache").run⟩, ?_, by decide +kernel, htext⟩
    rw [FileSystem.library_eq]
    exact List.mem_map_of_mem (by decide +kernel)
  have hdiscerned : ¬ r.Mistakes "a" "A" := by
    -- neither of the two sources that were registered has the digest of this one
    intro hm
    obtain ⟨content, hcontent, hne, hd⟩ := hcollision _ _ rfl _ _ hm
    revert content
    decide +kernel
  obtain ⟨entry, hget, ht, -⟩ := hupdated.template "a" "A" hoffer hdiscerned
  have hother : ¬ Stems (fs.library ".").run "z" := by
    unfold Stems
    decide +kernel
  exact ⟨_, r₂, entry, hload, hload', halike, hget, ht, hupdated.other "z" hother⟩

/-- **What is a template does not settle what can be loaded.** A file that is none can be loaded
where it is mistaken: it has the digest of the text that is registered under its stem, and that one
stays. A file that is one, and can be read as text, cannot be loaded if its stem is no text. -/
theorem load_library_exceptions :
    let text := "\x7b\x7bf8yzGTrcy9G"
    let fs := FileSystem.ofTree .empty
      (.directory [("d", .directory [("a.mustache", .file text.toUTF8)])])
    let name : RawText := ⟨0xFF :: (RawText.ofText ".mustache").bytes⟩
    let fs' := FileSystem.ofTree .empty (.directory [("d", .directory [(name, .file "A".toUTF8)])])
    (∃ r e, empty.register "a" "HigHRfgXmCJLD" = .ok r ∧
      (fs.library "d").run = [⟨"d/a.mustache", .ok text⟩] ∧
      Template.parse {} text = .error e ∧ r.load (fs.library "d").run = (.ok 1, r)) ∧
    ∃ t, (fs'.library "d").run = [⟨Path.join "d" name, .ok "A"⟩] ∧
      Template.parse {} "A" = .ok t ∧
      empty.load (fs'.library "d").run = (.error (.noName (Path.join "d" name)), empty) := by
  intro text fs name fs'
  constructor
  · obtain ⟨r, e, hr, he, hr'⟩ := exists_register_of_digest_eq
    have hfiles : (fs.library "d").run = [⟨"d/a.mustache", .ok text⟩] := by
      have hbelow :
          (fs.filesBelow "d").run.filter Path.isTemplate = (["d/a.mustache"] : List RawText) := by
        decide +kernel
      have htext : (fs.readText "d/a.mustache").run = .ok text := by decide +kernel
      rw [FileSystem.library_eq, hbelow, List.map_singleton, htext]
    refine ⟨r, e, hr, hfiles, he, ?_⟩
    rw [hfiles]
    exact loadFrom_cons_of_register (by decide +kernel) List.not_mem_nil hr' []
  · obtain ⟨t, ht⟩ : ∃ t, Template.parse {} "A" = .ok t := exists_eq_ok (by decide +kernel)
    have hfiles : (fs'.library "d").run = [⟨Path.join "d" name, .ok "A"⟩] := by
      have hbelow : (fs'.filesBelow "d").run.filter Path.isTemplate = [Path.join "d" name] := by
        decide +kernel
      have htext : (fs'.readText (Path.join "d" name)).run = .ok "A" := by decide +kernel
      rw [FileSystem.library_eq, hbelow, List.map_singleton, htext]
    have hstem : Path.stem? (Path.join "d" name) = none := by decide +kernel
    refine ⟨t, hfiles, ht, ?_⟩
    rw [hfiles, load, loadFrom, loadFile_of_stem_none hstem]

end Registry

end Mustache
