import Mustache.Proofs.FirstFault
import Mustache.Proofs.Registry.Transparency

/-! # Loading files
Files are loaded in order, up to the first one that cannot be: one that cannot be read, one without
a usable stem, one with the stem of a file before it, or one whose text is no template
(`LibraryFile.Unloadable`). The registry is then the one in which exactly the files before it are
registered, and the fault is its own (`Registry.load_of_unloadable`), unless the registry mistakes
its text for another source with the same digest (`Registry.Discerns`). -/

namespace Mustache

/-! ## Files at fault -/

/-- A stem is that of one of the files. -/
def Stems (files : List LibraryFile) (name : String) : Prop :=
  ∃ file ∈ files, Path.stem? file.path = some name

/-- **A file that cannot be loaded** behind some others, and why. -/
inductive LibraryFile.Unloadable (before : List LibraryFile) : LibraryFile → LoadFault → Prop where
  /-- It cannot be read. -/
  | unreadable {path : RawText} {fault : IoFault} :
      Unloadable before ⟨path, .error fault⟩ (.unreadable path fault)
  /-- It has no stem that is a text. -/
  | noName {path : RawText} {text : String} (h : Path.stem? path = none) :
      Unloadable before ⟨path, .ok text⟩ (.noName path)
  /-- A file before it has the same stem. -/
  | duplicate {path : RawText} {text name : String} (h : Path.stem? path = some name)
      (hbefore : Stems before name) : Unloadable before ⟨path, .ok text⟩ (.duplicate name path)
  /-- Its text is no template. -/
  | unparsable {path : RawText} {text name : String} {e : Error} (h : Path.stem? path = some name)
      (hbefore : ¬ Stems before name) (ht : Template.parse {} text = .error e) :
      Unloadable before ⟨path, .ok text⟩ (.unparsable path e)

/-- There are no stems without files. -/
theorem not_stems_nil (name : String) : ¬ Stems [] name := by
  rintro ⟨file, hfile, -⟩
  exact List.not_mem_nil hfile

/-- A file is at no fault if it has a new stem and its text is a template. -/
theorem LibraryFile.not_unloadable {before : List LibraryFile} {path : RawText} {text name : String}
    {t : Template} (hstem : Path.stem? path = some name) (hbefore : ¬ Stems before name)
    (ht : Template.parse {} text = .ok t) (fault : LoadFault) :
    ¬ Unloadable before ⟨path, .ok text⟩ fault := by
  intro h
  cases h with
  | noName hnone => cases hstem.symm.trans hnone
  | duplicate hstem' hdup =>
    cases Option.some.inj (hstem.symm.trans hstem')
    exact hbefore hdup
  | unparsable _ _ he => cases ht.symm.trans he

namespace Registry

/-! ## Registering without a check -/

/-- Registers the text of a file under its stem, if there are both. -/
def registerFile (r : Registry) (file : LibraryFile) : Except Error Registry :=
  match file.text, Path.stem? file.path with
  | .ok text, some name => r.register name text
  | _, _ => .ok r

/-- Registers files one after the other. -/
def registerAll (r : Registry) (files : List LibraryFile) : Except Error Registry :=
  files.foldlM registerFile r

/-- **The registry does not mistake a file** that is loaded behind some others: where its stem is
new and its text no template, what stands under the stem does not have the digest of this text. -/
def Discerns (r : Registry) (before : List LibraryFile) (file : LibraryFile) : Prop :=
  ∀ text name entry e, file.text = .ok text → Path.stem? file.path = some name →
    ¬ Stems before name → Template.parse {} text = .error e → r.get? name = some entry →
    entry.digest ≠ r.digest text

variable {r r' : Registry} {name text : String}

/-- A source with the digest of what stands under its name is not parsed. -/
theorem getOrParse_of_digest_eq {entry : Registered} (h : r.get? name = some entry)
    (hd : entry.digest = r.digest text) : r.getOrParse name text = .ok (entry, r) := by
  simp only [getOrParse, h, if_pos hd]

/-- Any other source is. -/
theorem getOrParse_of_digest_ne
    (hd : ∀ entry, r.get? name = some entry → entry.digest ≠ r.digest text) :
    r.getOrParse name text = (parse name text).map (r.insert name text) := by
  cases h : r.get? name with
  | none => simp only [getOrParse, h]
  | some entry => simp only [getOrParse, h, if_neg (hd entry h)]

/-- The source of a template can be registered, whatever stands under the name. -/
theorem exists_register_of_parse {t : Template} (h : Template.parse {} text = .ok t)
    (r : Registry) (name : String) : ∃ r', r.register name text = .ok r' := by
  by_cases hd : ∃ entry, r.get? name = some entry ∧ entry.digest = r.digest text
  · obtain ⟨entry, hget, hd⟩ := hd
    rw [register, getOrParse_of_digest_eq hget hd]
    exact ⟨r, rfl⟩
  · rw [register, getOrParse_of_digest_ne fun entry hget heq => hd ⟨entry, hget, heq⟩,
      parse_of_ok h]
    exact ⟨_, rfl⟩

/-- Another source cannot, unless it is mistaken for what stands there. -/
theorem register_of_parse_error {e : Error} (h : Template.parse {} text = .error e)
    (hd : ∀ entry, r.get? name = some entry → entry.digest ≠ r.digest text) :
    r.register name text = .error e := by
  rw [register, getOrParse_of_digest_ne hd, parse_of_error h]
  rfl

/-- Registering changes the digest of no source. -/
theorem digest_of_register (h : r.register name text = .ok r') : r'.digest = r.digest := by
  obtain ⟨entry, hgp⟩ := exists_getOrParse_of_register h
  rcases getOrParse_cases hgp with ⟨-, rfl⟩ | ⟨t, -, hinsert⟩
  · rfl
  · cases hinsert
    rfl

/-- **One file that is registered** leaves all names but its stem as they were. -/
theorem get?_of_registerFile {file : LibraryFile} (h : r.registerFile file = .ok r') {n : String}
    (hn : Path.stem? file.path ≠ some n) : r'.digest = r.digest ∧ r'.get? n = r.get? n := by
  unfold registerFile at h
  split at h
  · rename_i text stem _ hstem
    obtain ⟨entry, hgp⟩ := exists_getOrParse_of_register h
    refine ⟨digest_of_register h, getOrParse_get?_of_ne hgp ?_⟩
    rintro rfl
    exact hn hstem
  · cases h
    exact ⟨rfl, rfl⟩

/-- **Any number of files that are registered** leave all names but their stems as they were. -/
theorem get?_of_registerAll {files : List LibraryFile} (h : r.registerAll files = .ok r')
    {n : String} (hn : ¬ Stems files n) : r'.digest = r.digest ∧ r'.get? n = r.get? n := by
  induction files generalizing r with
  | nil =>
    cases h
    exact ⟨rfl, rfl⟩
  | cons file files ih =>
    rw [registerAll, List.foldlM_cons] at h
    cases hf : r.registerFile file with
    | error e =>
      rw [hf] at h
      cases h
    | ok r₁ =>
      rw [hf] at h
      obtain ⟨hdigest, hget⟩ := get?_of_registerFile hf fun hs => hn ⟨file, List.mem_cons_self, hs⟩
      obtain ⟨hdigest', hget'⟩ := ih h fun ⟨f, hf, hs⟩ => hn ⟨f, List.mem_cons_of_mem _ hf, hs⟩
      exact ⟨hdigest'.trans hdigest, hget'.trans hget⟩

/-! ## Loading up to the first fault -/

/-- **How far the loading has come**: files were registered, and their stems are seen. -/
structure Loaded (r : Registry) (files : List LibraryFile) (r' : Registry) (seen : List String) :
    Prop where
  /-- The files are registered. -/
  registered : r.registerAll files = .ok r'
  /-- Their stems are seen. -/
  mem_seen_iff (name : String) : name ∈ seen ↔ Stems files name
  /-- Each file was counted. -/
  length_seen : seen.length = files.length
  /-- The rest is loaded from there. -/
  loadFrom_eq (rest : List LibraryFile) : r.load (files ++ rest) = r'.loadFrom seen rest

theorem loaded_nil (r : Registry) : Loaded r [] r [] where
  registered := rfl
  mem_seen_iff name := iff_of_false List.not_mem_nil (not_stems_nil name)
  length_seen := rfl
  loadFrom_eq _ := rfl

section Steps

variable {before : List LibraryFile} {seen : List String} {path : RawText} {file : LibraryFile}

theorem stems_concat (hstem : Path.stem? path = some name) (content : Except IoFault String)
    (n : String) : Stems (before ++ [⟨path, content⟩]) n ↔ n = name ∨ Stems before n := by
  simp only [Stems, List.mem_append, List.mem_singleton, or_and_right, exists_or, exists_eq_left,
    hstem, Option.some.injEq]
  rw [or_comm, eq_comm]

theorem loadFile_of_stem_none (hstem : Path.stem? path = none) (r : Registry)
    (seen : List String) (text : String) :
    r.loadFile seen ⟨path, .ok text⟩ = .error (.noName path) := by
  refine (loadFile_of_text r seen path text).trans ?_
  rw [hstem]

theorem loadFile_of_mem (hstem : Path.stem? path = some name) (hseen : name ∈ seen)
    (r : Registry) (text : String) :
    r.loadFile seen ⟨path, .ok text⟩ = .error (.duplicate name path) := by
  refine (loadFile_of_text r seen path text).trans ?_
  rw [hstem]
  exact if_pos hseen

/-- A file with a new stem is registered. -/
theorem loadFile_of_not_mem (hstem : Path.stem? path = some name) (hseen : name ∉ seen)
    (r : Registry) (text : String) :
    r.loadFile seen ⟨path, .ok text⟩ =
      ((r.register name text).mapError (.unparsable path)).map (name, ·) := by
  refine (loadFile_of_text r seen path text).trans ?_
  rw [hstem]
  exact if_neg hseen

/-- A file whose text is registered under its stem is loaded. -/
theorem loadFrom_cons_of_register (hstem : Path.stem? path = some name) (hseen : name ∉ seen)
    {r₁ : Registry} (hr : r.register name text = .ok r₁) (rest : List LibraryFile) :
    r.loadFrom seen (⟨path, .ok text⟩ :: rest) = r₁.loadFrom (name :: seen) rest := by
  rw [loadFrom, loadFile_of_not_mem hstem hseen, hr]
  rfl

/-- **One more file**, if it is at no fault: it is registered, too, and the loading goes on. -/
theorem Loaded.concat (h : Loaded r before r' seen)
    (hfile : ∀ fault, ¬ file.Unloadable before fault) :
    ∃ r₁ name, Loaded r (before ++ [file]) r₁ (name :: seen) := by
  obtain ⟨path, text⟩ := file
  cases text with
  | error fault => exact absurd .unreadable (hfile _)
  | ok text =>
    cases hstem : Path.stem? path with
    | none => exact absurd (.noName hstem) (hfile _)
    | some name =>
      have hbefore : ¬ Stems before name := fun hs => hfile _ (.duplicate hstem hs)
      cases ht : Template.parse {} text with
      | error e => exact absurd (.unparsable hstem hbefore ht) (hfile _)
      | ok t =>
        obtain ⟨r₁, hr⟩ := exists_register_of_parse ht r' name
        refine ⟨r₁, name, ?_, fun n => ?_, ?_, fun rest => ?_⟩
        · rw [registerAll, List.foldlM_append, ← registerAll, h.registered]
          show ((r'.registerFile ⟨path, .ok text⟩) >>= pure) = _
          simp only [registerFile, hstem, hr]
          rfl
        · rw [List.mem_cons, h.mem_seen_iff, stems_concat hstem (.ok text)]
        · rw [List.length_cons, h.length_seen, List.length_append, List.length_singleton]
        · rw [List.append_assoc, List.singleton_append, h.loadFrom_eq]
          exact loadFrom_cons_of_register hstem (mt (h.mem_seen_iff name).1 hbefore) hr rest

/-- **A file at fault** ends the loading, which leaves the registry as it is. -/
theorem Loaded.loadFrom_cons_of_unloadable (h : Loaded r before r' seen) {fault : LoadFault}
    (hfile : file.Unloadable before fault) (hd : r.Discerns before file)
    (rest : List LibraryFile) :
    r'.loadFrom seen (file :: rest) = (.error fault, r') := by
  suffices hload : r'.loadFile seen file = .error fault by rw [loadFrom, hload]
  cases hfile with
  | unreadable => rfl
  | noName hstem => exact loadFile_of_stem_none hstem r' seen _
  | @duplicate _ text name hstem hbefore =>
    exact loadFile_of_mem hstem ((h.mem_seen_iff name).2 hbefore) r' text
  | @unparsable path text name e hstem hbefore ht =>
    -- what stands under the stem is there since before the loading, so it is not mistaken
    obtain ⟨hdigest, hget⟩ := get?_of_registerAll h.registered hbefore
    have hr : r'.register name text = .error e := by
      refine register_of_parse_error ht fun entry hentry => ?_
      rw [hget] at hentry
      rw [hdigest]
      exact hd text name entry e rfl hstem hbefore ht hentry
    rw [loadFile_of_not_mem hstem (mt (h.mem_seen_iff name).1 hbefore), hr]
    rfl

end Steps

section Runs

variable {files before after : List LibraryFile} {file : LibraryFile} {fault : LoadFault}

/-- Files of which none is at fault are registered one after the other. -/
theorem exists_loaded_of_accepted (h : Accepted LibraryFile.Unloadable files) (r : Registry) :
    ∃ r' seen, Loaded r files r' seen := by
  induction h with
  | nil => exact ⟨r, [], loaded_nil r⟩
  | concat _ hlast ih =>
    obtain ⟨r', seen, hloaded⟩ := ih
    obtain ⟨r₁, name, hnext⟩ := hloaded.concat hlast
    exact ⟨r₁, name :: seen, hnext⟩

/-- **Files of which none is at fault are all registered**, and their number is the answer. -/
theorem load_of_accepted (h : Accepted LibraryFile.Unloadable files) (r : Registry) :
    ∃ r', r.registerAll files = .ok r' ∧ r.load files = (.ok files.length, r') := by
  obtain ⟨r', seen, hloaded⟩ := exists_loaded_of_accepted h r
  refine ⟨r', hloaded.registered, ?_⟩
  have hload := hloaded.loadFrom_eq []
  rw [List.append_nil] at hload
  rw [hload, loadFrom, hloaded.length_seen]

/-- **The first file at fault** ends the loading with its fault, when exactly the files before it
are registered. -/
theorem load_of_unloadable (hbefore : Accepted LibraryFile.Unloadable before)
    (hfile : file.Unloadable before fault) (hd : r.Discerns before file)
    (after : List LibraryFile) :
    ∃ r', r.registerAll before = .ok r' ∧
      r.load (before ++ file :: after) = (.error fault, r') := by
  obtain ⟨r', seen, hloaded⟩ := exists_loaded_of_accepted hbefore r
  exact ⟨r', hloaded.registered, (hloaded.loadFrom_eq _).trans
    (hloaded.loadFrom_cons_of_unloadable hfile hd after)⟩

/-- What is registered later leaves a name as it was, unless it is the stem of a file. -/
theorem get?_of_registerAll_append {earlier later : List LibraryFile} {r₁ : Registry}
    (h₁ : r.registerAll earlier = .ok r₁) (h : r.registerAll (earlier ++ later) = .ok r')
    (hn : ¬ Stems later name) : r'.get? name = r₁.get? name := by
  rw [registerAll, List.foldlM_append, ← registerAll, h₁] at h
  exact (get?_of_registerAll h hn).2

/-- **Loading texts at hand processes a prefix of them.**

* If none is at fault, all are registered under their stems, in order, and that is the registry.
* Otherwise the first one at fault ends the loading with its fault, unless it is no template and is
  mistaken for what stands under its stem, with the same digest. The registry is the one in which
  exactly the texts before it are registered. What stands under a name there was put there by the
  last of them with this stem, or stood there before: so the entry under the stem of the text at
  fault is what it was, and names that are no stems are not touched. -/
theorem loadTexts_first_fault (r : Registry) (texts : List (String × String)) :
    (Accepted LibraryFile.Unloadable (texts.map fileOf) →
      ∃ r', r.registerAll (texts.map fileOf) = .ok r' ∧
        r.loadTexts texts = (.ok texts.length, r')) ∧
    (∀ before file after fault, texts.map fileOf = before ++ file :: after →
      Accepted LibraryFile.Unloadable before → file.Unloadable before fault →
      r.Discerns before file →
      ∃ r', r.registerAll before = .ok r' ∧ r.loadTexts texts = (.error fault, r') ∧
        ∀ earlier later r₁, before = earlier ++ later → r.registerAll earlier = .ok r₁ →
          ∀ name, ¬ Stems later name → r'.get? name = r₁.get? name) := by
  have hfiles : r.loadTexts texts = r.load (texts.map fileOf) := rfl
  rw [hfiles]
  refine ⟨fun h => ?_, ?_⟩
  · obtain ⟨r', hr, hload⟩ := load_of_accepted h r
    rw [List.length_map] at hload
    exact ⟨r', hr, hload⟩
  · intro before file after fault heq hbefore hfile hd
    obtain ⟨r', hr, hload⟩ := load_of_unloadable hbefore hfile hd after
    rw [← heq] at hload
    refine ⟨r', hr, hload, ?_⟩
    rintro earlier later r₁ rfl hr₁ name hname
    exact get?_of_registerAll_append hr₁ hr hname

/-- A computation that is seen to succeed has a result. -/
theorem exists_eq_ok {ε α : Type} {x : Except ε α} (h : x.toOption.isSome) : ∃ a, x = .ok a := by
  cases x with
  | error e => cases h
  | ok a => exact ⟨a, rfl⟩

/-- A computation that is seen to fail has an error. -/
theorem exists_eq_error {ε α : Type} {x : Except ε α} (h : x.toOption.isNone) :
    ∃ e, x = .error e := by
  cases x with
  | error e => exact ⟨e, rfl⟩
  | ok a => cases h

/-- Of three texts the second is no template, and is not mistaken for the one that stands under its
stem. The first one is registered, and what stood under the stem of the second one stands there
still. -/
theorem loadTexts_second_fault :
    let r := (empty.insert "b" "old" ⟨"b", [.text "old"], [], false⟩).2
    let texts := [("x/a.mustache", "A"), ("b.mustache", "\x7b\x7bb"), ("c.mustache", "C")]
    r.Discerns [fileOf ("x/a.mustache", "A")] (fileOf ("b.mustache", "\x7b\x7bb")) ∧
      ∃ r' e, r.registerAll [fileOf ("x/a.mustache", "A")] = .ok r' ∧
        r.loadTexts texts = (.error (.unparsable "b.mustache" e), r') ∧
        r'.get? "b" = r.get? "b" := by
  intro r texts
  have hstem : Path.stem? "x/a.mustache" = some "a" := by decide +kernel
  have hstem' : Path.stem? "b.mustache" = some "b" := by decide +kernel
  obtain ⟨t, ht⟩ : ∃ t, Template.parse {} "A" = .ok t := exists_eq_ok (by decide +kernel)
  obtain ⟨e, he⟩ : ∃ e, Template.parse {} "\x7b\x7bb" = .error e :=
    exists_eq_error (by decide +kernel)
  have hd : r.Discerns [fileOf ("x/a.mustache", "A")] (fileOf ("b.mustache", "\x7b\x7bb")) := by
    intro text name entry e' htext hname _ _ hget
    cases htext
    cases hstem'.symm.trans hname
    rw [show r.get? "b" = _ from get?_insert empty "b" "old" _ "b", if_pos rfl] at hget
    cases hget
    decide +kernel
  have hother : ¬ Stems [fileOf ("x/a.mustache", "A")] "b" := by
    rintro ⟨file, hfile, hname⟩
    cases List.mem_singleton.1 hfile
    exact absurd (hstem.symm.trans hname) (by decide)
  have hfirst : Accepted LibraryFile.Unloadable ([] ++ [fileOf ("x/a.mustache", "A")]) :=
    .concat .nil (LibraryFile.not_unloadable hstem (not_stems_nil "a") ht)
  obtain ⟨r', hr, hload, hkeep⟩ := (loadTexts_first_fault r texts).2 _ _
    [fileOf ("c.mustache", "C")] _ rfl hfirst (.unparsable hstem' hother he) hd
  exact ⟨hd, r', e, hr, hload, hkeep [] _ r rfl rfl "b" hother⟩

/-- Two texts with the same digest: the first is a template, and the second is not. Where the first
is registered, registering the second changes nothing. -/
theorem exists_register_of_digest_eq :
    ∃ r e, empty.register "a" "HigHRfgXmCJLD" = .ok r ∧
      Template.parse {} "\x7b\x7bf8yzGTrcy9G" = .error e ∧
      r.register "a" "\x7b\x7bf8yzGTrcy9G" = .ok r := by
  have hdigest : Text.digest "HigHRfgXmCJLD" = Text.digest "\x7b\x7bf8yzGTrcy9G" := by
    decide +kernel
  obtain ⟨t, ht⟩ : ∃ t, Template.parse {} "HigHRfgXmCJLD" = .ok t :=
    exists_eq_ok (by decide +kernel)
  obtain ⟨e, he⟩ : ∃ e, Template.parse {} "\x7b\x7bf8yzGTrcy9G" = .error e :=
    exists_eq_error (by decide +kernel)
  let r := (empty.insert "a" "HigHRfgXmCJLD" ⟨"a", t.nodes, [], false⟩).2
  have hr : empty.register "a" "HigHRfgXmCJLD" = .ok r := by
    rw [register, getOrParse_of_digest_ne (by rintro entry ⟨⟩), parse_of_ok ht]
    rfl
  have hget : r.get? "a" = some ⟨⟨"a", t.nodes, [], false⟩, empty.digest "HigHRfgXmCJLD", 0⟩ := by
    rw [get?_insert, if_pos rfl]
    rfl
  have hsame : empty.digest "HigHRfgXmCJLD" = r.digest "\x7b\x7bf8yzGTrcy9G" := hdigest
  have hr' : r.register "a" "\x7b\x7bf8yzGTrcy9G" = .ok r := by
    rw [register, getOrParse_of_digest_eq hget hsame]
    rfl
  exact ⟨r, e, hr, he, hr'⟩

/-- **A registry can mistake a text.** These two texts have the same digest. One is registered, and
then the other one, which is no template, is loaded under the same name: no fault is found, and the
first one stays. -/
theorem loadTexts_mistake :
    ∃ r e, empty.register "a" "HigHRfgXmCJLD" = .ok r ∧
      LibraryFile.Unloadable [] (fileOf ("a.mustache", "\x7b\x7bf8yzGTrcy9G"))
        (.unparsable "a.mustache" e) ∧
      r.loadTexts [("a.mustache", "\x7b\x7bf8yzGTrcy9G")] = (.ok 1, r) := by
  have hstem : Path.stem? "a.mustache" = some "a" := by decide +kernel
  obtain ⟨r, e, hr, he, hr'⟩ := exists_register_of_digest_eq
  exact ⟨r, e, hr, .unparsable hstem (not_stems_nil "a") he,
    loadFrom_cons_of_register hstem List.not_mem_nil hr' []⟩

end Runs

end Registry

end Mustache
