import Mustache.CommandLine
import Mustache.FileTree
import Mustache.Proofs.Json
import Mustache.Proofs.Registry.Plain

/-! # How the command ends
The command renders once its data, its library and its template are there (`CommandLine.Ready`), and
before that it writes nothing. All templates that it can come to are plain, and JSON always has a
value, so that a rendering can only go too deep: the ways in which a rendering fails for a host
program (missing names, values, faults of the sink) do not occur. -/

namespace Mustache.CommandLine

open Rendering (inclusionLimit)

variable {fs : FileSystem Id} {path : String} {arguments : List String}
variable {json : Json} {registry : Registry} {template : Template}

/-! ## What comes before the rendering -/

/-- **The templates are there**: the library is in the registry, and the template at the path could
be read and parsed. -/
structure Loaded (fs : FileSystem Id) (path : String) (registry : Registry) (template : Template) :
    Prop where
  /-- All files next to the template and below were registered. -/
  library : ∃ count,
    Registry.empty.load (fs.library (Path.directoryOf path)) = (.ok count, registry)
  /-- The template was read. -/
  template : readTemplate fs path = Except.ok template

/-- **All is there for the rendering**: the arguments name a template and perhaps data, and both
were read. -/
inductive Ready (fs : FileSystem Id) : List String → Json → Registry → Template → Prop where
  /-- The template is named first, and the data next. -/
  | intro {path : String} {arguments : List String} {json : Json} {registry : Registry}
      {template : Template} (data : readData fs arguments.head? = Except.ok json)
      (loaded : Loaded fs path registry template) :
      Ready fs (path :: arguments) json registry template

/-- The templates are there too. -/
theorem Ready.loaded (h : Ready fs arguments json registry template) :
    ∃ path, Loaded fs path registry template := by
  cases h with
  | intro _ loaded => exact ⟨_, loaded⟩

/-- A rendering that succeeds goes to the standard output. -/
theorem Ready.run_of_ok (h : Ready fs arguments json registry template) {sink : Sink}
    (hr : template.render registry.resolver json.toData Sink.unbounded = (.ok (), sink)) :
    run fs arguments = (⟨0, sink.written, ""⟩ : Outcome) := by
  cases h with
  | intro data loaded =>
    obtain ⟨count, hlibrary⟩ := loaded.library
    simp only [run, bind, pure, data, hlibrary, loaded.template, hr]

/-- Of a rendering that fails the standard output gets what was written before. -/
theorem Ready.run_of_error (h : Ready fs arguments json registry template) {e : Error} {sink : Sink}
    (hr : template.render registry.resolver json.toData Sink.unbounded = (.error e, sink)) :
    run fs arguments = failure (errorReport e) sink.written := by
  cases h with
  | intro data loaded =>
    obtain ⟨count, hlibrary⟩ := loaded.library
    simp only [run, bind, pure, data, hlibrary, loaded.template, hr]

/-- **Without all of it the command fails and writes nothing.** -/
theorem exists_failure_or_ready (fs : FileSystem Id) (arguments : List String) :
    (∃ report, run fs arguments = failure report ByteArray.empty) ∨
      ∃ json registry template, Ready fs arguments json registry template := by
  -- the stages in their order, each of which may be the last
  cases arguments with
  | nil => exact .inl ⟨[usage], rfl⟩
  | cons path arguments =>
    cases hdata : readData fs arguments.head? with
    | error report =>
      refine .inl ⟨report, ?_⟩
      simp only [run, bind, pure, hdata]
    | ok json =>
      cases hlibrary : Registry.empty.load (fs.library (Path.directoryOf path)) with
      | mk loaded registry =>
        cases loaded with
        | error fault =>
          refine .inl ⟨fault.messages, ?_⟩
          simp only [run, bind, pure, hdata, hlibrary]
        | ok count =>
          cases htemplate : readTemplate fs path with
          | error report =>
            refine .inl ⟨report, ?_⟩
            simp only [run, bind, pure, hdata, hlibrary, htemplate]
          | ok template =>
            exact .inr ⟨json, registry, template, .intro hdata ⟨⟨count, hlibrary⟩, htemplate⟩⟩

/-! ## The rendering -/

/-- The command reads plain templates. -/
theorem plain_of_readTemplate (h : readTemplate fs path = Except.ok template) :
    template.Plain := by
  simp only [readTemplate, bind, pure] at h
  cases hread : fs.read path with
  | error fault =>
    -- a directory is opened before it turns out to have no bytes, and fails like the others
    rw [hread] at h
    cases fault <;> cases h
  | ok content =>
    cases ht : Template.parseStream
        (Template.Options.withName {} ((Path.stem? path).getD "")) content with
    | error e =>
      simp only [hread, ht] at h
      cases h
    | ok t =>
      simp only [hread, ht] at h
      cases h
      exact Template.plain_of_parseStream ht

/-- What the command finds in its library is plain. -/
theorem Loaded.plain_resolver (h : Loaded fs path registry template) : registry.resolver.Plain := by
  obtain ⟨count, hlibrary⟩ := h.library
  have hplain := Registry.plain_empty.loadFrom [] (fs.library (Path.directoryOf path))
  rw [show Registry.empty.loadFrom [] (fs.library (Path.directoryOf path)) =
    (.ok count, registry) from hlibrary] at hplain
  exact hplain.resolver

/-- **The command renders or goes too deep**, whatever the data are. -/
theorem Loaded.render_cases (h : Loaded fs path registry template) (json : Json) :
    (∃ sink, template.render registry.resolver json.toData Sink.unbounded = (.ok (), sink)) ∨
      ∃ name sink, template.render registry.resolver json.toData Sink.unbounded =
        (.error (.partialDepth name inclusionLimit), sink) := by
  -- the data always have a value, so there is a rendering to look at
  have hrender : template.render registry.resolver json.toData Sink.unbounded =
      template.renderStack registry.resolver [json.value] Sink.unbounded := by
    simp only [Template.render, Value.ofData_toData]
  rw [hrender]
  cases hend : template.renderStack registry.resolver [json.value] Sink.unbounded with
  | mk result sink =>
    cases result with
    | ok => exact .inl ⟨sink, rfl⟩
    | error e =>
      obtain ⟨name, rfl⟩ := (plain_of_readTemplate h.template).tooDeep_of_renderStack
        h.plain_resolver (congrArg Prod.fst hend)
      exact .inr ⟨name, sink, rfl⟩

/-- **A command can fail a rendering only by depth.** For every file system:

* with the library and the template at hand, a rendering for any JSON value succeeds, or ends
  because partials are nested too deep: no name is missing, and the data have a value;
* with the data at hand too, the command ends with this rendering: if it succeeds, the exit code is
  zero and the standard output gets all that it writes, and otherwise the exit code is one and the
  standard output gets what was written before;
* if anything of this is not at hand, the exit code is one and the standard output gets nothing. -/
theorem run_fails_only_by_depth (fs : FileSystem Id) :
    (∀ path registry template, Loaded fs path registry template → ∀ json : Json,
      let result := (template.render registry.resolver json.toData Sink.unbounded).1
      result = .ok () ∨ ∃ name, result = .error (.partialDepth name inclusionLimit)) ∧
    (∀ arguments json registry template, Ready fs arguments json registry template →
      (∃ bytes, template.renderBytes registry.resolver json.toData = .ok bytes ∧
        run fs arguments = (⟨0, bytes, ""⟩ : Outcome)) ∨
      ∃ name sink, let e := Error.partialDepth name inclusionLimit
        template.render registry.resolver json.toData Sink.unbounded = (.error e, sink) ∧
        run fs arguments = (⟨1, sink.written, reportText [e.message]⟩ : Outcome)) ∧
    (∀ arguments, (∀ json registry template, ¬ Ready fs arguments json registry template) →
      (run fs arguments).exitCode = 1 ∧ (run fs arguments).output = ByteArray.empty) := by
  refine ⟨?rendering, ?ready, ?notReady⟩
  case rendering =>
    intro path registry template h json
    rcases h.render_cases json with ⟨sink, hr⟩ | ⟨name, sink, hr⟩
    · exact .inl (congrArg Prod.fst hr)
    · exact .inr ⟨name, congrArg Prod.fst hr⟩
  case ready =>
    intro arguments json registry template h
    obtain ⟨path, hloaded⟩ := h.loaded
    rcases hloaded.render_cases json with ⟨sink, hr⟩ | ⟨name, sink, hr⟩
    · refine .inl ⟨sink.written, ?_, h.run_of_ok hr⟩
      simp only [Template.renderBytes, hr, Except.map]
    · exact .inr ⟨name, sink, hr, h.run_of_error hr⟩
  case notReady =>
    intro arguments hnot
    rcases exists_failure_or_ready fs arguments with ⟨report, hr⟩ | ⟨json, registry, template, h⟩
    · rw [hr]
      exact ⟨rfl, rfl⟩
    · exact absurd h (hnot json registry template)

/-- **A page that includes itself** is at hand and goes too deep, after some output. -/
theorem run_page_in_itself :
    let site := FileTree.empty.addFile ["page.mustache"] "a\x7b\x7b> page\x7d\x7d".toUTF8
    let fs := FileSystem.ofTree FileTree.empty site
    ∃ json registry template, Ready fs ["page.mustache"] json registry template ∧
      ∃ name sink, let e := Error.partialDepth name inclusionLimit
        template.render registry.resolver json.toData Sink.unbounded = (.error e, sink) ∧
        run fs ["page.mustache"] = (⟨1, sink.written, reportText [e.message]⟩ : Outcome) ∧
        sink.written = (String.ofList (List.replicate 65 'a')).toUTF8 := by
  intro site fs
  have hexit : (run fs ["page.mustache"] : Outcome).exitCode = 1 := by decide +kernel
  have houtput : (run fs ["page.mustache"] : Outcome).output =
      (String.ofList (List.replicate 65 'a')).toUTF8 := by decide +kernel
  obtain ⟨-, hready, hnot⟩ := run_fails_only_by_depth fs
  -- with something missing there would be no output
  have hsome : ∃ json registry template, Ready fs ["page.mustache"] json registry template := by
    by_contra hnone
    push Not at hnone
    have hempty := (hnot _ hnone).2.symm.trans houtput
    exact absurd hempty (by decide +kernel)
  obtain ⟨json, registry, template, h⟩ := hsome
  rcases hready _ json registry template h with ⟨bytes, -, hrun⟩ | ⟨name, sink, hrender, hrun⟩
  · rw [hrun] at hexit
    cases hexit
  · rw [hrun] at houtput
    exact ⟨json, registry, template, h, name, sink, hrender, hrun, houtput⟩

/-- A page with a partial, and data with objects in an array. -/
example :
    let tag (s : String) := "\x7b\x7b" ++ s ++ "\x7d\x7d"
    let page := tag "#rows" ++ tag "> row" ++ tag "/rows"
    let row := "<" ++ tag "n" ++ tag "none" ++ ">"
    let data := "\x7b\"rows\": [\x7b\"n\": 1\x7d, \x7b\"n\": \"&\"\x7d]\x7d"
    let site := ((FileTree.empty.addFile ["page.mustache"] page.toUTF8).addFile
      ["parts", "row.mustache"] row.toUTF8).addFile ["data.json"] data.toUTF8
    let outcome : Outcome :=
      run (FileSystem.ofTree FileTree.empty site) ["page.mustache", "data.json"]
    outcome.exitCode = 0 ∧ outcome.output = "<1><&amp;>".toUTF8 := by decide +kernel

end Mustache.CommandLine
