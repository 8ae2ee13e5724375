import Mustache.Json.Reader
import Mustache.Library

/-! # The command line
The command renders one template file for the data in a JSON file, or for no data. The template
files next to it and below serve as partials. `CommandLine.run` says what is written and how the
command ends, for any file system. -/

namespace Mustache.CommandLine

/-- How a command ends. -/
structure Outcome where
  /-- Zero if all went well. -/
  exitCode : Nat
  /-- What is written to the standard output. -/
  output : ByteArray
  /-- What is written to the standard error output. -/
  errorText : String

/-! ## Reports -/

/-- A message, followed by the messages of what caused it. -/
abbrev Report : Type := List String

/-- Moves the further lines of a message to the right, by four blanks for the margin and by `indent`
more. -/
def indentLines (indent : String) (message : String) : String :=
  let lines := message.toList.splitOn '\n'
  String.intercalate ("\n" ++ "    " ++ indent) (lines.map String.ofList)

/-- The number of a cause, right-aligned in five places. -/
def causeNumber (n : Nat) : String :=
  let digits := toString n
  String.ofList (List.replicate (5 - digits.length) ' ') ++ digits ++ ": "

/-- The lines for the causes of an error. They are numbered if there are several. -/
def causeLines : List String → List String
  | [cause] => ["    " ++ indentLines "" cause]
  | causes => causes.mapIdx fun n cause => causeNumber n ++ indentLines "   " cause

/-- The text of a report. -/
def reportText : Report → String
  | [] => "Error: \n"
  | [message] => "Error: " ++ message ++ "\n"
  | message :: causes =>
    "Error: " ++ message ++ "\n\nCaused by:\n" ++
      String.intercalate "\n" (causeLines causes) ++ "\n"

/-- The report of an error with a template: bytes that cannot be read or written are a cause of
their own. -/
def errorReport : Error → Report
  | .io fault => [(Error.io fault).message, fault.message]
  | e => [e.message]

/-- The outcome of a command that fails after it wrote `output`. -/
def failure (report : Report) (output : ByteArray) : Outcome := ⟨1, output, reportText report⟩

/-! ## The command -/

/-- How to call the command. -/
def usage : String := "usage: ustache <template-file> [data.json]"

/-- Reads the data for the template. -/
def readData {m : Type → Type} [Monad m] (fs : FileSystem m) :
    Option String → m (Except Report Json)
  | none => return .ok (.object [])
  | some path => do
    match ← fs.readText path with
    | .error fault => return .error ["failed to read data file: " ++ path, fault.message]
    | .ok text =>
      match Json.parse? text with
      | some json => return .ok json
      | none => return .error ["invalid JSON in " ++ path, "this is no JSON value"]

/-- Reads the template file. A directory can be opened, but not read. -/
def readTemplate {m : Type → Type} [Monad m] (fs : FileSystem m) (path : String) :
    m (Except Report Template) := do
  let options := Template.Options.withName {} ((Path.stem? path).getD "")
  let parsed (result : Except Error Template) : Except Report Template :=
    result.mapError fun e => ("failed to parse " ++ path) :: errorReport e
  match ← fs.read path with
  | .ok content => return parsed (Template.parseStream options content)
  | .error .isDirectory => return parsed (.error (.io .isDirectory))
  | .error fault => return .error ["failed to open " ++ path, fault.message]

/-- Runs the command with its arguments. -/
def run {m : Type → Type} [Monad m] (fs : FileSystem m) : (arguments : List String) → m Outcome
  | [] => return failure [usage] ByteArray.empty
  | path :: arguments => do
    match ← readData fs arguments.head? with
    | .error report => return failure report ByteArray.empty
    | .ok json =>
      let (loaded, registry) := Registry.empty.load (← fs.library (Path.directoryOf path))
      match loaded with
      | .error fault => return failure fault.messages ByteArray.empty
      | .ok _ =>
        match ← readTemplate fs path with
        | .error report => return failure report ByteArray.empty
        | .ok template =>
          let (result, sink) := template.render registry.resolver json.toData Sink.unbounded
          match result with
          | .ok () => return ⟨0, sink.written, ""⟩
          | .error e => return failure (errorReport e) sink.written

end Mustache.CommandLine
