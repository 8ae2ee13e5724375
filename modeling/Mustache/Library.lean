import Mustache.Path
import Mustache.Registry

/-! # Libraries of templates
A library is a number of template files, which are registered under the stems of their paths. They
are taken in the given order, and the first one that cannot be registered ends the loading: what
came before it stays in the registry, and nothing else changes (`Registry.loadFrom`). No two files
of one library may have the same stem, whereas a stem that is in the registry already gets the new
template. -/

namespace Mustache

/-- A file of a library. -/
structure LibraryFile where
  /-- The path of the file. -/
  path : RawText
  /-- The text in the file, unless it cannot be read. -/
  text : Except IoFault String

/-- The reasons for which a file cannot be registered. -/
inductive LoadFault where
  /-- The file cannot be read. -/
  | unreadable (path : RawText) (fault : IoFault)
  /-- The path has no stem, or one that is no text. -/
  | noName (path : RawText)
  /-- A file with the same stem came before. -/
  | duplicate (name : String) (path : RawText)
  /-- The text of the file is no template. -/
  | unparsable (path : RawText) (error : Error)

/-- The message of a fault, followed by the messages of what caused it. -/
def LoadFault.messages : LoadFault → List String
  | unreadable path fault => ["failed to read template: " ++ path.display, fault.message]
  | noName path => ["template path has no usable name: " ++ path.display]
  | duplicate name path =>
    ["duplicate template name '" ++ name ++ "' (from '" ++ path.display ++ "')"]
  | unparsable path error => ["failed to parse template: " ++ path.display, error.message]

namespace Registry

/-- Registers one file; `seen` holds the stems of the files before it. The answer is its stem and
the registry with the file. -/
def loadFile (r : Registry) (seen : List String) (file : LibraryFile) :
    Except LoadFault (String × Registry) := do
  let text ← file.text.mapError (.unreadable file.path)
  match Path.stem? file.path with
  | none => throw (.noName file.path)
  | some name =>
    if name ∈ seen then throw (.duplicate name file.path)
    else
      let r ← (r.register name text).mapError (.unparsable file.path)
      return (name, r)

/-- Registers files in order, when those with the stems in `seen` came before them. The answer is
the number of all these files, or the first fault; the registry holds what was registered up to
there. -/
def loadFrom (r : Registry) (seen : List String) : List LibraryFile →
    Except LoadFault Nat × Registry
  | [] => (.ok seen.length, r)
  | file :: files =>
    match r.loadFile seen file with
    | .ok (name, r) => loadFrom r (name :: seen) files
    | .error fault => (.error fault, r)

/-- Registers the files of a library. -/
def load (r : Registry) (files : List LibraryFile) : Except LoadFault Nat × Registry :=
  r.loadFrom [] files

/-- Registers templates at hand, given by path and text. -/
def loadTexts (r : Registry) (texts : List (String × String)) : Except LoadFault Nat × Registry :=
  r.load (texts.map fun (path, text) => ⟨path, .ok text⟩)

end Registry

/-! ## Directories -/

/-- What is needed of a file system, for computations in `m`. -/
structure FileSystem (m : Type → Type) where
  /-- The content of the file at a path. -/
  read : RawText → m (Except IoFault ByteArray)
  /-- The paths of all files at a path or below it. -/
  filesBelow : RawText → m (List RawText)

namespace FileSystem

variable {m : Type → Type} [Monad m]

/-- The text in the file at a path. -/
def readText (fs : FileSystem m) (path : RawText) : m (Except IoFault String) := do
  let content ← fs.read path
  return content.bind fun bytes => (Utf8.decode bytes).mapError fun _ => .streamNotText

/-- The template files at a path or below it. -/
def library (fs : FileSystem m) (dir : RawText) : m (List LibraryFile) := do
  let paths ← fs.filesBelow dir
  (paths.filter Path.isTemplate).mapM fun path => do
    return ⟨path, ← fs.readText path⟩

end FileSystem

end Mustache
