import Mustache.Library

/-! # Trees of files
A `FileTree` holds files and directories in memory. A path leads from a place in a tree to another
one (`FileTree.Place.follow`), one component after the other, so that the first component that leads
nowhere tells what is wrong with the path. `FileSystem.ofTree` makes a file system of two trees: the
root, from which absolute paths start, and the working directory for all others. -/

namespace Mustache

/-- A file or a directory. -/
inductive FileTree where
  /-- A file with its content. -/
  | file (content : ByteArray)
  /-- A directory with its entries by name, no two with the same. -/
  | directory (entries : List (RawText × FileTree))

namespace FileTree

/-- The directory without entries. -/
def empty : FileTree := directory []

instance : Inhabited FileTree := ⟨empty⟩

/-! ## Building trees -/

/-- Puts an entry behind others, or in the place of one with the same name. -/
def putEntry (name : RawText) (tree : FileTree) :
    List (RawText × FileTree) → List (RawText × FileTree)
  | [] => [(name, tree)]
  | (n, t) :: entries =>
    if n = name then (name, tree) :: entries else (n, t) :: putEntry name tree entries

/-- Changes what is at a path by `f`. Directories on the way are made if they are missing, and below
a file nothing is changed. -/
def modify (f : FileTree → FileTree) : (path : List RawText) → FileTree → FileTree
  | [], tree => f tree
  | _ :: _, file content => file content
  | name :: path, directory entries =>
    let old := (entries.lookup name).getD empty
    directory (putEntry name (modify f path old) entries)

/-- Puts a file at a path. -/
def addFile (path : List RawText) (content : ByteArray) (tree : FileTree) : FileTree :=
  modify (fun _ => file content) path tree

/-- Makes a directory at a path, unless there is something. -/
def addDirectory (path : List RawText) (tree : FileTree) : FileTree := modify id path tree

/-! ## The files of a tree -/

mutual

/-- The paths of the files of a tree that is found at `path`. -/
def filePaths (path : RawText) : FileTree → List RawText
  | file _ => [path]
  | directory entries => entryPaths path entries

/-- The paths of the files below some entries of the directory `dir`. -/
def entryPaths (dir : RawText) : List (RawText × FileTree) → List RawText
  | [] => []
  | (name, tree) :: entries => filePaths (Path.join dir name) tree ++ entryPaths dir entries

end

/-! ## Following a path -/

/-- A component of a path has at most this many bytes. -/
def nameLimit : Nat := 255

/-- A path has fewer bytes than this. -/
def pathLimit : Nat := 4096

/-- A place in a tree: what is there, and the directories above it, the nearest one first. -/
structure Place where
  /-- The file or directory at this place. -/
  tree : FileTree
  /-- The directories that hold it. -/
  above : List FileTree

namespace Place

/-- The place above. The topmost one is above itself. -/
def parent (place : Place) : Place :=
  match place.above with
  | [] => place
  | tree :: above => ⟨tree, above⟩

/-- Follows one component of a path. It leads on from directories only. -/
def step (place : Place) (component : RawText) : Except IoFault Place :=
  match place.tree with
  | file _ => .error .notDirectory
  | directory entries =>
    if component = "" ∨ component = "." then .ok place
    else if component = ".." then .ok place.parent
    else if nameLimit < component.bytes.length then .error .nameTooLong
    else
      match entries.lookup component with
      | some tree => .ok ⟨tree, place.tree :: place.above⟩
      | none => .error .notFound

/-- Follows components of a path in order. -/
def follow (place : Place) (components : List RawText) : Except IoFault Place :=
  components.foldlM step place

end Place

/-- The place to which a path leads. -/
def find (root working : FileTree) (path : RawText) : Except IoFault Place :=
  if path.bytes.isEmpty then .error .notFound
  else if pathLimit ≤ path.bytes.length then .error .nameTooLong
  else
    let start : Place :=
      if path.bytes.head? = some Path.slash then ⟨root, []⟩ else ⟨working, [root]⟩
    start.follow ((path.bytes.splitOn Path.slash).map RawText.mk)

end FileTree

/-- The file system whose absolute paths start from `root` and all others from `working`. The
working directory lies in the root without a name there. -/
def FileSystem.ofTree (root working : FileTree) : FileSystem Id where
  read path :=
    match FileTree.find root working path with
    | .ok ⟨.file content, _⟩ => .ok content
    | .ok ⟨.directory _, _⟩ => .error .isDirectory
    | .error fault => .error fault
  filesBelow path :=
    match FileTree.find root working path with
    | .ok place =>
      (place.tree.filePaths path).filter fun p => decide (p.bytes.length < FileTree.pathLimit)
    | .error _ => []

end Mustache
