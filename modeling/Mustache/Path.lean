import Mustache.Text.Raw

/-! # Paths of template files
A path is components with slashes between them. The last one names a file, and the part of the name
before its last dot is the stem. A template in the file is known by the stem, if that is a text
(`Path.stem?`): paths are raw, and a name need not be one. A name that begins with its only dot has
no extension. -/

namespace Mustache.Path

/-- What stands between components. -/
def slash : UInt8 := 0x2F

/-- What stands before an extension. -/
def dot : UInt8 := 0x2E

/-- The extension of template files. -/
def templateExtension : RawText := "mustache"

/-- The components of a path in reverse order. Empty components and single dots at the end of a path
say nothing and are left out. -/
def reversedComponents (path : List UInt8) : List (List UInt8) :=
  (path.splitOn slash).reverse.dropWhile fun part => part == [] || part == [dot]

/-- The name of the file of a path, unless the path ends in a step upwards or has no component. -/
def fileName? (path : List UInt8) : Option (List UInt8) :=
  match reversedComponents path with
  | [] => none
  | name :: _ => if name = [dot, dot] then none else some name

/-- The part of a name before its last dot, and the extension behind it. -/
def splitExtension (name : List UInt8) : List UInt8 × Option (List UInt8) :=
  let backwards := name.reverse
  let extension := backwards.takeWhile (· != dot)
  match backwards.dropWhile (· != dot) with
  | _ :: b :: stem => ((b :: stem).reverse, some extension.reverse)
  | _ => (name, none)

/-- The stem of a path, if it is a text. -/
def stem? (path : RawText) : Option String :=
  (fileName? path.bytes).bind fun name => RawText.text? ⟨(splitExtension name).1⟩

/-- Whether the name of a path has the extension of template files. -/
def isTemplate (path : RawText) : Bool :=
  ((fileName? path.bytes).bind fun name => (splitExtension name).2) == some templateExtension.bytes

/-- A path below a directory. -/
def join (dir name : RawText) : RawText :=
  if dir.bytes.getLast?.all (· == slash) then ⟨dir.bytes ++ name.bytes⟩
  else ⟨dir.bytes ++ slash :: name.bytes⟩

/-- The directory that holds the file of a path; it is the current one if the path does not tell. -/
def directoryOf (path : RawText) : RawText :=
  match reversedComponents path.bytes with
  | [] => "."
  | _ :: parts =>
    match parts.dropWhile fun part => part == [] || part == [dot] with
    | [] => if parts.getLast? = some [] then "/" else "."
    | parts => ⟨[slash].intercalate parts.reverse⟩

end Mustache.Path
