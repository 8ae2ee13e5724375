import Mustache.CommandLine

/-! # The program
Runs the command on the files of the machine. -/

namespace Mustache

/-- The number of an error of the machine, which may come with a minus sign. -/
def errorNumber (number : UInt32) : Nat :=
  if number.toNat < 0x80000000 then number.toNat else (-number).toNat

/-- The fault for which the machine refuses to read a file. -/
def IoFault.ofError : IO.Error → IoFault
  | .noFileOrDirectory .. => .notFound
  | .inappropriateType .. => .notDirectory
  | .permissionDenied _ number _ => .system "Permission denied" (errorNumber number)
  | .invalidArgument _ number reason =>
    if errorNumber number = 36 then .nameTooLong else .system reason (errorNumber number)
  | e => .system e.toString 0

/-- Reads a file of the machine, which knows of names only that are texts. -/
def readFile (path : RawText) : IO (Except IoFault ByteArray) := do
  let some text := path.text? | return .error .notFound
  let place := (← IO.currentDir) / text
  try
    if text.isEmpty then return .error .notFound
    else if ← place.isDir then return .error .isDirectory
    else return .ok (← IO.FS.readBinFile place)
  catch e => return .error (.ofError e)

/-- The paths of the files at a path or below it, by name. What cannot be listed has no files. -/
partial def listFiles (path : RawText) : IO (List RawText) := do
  let some text := path.text? | return []
  let place := (← IO.currentDir) / text
  if text.isEmpty then return []
  else if ← place.isDir then
    try
      let names := (← place.readDir).toList.map (·.fileName)
      let sorted := names.mergeSort fun a b => decide (a ≤ b)
      return (← sorted.mapM fun (name : String) => listFiles (Path.join path name)).flatten
    catch _ => return []
  else if ← place.pathExists then return [path]
  else return []

end Mustache

/-- Runs the command and writes what it has to say. -/
def main (arguments : List String) : IO UInt32 := do
  let outcome ← Mustache.CommandLine.run ⟨Mustache.readFile, Mustache.listFiles⟩ arguments
  let out ← IO.getStdout
  out.write outcome.output
  out.flush
  IO.eprint outcome.errorText
  return outcome.exitCode.toUInt32
