import ConfigLexer.CommandLine.Consulted

/-!
# The program

The program looks at the files that a run may consult, runs the command line on what it found, and
writes down the outcome.

The system does not tell it the permissions of a file, so whatever it can read counts as a program.
This is a known difference: a file that may be read but not executed is taken for a program here,
and one that may be executed but not read is not.
-/

namespace ConfigLexer

namespace ReadFailure

/-- The failure with a number of the operating system.  Some numbers come with a minus sign. -/
def ofNumber (code : UInt32) (details : String) : ReadFailure :=
  match min code.toNat (-code).toNat with
  | 2 => notFound
  | 20 => notDirectory
  | 21 => isDirectory
  | 36 => nameTooLong
  | number => other (details ++ " (os error " ++ toString number ++ ")")

/-- The failure that the operating system reports. -/
def ofSystem : IO.Error → ReadFailure
  | .noFileOrDirectory _ code details => ofNumber code details
  | .inappropriateType _ code details => ofNumber code details
  | .invalidArgument _ code details => ofNumber code details
  | .permissionDenied _ code details => ofNumber code details
  | error => other (toString error)

end ReadFailure

/-- Read the text that a path leads to. -/
def readText (path : String) : IO (Except ReadFailure String) := do
  try
    match String.fromUTF8? (← IO.FS.readBinFile path) with
    | some text => return .ok text
    | none => return .error .notUtf8
  catch error => return .error (.ofSystem error)

/-- The status that stands for that of a file that can be read. -/
def readableStatus : FileStatus := ⟨true, FileStatus.executeBits⟩

/-- Find out whether there is a file at a path that can be read.  Its real permissions stay
unknown. -/
def findStatus? (path : String) : IO (Option FileStatus) := do
  try
    let file ← IO.FS.Handle.mk path .read
    discard (file.read 1)
    return some readableStatus
  catch _ => return none

end ConfigLexer

open ConfigLexer in
/-- Run the command line. -/
def main (arguments : List String) : IO UInt32 := do
  let invocation := CommandLine.Invocation.ofArguments arguments
  let searchPath ← IO.getEnv "PATH"
  let texts ← invocation.readPaths.mapM fun path => do return (path, ← readText path)
  let places := invocation.programPaths (.ofFindings texts []) searchPath
  let statuses ← places.filterMapM fun path => do
    return (← findStatus? path).map fun status => (path, status)
  let outcome := CommandLine.run (.ofFindings texts statuses) searchPath arguments
  IO.print outcome.output
  IO.eprint outcome.complaint
  return outcome.code
