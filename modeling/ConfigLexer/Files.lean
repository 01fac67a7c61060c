/-!
# Files

A program sees files through two questions: what text a path leads to, and what is recorded about
the file there.  Nothing is ever written.
-/

namespace ConfigLexer

/-- The reason why a path leads to no text. -/
inductive ReadFailure where
  /-- A name on the path is missing. -/
  | notFound
  /-- A file stands where the path goes on. -/
  | notDirectory
  /-- The path leads to a directory. -/
  | isDirectory
  /-- A name, or the whole path, is too long. -/
  | nameTooLong
  /-- The path holds a NUL. -/
  | nulInPath
  /-- The bytes of the file are no UTF-8. -/
  | notUtf8
  /-- Something else that the system reports. -/
  | other (report : String)
deriving DecidableEq, Repr

namespace ReadFailure

/-- The report of a failure. -/
def message : ReadFailure → String
  | notFound => "No such file or directory (os error 2)"
  | notDirectory => "Not a directory (os error 20)"
  | isDirectory => "Is a directory (os error 21)"
  | nameTooLong => "File name too long (os error 36)"
  | nulInPath => "file name contained an unexpected NUL byte"
  | notUtf8 => "stream did not contain valid UTF-8"
  | other report => report

end ReadFailure

/-- What is recorded about a file. -/
structure FileStatus where
  /-- It is a regular file. -/
  isRegular : Bool
  /-- Who may read, write and execute it, one bit each. -/
  mode : UInt32
deriving DecidableEq, Repr

namespace FileStatus

/-- The bits that let the owner, the group and others execute a file. -/
def executeBits : UInt32 := 0o111

/-- It is a regular file that somebody may execute. -/
def isProgram (status : FileStatus) : Bool :=
  status.isRegular && status.mode &&& executeBits != 0

end FileStatus

/-- What a program sees of the files around it. -/
structure Files where
  /-- The text that a path leads to. -/
  read : String → Except ReadFailure String
  /-- What is recorded about the file that a path leads to, if there is one. -/
  status? : String → Option FileStatus

namespace Files

/-- The path leads to a program. -/
def isProgram (files : Files) (path : String) : Bool :=
  (files.status? path).any FileStatus.isProgram

end Files

end ConfigLexer
