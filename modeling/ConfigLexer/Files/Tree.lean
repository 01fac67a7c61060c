import ConfigLexer.Files

/-!
# File trees

The files below a directory, which is the current one.  A path is walked name by name; above the
current directory there is nothing but directories without further entries.
-/

namespace ConfigLexer

/-- A file with its permissions, or a directory with its entries. -/
inductive FileTree where
  | file (bytes : ByteArray) (mode : UInt32)
  | directory (entries : List (String × FileTree))

namespace FileTree

/-- The directory without entries. -/
def empty : FileTree := directory []

/-- The entry with a name. -/
def child? : FileTree → String → Option FileTree
  | directory entries, name => entries.lookup name
  | file .., _ => none

/-- The entries with another one put in place of the one with its name, if there is one. -/
def putEntry (name : String) (tree : FileTree) :
    List (String × FileTree) → List (String × FileTree)
  | [] => [(name, tree)]
  | other :: entries =>
      if other.1 == name then (name, tree) :: entries else other :: putEntry name tree entries

/-- Put a tree at the end of a path of names, and make the directories on the way. -/
def put (tree : FileTree) : List String → FileTree → FileTree
  | [], _ => tree
  | name :: names, directory entries =>
      directory (putEntry name (tree.put names ((entries.lookup name).getD empty)) entries)
  | name :: names, file .. => directory [(name, tree.put names empty)]

/-- What lies at a path of names. -/
def descendant? : FileTree → List String → Option FileTree
  | tree, [] => some tree
  | tree, name :: names => (tree.child? name).bind (·.descendant? names)

/-- The names on a path, but for those that stay where they are. -/
def names (path : String) : List String :=
  (path.splitOn "/").filter fun name => name != "" && name != "."

/-- Step from a directory, given by the names that lead to it, to a neighbour.  A directory that is
missing is made. -/
def enter (position : FileTree × List String) (name : String) : FileTree × List String :=
  let (root, place) := position
  if name == ".." then (root, place.dropLast)
  else
    let inner := place ++ [name]
    ((if (root.descendant? inner).isSome then root else empty.put inner root), inner)

/-- Step through names from the root of a tree, and make the directories on the way. -/
def enterAll (root : FileTree) (names : List String) : FileTree × List String :=
  names.foldl enter (root, [])

/-- Make a directory, unless there is one already. -/
def makeDirectory (root : FileTree) (path : String) : FileTree := (enterAll root (names path)).1

/-- The permissions of a new file: all may read it, its owner may write it, and if it is executable
all may execute it. -/
def newFileMode (isExecutable : Bool) : UInt32 := if isExecutable then 0o755 else 0o644

/-- Make a file.  The directories that its path goes through are made even if it leaves them
again. -/
def makeFile (root : FileTree) (path : String) (bytes : ByteArray) (isExecutable : Bool) :
    FileTree :=
  let (tree, place) := enterAll root (names path).dropLast
  (file bytes (newFileMode isExecutable)).put (place ++ (names path).getLast?.toList) tree

/-- Walk the names of a path from a place, which is given with the directories around it, innermost
first. -/
def walk : List FileTree → List String → Except ReadFailure (List FileTree)
  | places, [] => .ok places
  | [], _ :: _ => .error .notFound
  | place :: around, name :: names =>
      match place with
      | file .. => .error .notDirectory
      | directory entries =>
          if name == "" || name == "." then walk (place :: around) names
          else if name == ".." then
            match around with
            | [] => walk [empty] names
            | outer :: outermost => walk (outer :: outermost) names
          else if 255 < name.utf8ByteSize then .error .nameTooLong
          else
            match entries.lookup name with
            | none => .error .notFound
            | some inner => walk (inner :: place :: around) names

/-- The file or directory that a path leads to from the root of a tree.  An absolute path starts
outside the tree, where there is nothing. -/
def find (root : FileTree) (path : String) : Except ReadFailure FileTree :=
  if path.toList.contains '\x00' then .error .nulInPath
  else if path.isEmpty then .error .notFound
  else if 4096 ≤ path.utf8ByteSize then .error .nameTooLong
  else
    let start := if path.startsWith "/" then [empty] else [root]
    match walk start (path.splitOn "/") with
    | .error failure => .error failure
    | .ok [] => .error .notFound
    | .ok (place :: _) => .ok place

/-- The text that a path leads to. -/
def read (root : FileTree) (path : String) : Except ReadFailure String :=
  match root.find path with
  | .error failure => .error failure
  | .ok (directory _) => .error .isDirectory
  | .ok (file bytes _) =>
      match String.fromUTF8? bytes with
      | some text => .ok text
      | none => .error .notUtf8

/-- The permissions of every directory. -/
def directoryMode : UInt32 := 0o755

/-- What is recorded about a file or a directory. -/
def status : FileTree → FileStatus
  | file _ mode => ⟨true, mode⟩
  | directory _ => ⟨false, directoryMode⟩

/-- What is recorded about the file or the directory that a path leads to. -/
def status? (root : FileTree) (path : String) : Option FileStatus :=
  match root.find path with
  | .ok place => some place.status
  | .error _ => none

/-- What a program sees whose current directory is the root of a tree. -/
def files (root : FileTree) : Files := ⟨root.read, root.status?⟩

end FileTree
end ConfigLexer
