import ConfigLexer.CommandLine.Failure
import ConfigLexer.Report

/-!
# The command `lex`

The arguments name files and, at any place among them, a window to scan in every file.  The last
window counts; the files keep their order.
-/

namespace ConfigLexer
namespace CommandLine

/-- The window that the text of an option writes. -/
def readWindow (text : String) : Except Failure Window :=
  match Window.ofText? text with
  | some window => .ok window
  | none => .error (.malformedWindow text)

/-- What one argument asks for. -/
inductive LexArgument where
  /-- To scan a window of every file. -/
  | within (window : Window)
  /-- To scan a file. -/
  | file (path : String)
deriving DecidableEq, Repr

namespace LexArgument

/-- Read an argument.  What starts with a dash is an option. -/
def read (argument : String) : Except Failure LexArgument :=
  match optionValue? "--range" argument with
  | some text => (readWindow text).map .within
  | none =>
      if argument.toList.head? = some '-' then .error (.unknownOption argument)
      else .ok (.file argument)

/-- The window that an argument asks for. -/
def window? : LexArgument → Option Window
  | within window => some window
  | file _ => none

/-- The path that an argument asks for. -/
def path? : LexArgument → Option String
  | within _ => none
  | file path => some path

end LexArgument

/-- What a list of arguments asks for. -/
structure LexRequest where
  /-- The window to scan in every file.  Without one the files are scanned whole. -/
  window : Option Window
  /-- The paths of the files. -/
  paths : List String
deriving DecidableEq, Repr

namespace LexRequest

/-- Read a list of arguments, up to the first that is wrong. -/
def ofArguments (arguments : List String) : Except Failure LexRequest :=
  (arguments.mapM LexArgument.read).map fun read =>
    ⟨(read.filterMap LexArgument.window?).getLast?, read.filterMap LexArgument.path?⟩

end LexRequest

/-- The report on a file, under its path. -/
def lexFile (files : Files) (vocabulary : Vocabulary) (window : Option Window) (path : String) :
    Except Failure String := do
  let source ← readSource files path
  let report ← (Report.lexical vocabulary source window).mapError .window
  .ok ("Tokens for '" ++ path ++ "':\n" ++ report)

/-- The reports on files, in order. -/
def lexFiles (files : Files) (vocabulary : Vocabulary) (request : LexRequest) :
    List (Except Failure String) :=
  request.paths.map (lexFile files vocabulary request.window)

/-- The reports on all files, or the first failure. -/
def lexAll (files : Files) (vocabulary : Vocabulary) (request : LexRequest) :
    Except Failure String :=
  (request.paths.mapM (lexFile files vocabulary request.window)).map String.join

end CommandLine
end ConfigLexer
