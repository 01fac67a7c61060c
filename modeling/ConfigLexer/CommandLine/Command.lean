import ConfigLexer.CommandLine.Lex

/-!
# Commands

A command line is a command with its arguments, among which the settings file may be named at any
place.  A run is a function of the arguments, the files and the search path: it ends with a code
and with texts for the two outputs.
-/

namespace ConfigLexer
namespace CommandLine

/-- A view of one file. -/
inductive View where
  | highlighting
  | delimiters
  | folding
deriving DecidableEq, Repr

namespace View

/-- The command that shows a view. -/
def name : View → String
  | highlighting => "highlight"
  | delimiters => "braces"
  | folding => "folds"

/-- The report of a view. -/
def report : View → Vocabulary → String → String
  | highlighting => Report.highlighting
  | delimiters => Report.delimiters
  | folding => Report.folding

end View

/-- What a command line asks for. -/
inductive Command where
  /-- To explain the command line. -/
  | help
  /-- To name the version. -/
  | version
  /-- To show the tokens of files. -/
  | lex (arguments : List String)
  /-- To show a view of a file, if one is named. -/
  | view (view : View) (path : Option String)
  /-- To show how the language server is started. -/
  | server
  /-- Something else. -/
  | unknown (name : String)
deriving DecidableEq, Repr

namespace Command

/-- The command at the start of a list of arguments.  Without any it is a call for help. -/
def ofArguments : List String → Command
  | [] => help
  | "lex" :: arguments => lex arguments
  | "highlight" :: arguments => view .highlighting arguments.head?
  | "braces" :: arguments => view .delimiters arguments.head?
  | "folds" :: arguments => view .folding arguments.head?
  | "server" :: _ => server
  | "help" :: _ => help
  | "--help" :: _ => help
  | "-h" :: _ => help
  | "version" :: _ => version
  | "--version" :: _ => version
  | "-V" :: _ => version
  | name :: _ => unknown name

end Command

/-- A command with the settings file that it is to follow. -/
structure Invocation where
  /-- The path of the settings file, if one is named. -/
  settingsPath : Option String
  /-- The command. -/
  command : Command
deriving DecidableEq, Repr

namespace Invocation

/-- The path of the settings file that an argument names. -/
def settingsPath? (argument : String) : Option String := optionValue? "--config" argument

/-- Read a command line.  The last settings file counts, wherever it is named. -/
def ofArguments (arguments : List String) : Invocation where
  settingsPath := (arguments.filterMap settingsPath?).getLast?
  command := .ofArguments (arguments.filter fun argument => (settingsPath? argument).isNone)

end Invocation

/-- What is left of a run. -/
structure Outcome where
  /-- The exit code. -/
  code : UInt32
  /-- The text on standard output. -/
  output : String
  /-- The text on standard error. -/
  complaint : String
deriving DecidableEq, Repr

namespace Outcome

/-- A run that succeeds with a text. -/
def success (output : String) : Outcome := ⟨0, output, ""⟩

/-- A run that fails with a complaint. -/
def failure (complaint : String) : Outcome := ⟨1, "", complaint⟩

/-- The complaint about a failure. -/
def complaintOf (failure : Failure) : String := "error: " ++ failure.message ++ "\n"

/-- The run that ends with a result. -/
def ofResult : Except Failure String → Outcome
  | .ok output => success output
  | .error reason => failure (complaintOf reason)

end Outcome

/-- The explanation of the command line. -/
def helpText : String :=
  Report.ofLines
    ["Terramate tokenizer for editor tooling",
      "",
      "Usage: tm-lex <command> [options]",
      "",
      "Commands:",
      "  lex <files...>       Tokenize files and display tokens",
      "  highlight <file.tm>  Display highlight runs",
      "  braces <file.tm>     Display matched and unmatched delimiters",
      "  folds <file.tm>      Display fold regions",
      "  server               Display the resolved language server command",
      "  help                 Show this help message",
      "  version              Show version information",
      "",
      "Options:",
      "  --config=<path>      Settings file (JSON) for keywords and server",
      "  --range=<S..E>       Lex only bytes S..E of each file",
      "",
      "Examples:",
      "  tm-lex lex stack.tm",
      "  tm-lex lex --range=10..42 stack.tm",
      "  tm-lex highlight terramate.tm.hcl",
      "  tm-lex server --config=settings.json",
      "",
      "Set RUST_LOG=debug to trace settings and server discovery."]

/-- The name and number of the version. -/
def versionText : String := "tm-lex 0.1.0\n"

/-- How `lex` is called. -/
def lexUsage : String := "Usage: tm-lex lex [--range=START..END] <files...>\n"

/-- How a view is called. -/
def viewUsage (view : View) : String := "Usage: tm-lex " ++ view.name ++ " <file.tm>\n"

/-- Show the tokens of the files that a list of arguments names. -/
def runLex (files : Files) (settingsPath : Option String) (arguments : List String) : Outcome :=
  match LexRequest.ofArguments arguments with
  | .error (.unknownOption argument) =>
      .failure (Outcome.complaintOf (.unknownOption argument) ++ lexUsage)
  | .error failure => .failure (Outcome.complaintOf failure)
  | .ok request =>
      if request.paths.isEmpty then .failure lexUsage
      else .ofResult do
        let settings ← loadSettings files settingsPath
        lexAll files settings.vocabulary request

/-- Show a view of a file. -/
def runView (files : Files) (settingsPath : Option String) (view : View) :
    Option String → Outcome
  | none => .failure (viewUsage view)
  | some path => .ofResult do
      let settings ← loadSettings files settingsPath
      let source ← readSource files path
      .ok (view.report settings.vocabulary source)

/-- Show how the language server is started. -/
def runServer (files : Files) (searchPath settingsPath : Option String) : Outcome :=
  .ofResult do
    let settings ← loadSettings files settingsPath
    (Report.server settings files searchPath).mapError .settings

/-- Run a command line. -/
def run (files : Files) (searchPath : Option String) (arguments : List String) : Outcome :=
  let invocation := Invocation.ofArguments arguments
  match invocation.command with
  | .help => .success helpText
  | .version => .success versionText
  | .lex arguments => runLex files invocation.settingsPath arguments
  | .view view path => runView files invocation.settingsPath view path
  | .server => runServer files searchPath invocation.settingsPath
  | .unknown name => ⟨1, helpText, "Unknown command: " ++ name ++ "\n\n"⟩

end CommandLine
end ConfigLexer
