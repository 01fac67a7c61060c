import ConfigLexer.Settings.Load

/-!
# The language server

The server's program is the one that the settings name, or else the first one on the search path.
It is found but never started.
-/

namespace ConfigLexer

/-- The directories of a search path, in order.  Empty entries name no directory. -/
def searchDirectories (searchPath : Option String) : List String :=
  (((searchPath.getD "").split ':').toList.map (·.copy)).filter (· != "")

/-- The path of an entry of a directory. -/
def entryPath (directory name : String) : String :=
  if directory.endsWith "/" then directory ++ name else directory ++ "/" ++ name

/-- A program with the arguments to start it with. -/
structure ServerCommand where
  /-- The path of the program. -/
  program : String
  /-- The arguments. -/
  arguments : List String
  /-- How much is traced. -/
  trace : TraceLevel
deriving DecidableEq, Repr

namespace ServerCommand

/-- The command line, without any quoting. -/
def line (command : ServerCommand) : String :=
  " ".intercalate (command.program :: command.arguments)

end ServerCommand

namespace ServerSettings

/-- The places where the server's program is looked for, in order. -/
def places (settings : ServerSettings) (searchPath : Option String) : List String :=
  if settings.program ≠ "" then [settings.program]
  else (searchDirectories searchPath).map (entryPath · serverProgram)

/-- The path of the server's program. -/
def resolve (settings : ServerSettings) (files : Files) (searchPath : Option String) :
    Except SettingsError String :=
  match (settings.places searchPath).find? files.isProgram with
  | some path => .ok path
  | none => .error (if settings.program ≠ "" then .noProgram settings.program else .notFound)

/-- The command that starts the server. -/
def command (settings : ServerSettings) (files : Files) (searchPath : Option String) :
    Except SettingsError ServerCommand :=
  if settings.enabled then
    (settings.resolve files searchPath).map fun program =>
      ⟨program, settings.effectiveArguments, settings.trace⟩
  else .error .disabled

end ServerSettings
end ConfigLexer
