import ConfigLexer.Files
import ConfigLexer.Settings.Json

/-!
# Settings files

Settings are loaded from a file, or are the default ones where no file is named.
-/

namespace ConfigLexer

/-- The reason why settings cannot be had or used. -/
inductive SettingsError where
  /-- The settings file leads to no text. -/
  | unreadable (path : String) (cause : ReadFailure)
  /-- The text is not that of settings. -/
  | malformed (failure : Json.Failure)
  /-- The program that the settings name cannot be executed. -/
  | noProgram (path : String)
  /-- There is no program on the search path. -/
  | notFound
  /-- The server may not be started. -/
  | disabled
deriving DecidableEq, Repr

/-- The name of the server's program on the search path. -/
def serverProgram : String := "terramate-ls"

namespace SettingsError

/-- The report of an error. -/
def message : SettingsError → String
  | unreadable path cause => "failed to read settings file " ++ path ++ ": " ++ cause.message
  | malformed failure => "invalid settings: " ++ failure.message
  | noProgram path => "language server binary not found at: " ++ path
  | notFound =>
      serverProgram ++ " not found in PATH; install it from " ++
        "https://terramate.io/docs/cli/installation or set language_server.bin_path"
  | disabled => "language server is disabled"

end SettingsError

namespace Settings

/-- The settings in the file that a path leads to. -/
def load (files : Files) (path : String) : Except SettingsError Settings :=
  match files.read path with
  | .error cause => .error (.unreadable path cause)
  | .ok text => (ofJson text).mapError .malformed

/-- The settings in a file, if one is named. -/
def loadOrDefault (files : Files) : Option String → Except SettingsError Settings
  | some path => load files path
  | none => .ok {}

end Settings
end ConfigLexer
