import ConfigLexer.Settings.Load
import ConfigLexer.Window

/-!
# Failures of the command line

A failure is the cause why a command has nothing to report.
-/

namespace ConfigLexer
namespace CommandLine

/-- The reason why a command fails. -/
inductive Failure where
  /-- A path leads to no source. -/
  | unreadable (path : String) (cause : ReadFailure)
  /-- The settings cannot be had or used. -/
  | settings (error : SettingsError)
  /-- A source has no such window. -/
  | window (error : WindowError)
  /-- The text of an option is not that of a window. -/
  | malformedWindow (text : String)
  /-- There is no such option. -/
  | unknownOption (argument : String)
deriving DecidableEq, Repr

namespace Failure

/-- The report of a failure. -/
def message : Failure → String
  | unreadable path cause => "cannot read '" ++ path ++ "': " ++ cause.message
  | settings error => error.message
  | window error => error.message
  | malformedWindow text => "invalid range '" ++ text ++ "': expected START..END byte offsets"
  | unknownOption argument => "unknown option '" ++ argument ++ "'"

end Failure

/-- The source that a path leads to. -/
def readSource (files : Files) (path : String) : Except Failure String :=
  (files.read path).mapError (.unreadable path)

/-- The settings in a file, if one is named. -/
def loadSettings (files : Files) (path : Option String) : Except Failure Settings :=
  (Settings.loadOrDefault files path).mapError .settings

/-- The value of an option that is written with an equals sign. -/
def optionValue? (option argument : String) : Option String :=
  ((option ++ "=").toList.isPrefixOf? argument.toList).map String.ofList

end CommandLine
end ConfigLexer
