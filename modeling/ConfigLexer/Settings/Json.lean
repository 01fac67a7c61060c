import ConfigLexer.Json.Printer
import ConfigLexer.Json.Record
import ConfigLexer.Settings

/-!
# Settings as JSON

Settings are written with every member, and read with any of them left out.
-/

namespace ConfigLexer

open Json

namespace ServerSettings

/-- The fields of the server's settings, in order. -/
def fields : List (RecordField ServerSettings) :=
  [⟨"enabled", fun settings text =>
      (readBool text).map fun read => ({ settings with enabled := read.1 }, read.2)⟩,
    ⟨"bin_path", fun settings text =>
      (readText text).map fun read => ({ settings with program := read.1 }, read.2)⟩,
    ⟨"args", fun settings text =>
      (readTexts text).map fun read => ({ settings with arguments := read.1 }, read.2)⟩,
    ⟨"trace", fun settings text =>
      (readVariant TraceLevel.byName text).map fun read =>
        ({ settings with trace := read.1 }, read.2)⟩]

/-- Read the server's settings.  Members that are left out have their defaults. -/
def read (text : List Char) : Reading (ServerSettings × List Char) :=
  readRecord "struct LanguageServerSettings" fields {} text

/-- Print the server's settings inside a number of brackets. -/
def print (depth : Nat) (settings : ServerSettings) : List Char :=
  printObject depth
    [("enabled", printBool settings.enabled),
      ("bin_path", printText settings.program),
      ("args", printTexts (depth + 1) settings.arguments),
      ("trace", printText settings.trace.name)]

end ServerSettings

namespace Settings

/-- The fields of the settings, in order. -/
def fields : List (RecordField Settings) :=
  [⟨"language_server", fun settings text =>
      (ServerSettings.read text).map fun read => ({ settings with server := read.1 }, read.2)⟩,
    ⟨"extra_keywords", fun settings text =>
      (readTexts text).map fun read => ({ settings with extraWords := read.1 }, read.2)⟩]

/-- Read settings.  Members that are left out have their defaults. -/
def read (text : List Char) : Reading (Settings × List Char) :=
  readRecord "struct Settings" fields {} text

/-- Print settings inside a number of brackets. -/
def print (depth : Nat) (settings : Settings) : List Char :=
  printObject depth
    [("language_server", settings.server.print (depth + 1)),
      ("extra_keywords", printTexts (depth + 1) settings.extraWords)]

/-- The settings in a text that holds nothing else. -/
def ofJson (text : String) : Except Failure Settings := readDocument read text.toList

/-- The text of settings. -/
def toJson (settings : Settings) : String := .ofList (settings.print 0)

end Settings
end ConfigLexer
