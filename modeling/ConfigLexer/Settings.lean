import ConfigLexer.Vocabulary

/-!
# Editor settings

What an editor can be told about configuration files: how to start the language server, and which
words are reserved beyond the built-in ones.
-/

namespace ConfigLexer

/-- How much of the language server's protocol is traced. -/
inductive TraceLevel where
  | off
  | messages
  | verbose
deriving DecidableEq, Repr

namespace TraceLevel

/-- The name of a level in settings and reports. -/
def name : TraceLevel → String
  | off => "off"
  | messages => "messages"
  | verbose => "verbose"

/-- The levels by name. -/
def byName : List (String × TraceLevel) :=
  [off, messages, verbose].map fun level => (level.name, level)

end TraceLevel

/-- The arguments of the language server if none are set. -/
def defaultServerArguments : List String := ["-mode=stdio"]

/-- How the language server is started. -/
structure ServerSettings where
  /-- The server may be started. -/
  enabled : Bool := true
  /-- The program to start.  An empty path means the one that is found on the search path. -/
  program : String := ""
  /-- The arguments to start it with.  No arguments mean the default ones. -/
  arguments : List String := defaultServerArguments
  /-- How much is traced. -/
  trace : TraceLevel := .off
deriving DecidableEq, Repr

/-- Everything that can be set. -/
structure Settings where
  /-- How the language server is started. -/
  server : ServerSettings := {}
  /-- Words that are reserved beyond the built-in ones. -/
  extraWords : List String := []
deriving DecidableEq, Repr

/-- The arguments that the server is started with. -/
def ServerSettings.effectiveArguments (settings : ServerSettings) : List String :=
  if settings.arguments.isEmpty then defaultServerArguments else settings.arguments

/-- The words that are reserved under the settings. -/
def Settings.vocabulary (settings : Settings) : Vocabulary :=
  Vocabulary.builtin.insertMany settings.extraWords

end ConfigLexer
