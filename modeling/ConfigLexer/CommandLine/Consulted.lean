import ConfigLexer.CommandLine.Command

/-!
# Consulted files

Which files a run may look at is known before it starts, but for the places of the language
server's program, which depend on the settings.
-/

namespace ConfigLexer
namespace CommandLine

namespace Command

/-- The paths of the sources that a command shows. -/
def sourcePaths : Command → List String
  | lex arguments =>
      match LexRequest.ofArguments arguments with
      | .ok request => request.paths
      | .error _ => []
  | view _ path => path.toList
  | _ => []

end Command

namespace Invocation

/-- The paths of the files whose text a run may ask for. -/
def readPaths (invocation : Invocation) : List String :=
  invocation.settingsPath.toList ++ invocation.command.sourcePaths

/-- The paths at which a run may look for a program. -/
def programPaths (invocation : Invocation) (files : Files) (searchPath : Option String) :
    List String :=
  match invocation.command, loadSettings files invocation.settingsPath with
  | .server, .ok settings => settings.server.places searchPath
  | _, _ => []

end Invocation
end CommandLine

namespace Files

/-- The files that were found at some paths. -/
def ofFindings (texts : List (String × Except ReadFailure String))
    (statuses : List (String × FileStatus)) : Files where
  read path := (texts.lookup path).getD (.error .notFound)
  status? path := statuses.lookup path

end Files
end ConfigLexer
