import ConfigLexer.CommandLine.Consulted
import ConfigLexer.Proofs.CommandLine.Arguments
import ConfigLexer.Proofs.Window.Fits

/-!
# All or nothing

The first thing that goes wrong in a run of `lex` is the only one that it tells: a wrong argument,
the lack of a file, the settings, then the files in order.  There is output only if nothing goes
wrong.
-/

namespace ConfigLexer
namespace CommandLine

/-! ## Files -/

variable {files : Files} {vocabulary : Vocabulary} {window : Option Window}
variable {source path report : String} {failure : Failure}

variable {settingsPath : Option String} {arguments : List String} {outcome : Outcome}

end CommandLine
end ConfigLexer
