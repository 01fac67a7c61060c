import ConfigLexer.Fold
import ConfigLexer.Highlight
import ConfigLexer.Server
import ConfigLexer.Text.Quoted

/-!
# Reports

What there is to say about a source, one line for each token, highlighted span, delimiter or fold.
Texts are quoted, so that no line breaks in the middle.
-/

namespace ConfigLexer
namespace Report

/-- Lines with their ends. -/
def ofLines (lines : List String) : String := String.join (lines.map (· ++ "\n"))

/-- The line of a labelled span: its label, its offsets and its text. -/
def spanLine (source label : String) (span : Window) : String :=
  label ++ " " ++ span.text ++ " " ++
    Text.quote (Text.slice source span.start.toNat span.stop.toNat)

/-- The line of a token. -/
def tokenLine (source : String) (token : Token) : String :=
  spanLine source token.tag.name token.span

/-- The tokens of a source, or of a window of it. -/
def lexical (vocabulary : Vocabulary) (source : String) (window : Option Window) :
    Except WindowError String :=
  let scanned := match window with
    | some window => tokensIn vocabulary source window
    | none => .ok (tokens vocabulary source)
  scanned.map fun tokens => ofLines (tokens.map (tokenLine source))

/-- The highlighted spans of a source. -/
def highlighting (vocabulary : Vocabulary) (source : String) : String :=
  ofLines ((highlight vocabulary source).map fun run =>
    spanLine source run.key.externalName run.span)

/-- A token without its text. -/
def tokenPlace (token : Token) : String := token.tag.name ++ " " ++ token.span.text

/-- The pairs of delimiters of a source, then the openers without a closer, then the closers
without an opener. -/
def delimiters (vocabulary : Vocabulary) (source : String) : String :=
  let scanned := tokens vocabulary source
  let matching := Matching.ofTags (scanned.map Token.tag)
  let pairs := matching.pairs.filterMap fun pair => do
    some (tokenPlace (← scanned[pair.1]?) ++ " <-> " ++ tokenPlace (← scanned[pair.2]?))
  let places := matching.unmatchedOpeners ++ matching.unmatchedClosers
  let unmatched := places.filterMap fun place => do
    some ("unmatched " ++ tokenPlace (← scanned[place]?))
  ofLines (pairs ++ unmatched)

/-- The number of the line that an offset lies in.  The first line has number one. -/
def lineNumber (source : String) (offset : UInt32) : Nat :=
  (Text.slice source 0 offset.toNat).toList.count '\n' + 1

/-- The line of a fold: its offsets, the lines that it covers and what stands for it. -/
def foldLine (source : String) (fold : Fold) : String :=
  fold.span.text ++ " lines " ++ toString (lineNumber source fold.start) ++ "-" ++
    toString (lineNumber source fold.stop) ++ " " ++ Fold.placeholder

/-- The folds of a source. -/
def folding (vocabulary : Vocabulary) (source : String) : String :=
  ofLines ((folds vocabulary source).map (foldLine source))

/-- The command that starts the language server, and how much is traced. -/
def server (settings : Settings) (files : Files) (searchPath : Option String) :
    Except SettingsError String :=
  (settings.server.command files searchPath).map fun command =>
    ofLines [command.line, "trace: " ++ command.trace.name]

end Report
end ConfigLexer
