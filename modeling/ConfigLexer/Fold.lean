import ConfigLexer.Matching
import ConfigLexer.Session

/-!
# Folding

A pair of braces folds when there is a line break between them.  Brackets and parentheses never
fold.
-/

namespace ConfigLexer

/-- A span that an editor may fold away. -/
structure Fold where
  /-- Offset of the opening brace. -/
  start : UInt32
  /-- Offset just past the closing brace. -/
  stop : UInt32
deriving DecidableEq, Repr

namespace Fold

/-- The window that a fold covers. -/
def span (fold : Fold) : Window := ⟨fold.start, fold.stop⟩

/-- The text that stands for a folded span. -/
def placeholder : String := "\x7b...\x7d"

/-- Spans are shown unfolded at first. -/
def isCollapsedByDefault (_fold : Fold) : Bool := false

/-- There is a line break between two tokens of a source. -/
def hasBreakBetween (source : String) (opener closer : Token) : Bool :=
  match Text.slice? source opener.stop.toNat closer.start.toNat with
  | some interior => interior.toList.contains '\n'
  | none => false

/-- The fold of two paired tokens. -/
def ofPair? (source : String) (opener closer : Token) : Option Fold :=
  if opener.tag == .opening .brace && hasBreakBetween source opener closer then
    some ⟨opener.start, closer.stop⟩
  else
    none

end Fold

/-- The folds of a source, by ascending start.  Nested blocks give nested folds. -/
def folds (vocabulary : Vocabulary) (source : String) : List Fold :=
  let scanned := tokens vocabulary source
  (Matching.ofTags (scanned.map Token.tag)).pairs.filterMap fun pair => do
    Fold.ofPair? source (← scanned[pair.1]?) (← scanned[pair.2]?)

end ConfigLexer
