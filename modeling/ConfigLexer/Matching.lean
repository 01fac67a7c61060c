import ConfigLexer.Tag

/-!
# Matching delimiters

Braces, brackets and parentheses are matched as three independent kinds.  A closer takes the
innermost opener of its own kind that is still open.  Openers of other kinds inside that pair are
given up; a closer without an opener is left alone and disturbs nothing.
-/

namespace ConfigLexer

/-- The pairs of delimiters in a list of tags, and the delimiters without a partner, all by their
places in the list. -/
structure Matching where
  /-- Opener and closer of each pair, by ascending opener. -/
  pairs : List (Nat × Nat)
  /-- Openers without a closer, in ascending order. -/
  unmatchedOpeners : List Nat
  /-- Closers without an opener, in ascending order. -/
  unmatchedClosers : List Nat
deriving DecidableEq, Repr

namespace Matching

/-- What is known after the start of a list of tags. -/
structure Progress where
  /-- The openers that are still open, innermost first. -/
  opened : List (Nat × Delimiter)
  /-- The pairs, latest first. -/
  paired : List (Nat × Nat)
  /-- The openers that were given up. -/
  dropped : List Nat
  /-- The closers without an opener, latest first. -/
  stray : List Nat
deriving DecidableEq, Repr

namespace Progress

/-- Nothing has been seen. -/
def start : Progress := ⟨[], [], [], []⟩

/-- Match a closer with the innermost open opener of its kind. -/
def close (progress : Progress) (place : Nat) (delimiter : Delimiter) : Progress :=
  let inside := progress.opened.takeWhile fun opener => opener.2 != delimiter
  match progress.opened.dropWhile fun opener => opener.2 != delimiter with
  | [] => { progress with stray := place :: progress.stray }
  | opener :: outside =>
      { progress with
        opened := outside
        paired := (opener.1, place) :: progress.paired
        dropped := inside.map Prod.fst ++ progress.dropped }

/-- Take in the tag at a place. -/
def step (progress : Progress) (place : Nat) : Tag → Progress
  | .opening delimiter => { progress with opened := (place, delimiter) :: progress.opened }
  | .closing delimiter => progress.close place delimiter
  | _ => progress

/-- Take in tags from a place on. -/
def run : Progress → Nat → List Tag → Progress
  | progress, _, [] => progress
  | progress, place, tag :: tags => run (progress.step place tag) (place + 1) tags

/-- Give up what is still open, and put everything in order. -/
def finish (progress : Progress) : Matching where
  pairs := progress.paired.mergeSort fun left right => left.1 ≤ right.1
  unmatchedOpeners :=
    (progress.opened.map Prod.fst ++ progress.dropped).mergeSort fun left right => left ≤ right
  unmatchedClosers := progress.stray.reverse

end Progress

/-- Match the delimiters in a list of tags. -/
def ofTags (tags : List Tag) : Matching := (Progress.start.run 0 tags).finish

/-- The place of the delimiter that is paired with the one at a place. -/
def partner? (matching : Matching) (place : Nat) : Option Nat :=
  matching.pairs.findSome? fun pair =>
    if pair.1 = place then some pair.2
    else if pair.2 = place then some pair.1
    else none

/-- Every delimiter has a partner. -/
def isBalanced (matching : Matching) : Bool :=
  matching.unmatchedOpeners.isEmpty && matching.unmatchedClosers.isEmpty

end Matching

/-- A closer may be inserted after an opener, whatever token comes next. -/
def mayInsertCloser (_opening : Tag) (_next : Option Tag) : Bool := true

/-- Where the construct starts that owns the brace at an offset.  Without a syntax tree that is
the brace itself. -/
def constructStart (brace : UInt32) : UInt32 := brace

end ConfigLexer
