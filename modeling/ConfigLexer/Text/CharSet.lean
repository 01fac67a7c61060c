/-!
# Character sets

A character property is a table of code point ranges.  Membership scans the table, so that a
statement about finitely many characters can be evaluated.
-/

namespace ConfigLexer
namespace Text

/-- A set of characters, as closed ranges of code points. -/
structure CharSet where
  /-- First and last code point of each range. -/
  ranges : List (Nat × Nat)
deriving DecidableEq, Repr

namespace CharSet

/-- The character lies in one of the ranges. -/
def contains (set : CharSet) (c : Char) : Bool :=
  set.ranges.any fun range => range.1 ≤ c.toNat && c.toNat ≤ range.2

theorem contains_iff {set : CharSet} {c : Char} :
    set.contains c = true ↔ ∃ range ∈ set.ranges, range.1 ≤ c.toNat ∧ c.toNat ≤ range.2 := by
  simp [contains]

end CharSet
end Text
end ConfigLexer
