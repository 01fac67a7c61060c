import ConfigLexer.Tag

/-!
# Sets of tags

A set of tags is a 32-bit word with one bit for each tag, at the number of the tag.
-/

namespace ConfigLexer

/-- A set of tags. -/
structure TagSet where
  /-- The bit at a tag's number says that the tag is a member. -/
  bits : UInt32
deriving DecidableEq, Repr

namespace TagSet

/-- The word whose only bit is that of a tag. -/
def bit (tag : Tag) : UInt32 := 1 <<< tag.index.toUInt32

/-- The set without members. -/
def empty : TagSet := ⟨0⟩

/-- The set with one member. -/
def singleton (tag : Tag) : TagSet := ⟨bit tag⟩

/-- The set with one more member. -/
def insert (set : TagSet) (tag : Tag) : TagSet := ⟨set.bits ||| bit tag⟩

/-- The members of either set. -/
def union (left right : TagSet) : TagSet := ⟨left.bits ||| right.bits⟩

/-- The members of both sets. -/
def inter (left right : TagSet) : TagSet := ⟨left.bits &&& right.bits⟩

/-- The set of the tags in a list. -/
def ofList (tags : List Tag) : TagSet := tags.foldl insert empty

/-- The tag is a member. -/
def contains (set : TagSet) (tag : Tag) : Bool := (set.bits &&& bit tag) != 0

/-- The set has no member. -/
def isEmpty (set : TagSet) : Bool := set.bits == 0

/-- The number of members. -/
def size (set : TagSet) : Nat := (List.range 32).countP fun index => set.bits.toNat.testBit index

/-- The members by ascending number. -/
def toList (set : TagSet) : List Tag := Tag.all.filter set.contains

/-- Line and block comments. -/
def comments : TagSet := ofList [.lineComment, .blockComment]

/-- Strings alone. -/
def strings : TagSet := singleton .string

/-- White space alone. -/
def whitespace : TagSet := singleton .whitespace

/-- The six halves of delimiter pairs. -/
def brackets : TagSet :=
  ofList (Delimiter.all.flatMap fun delimiter => [.opening delimiter, .closing delimiter])

end TagSet
end ConfigLexer
