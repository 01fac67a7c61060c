import ConfigLexer.TagSet
import Mathlib.Data.Finset.Card
import Mathlib.Data.Finset.Lattice.Basic

/-!
# Members of sets of tags

A set of tags stands for a finite set in the sense of mathematics: it has a bit at the number of
each member and no other bit.  Every operation keeps this, and no two tags share a number.  So what
is read off the bits is true of the members, however the set was made.
-/

namespace ConfigLexer
namespace Tag

/-- No two tags share a number. -/
theorem index_injective : Function.Injective index := by
  have distinct : ∀ tag ∈ all, ∀ other ∈ all, tag.index = other.index → tag = other := by decide
  exact fun tag other => distinct tag tag.mem_all other other.mem_all

theorem all_pairwise : all.Pairwise fun left right => left.index < right.index := by decide

end Tag

namespace TagSet

/-! ## Bits -/

section Bits

variable {set left right : TagSet}

/-- There is a bit at a place of the word. -/
def hasBit (set : TagSet) (place : Nat) : Bool := set.bits.toNat.testBit place

theorem ext_hasBit (same : ∀ place, left.hasBit place = right.hasBit place) : left = right := by
  obtain ⟨left⟩ := left
  obtain ⟨right⟩ := right
  have words_eq : left.toNat = right.toNat := Nat.eq_of_testBit_eq same
  rw [UInt32.toNat_inj.mp words_eq]

theorem hasBit_empty (place : Nat) : empty.hasBit place = false := Nat.zero_testBit place

theorem hasBit_union (left right : TagSet) (place : Nat) :
    (left.union right).hasBit place = (left.hasBit place || right.hasBit place) := by
  rw [hasBit, union, UInt32.toNat_or, Nat.testBit_or]
  rfl

theorem hasBit_inter (left right : TagSet) (place : Nat) :
    (left.inter right).hasBit place = (left.hasBit place && right.hasBit place) := by
  rw [hasBit, inter, UInt32.toNat_and, Nat.testBit_and]
  rfl

theorem hasBit_singleton (tag : Tag) (place : Nat) :
    (singleton tag).hasBit place = decide (tag.index = place) := by
  have index_lt := tag.index_lt
  have shift : tag.index.toUInt32.toNat = tag.index :=
    UInt32.toNat_ofNat_of_lt' (Nat.lt_trans index_lt (by decide))
  rw [hasBit, singleton, bit, UInt32.toNat_shiftLeft, shift, Nat.mod_eq_of_lt index_lt,
    Nat.testBit_mod_two_pow, Nat.testBit_shiftLeft, Bool.eq_iff_iff]
  simp only [Bool.and_eq_true, decide_eq_true_eq, UInt32.toNat_one,
    Nat.testBit_one_eq_true_iff_self_eq_zero]
  omega

theorem isEmpty_iff_eq : set.isEmpty = true ↔ set = empty := by
  obtain ⟨bits⟩ := set
  simp [isEmpty, empty]

theorem contains_eq (set : TagSet) (tag : Tag) : set.contains tag = set.hasBit tag.index := by
  have meets : set.contains tag = !(set.inter (singleton tag)).isEmpty := rfl
  have common (place : Nat) : (set.inter (singleton tag)).hasBit place =
      (set.hasBit place && decide (tag.index = place)) := by
    rw [hasBit_inter, hasBit_singleton]
  cases held : set.hasBit tag.index with
  | false =>
      have nothing : set.inter (singleton tag) = empty := by
        apply ext_hasBit
        intro place
        rw [common, hasBit_empty]
        by_cases here : tag.index = place
        · rw [← here, held, Bool.false_and]
        · rw [decide_eq_false here, Bool.and_false]
      rw [meets, isEmpty_iff_eq.mpr nothing, Bool.not_true]
  | true =>
      have something : set.inter (singleton tag) ≠ empty := by
        intro nothing
        have none_here := common tag.index
        simp [nothing, hasBit_empty, held] at none_here
      rw [meets, Bool.eq_false_of_not_eq_true (mt isEmpty_iff_eq.mp something), Bool.not_false]

end Bits

/-! ## Sets with given members -/

/-- The set has a bit at the number of each member and no other bit. -/
def Represents (set : TagSet) (members : Finset Tag) : Prop :=
  ∀ place, set.hasBit place = true ↔ ∃ tag ∈ members, tag.index = place

theorem represents_empty : Represents empty ∅ := by
  intro place
  simp [hasBit_empty]

theorem represents_singleton (tag : Tag) : Represents (singleton tag) {tag} := by
  intro place
  simp [hasBit_singleton]

namespace Represents

variable {set left right : TagSet} {members others : Finset Tag} {tag : Tag}

theorem union (first : Represents left members) (second : Represents right others) :
    Represents (left.union right) (members ∪ others) := by
  intro place
  rw [hasBit_union, Bool.or_eq_true, first, second]
  simp only [Finset.mem_union, or_and_right, exists_or]

theorem inter (first : Represents left members) (second : Represents right others) :
    Represents (left.inter right) (members ∩ others) := by
  intro place
  rw [hasBit_inter, Bool.and_eq_true, first, second]
  constructor
  · rintro ⟨⟨tag, member, rfl⟩, twin, twin_member, same⟩
    obtain rfl := Tag.index_injective same
    exact ⟨twin, Finset.mem_inter.mpr ⟨member, twin_member⟩, rfl⟩
  · rintro ⟨tag, member, rfl⟩
    obtain ⟨first_member, second_member⟩ := Finset.mem_inter.mp member
    exact ⟨⟨tag, first_member, rfl⟩, tag, second_member, rfl⟩

theorem insert (represents : Represents set members) (tag : Tag) :
    Represents (set.insert tag) (members ∪ {tag}) :=
  represents.union (represents_singleton tag)

theorem foldl_insert (represents : Represents set members) (tags : List Tag) :
    Represents (tags.foldl TagSet.insert set) (members ∪ tags.toFinset) := by
  induction tags generalizing set members with
  | nil => simpa using represents
  | cons tag tags ih =>
      have rest := ih (represents.insert tag)
      rwa [Finset.union_assoc, ← Finset.insert_eq, ← List.toFinset_cons] at rest

theorem hasBit_index (represents : Represents set members) :
    set.hasBit tag.index = true ↔ tag ∈ members := by
  rw [represents]
  constructor
  · rintro ⟨twin, member, same⟩
    rwa [← Tag.index_injective same]
  · exact fun member => ⟨tag, member, rfl⟩

theorem contains_iff (represents : Represents set members) :
    set.contains tag = true ↔ tag ∈ members := by
  rw [contains_eq, represents.hasBit_index]

theorem eq_iff (first : Represents left members) (second : Represents right others) :
    left = right ↔ members = others := by
  constructor
  · rintro rfl
    ext tag
    rw [← first.hasBit_index, second.hasBit_index]
  · rintro rfl
    apply ext_hasBit
    intro place
    rw [Bool.eq_iff_iff, first, second]

theorem isEmpty_iff (represents : Represents set members) :
    set.isEmpty = true ↔ members = ∅ := by
  rw [isEmpty_iff_eq, represents.eq_iff represents_empty]

theorem size_eq (represents : Represents set members) : set.size = members.card := by
  have places : ((List.range 32).filter set.hasBit).toFinset = members.image Tag.index := by
    ext place
    rw [List.mem_toFinset, List.mem_filter, represents, Finset.mem_image, and_iff_right_of_imp]
    rintro ⟨tag, -, rfl⟩
    exact List.mem_range.mpr tag.index_lt
  have nodup : ((List.range 32).filter set.hasBit).Nodup := List.nodup_range.filter _
  calc
    set.size = ((List.range 32).filter set.hasBit).length := List.countP_eq_length_filter
    _ = (members.image Tag.index).card := by rw [← places, List.toFinset_card_of_nodup nodup]
    _ = members.card := Finset.card_image_of_injective _ Tag.index_injective

theorem mem_toList (represents : Represents set members) :
    tag ∈ set.toList ↔ tag ∈ members := by
  rw [toList, List.mem_filter, represents.contains_iff, and_iff_right tag.mem_all]

theorem ofList_toList (represents : Represents set members) : ofList set.toList = set := by
  have listed := represents_empty.foldl_insert set.toList
  refine (listed.eq_iff represents).mpr ?_
  ext tag
  rw [Finset.empty_union, List.mem_toFinset, represents.mem_toList]

end Represents

theorem toList_pairwise (set : TagSet) :
    set.toList.Pairwise fun left right => left.index < right.index :=
  Tag.all_pairwise.filter _

/-! ## Sets made by operations -/

/-- The ways to make a set of tags. -/
inductive Term where
  /-- The set without members. -/
  | empty
  /-- The set with one member. -/
  | singleton (tag : Tag)
  /-- The set of the tags in a list, which may repeat them. -/
  | ofList (tags : List Tag)
  /-- One more member. -/
  | insert (set : Term) (tag : Tag)
  /-- The members of either set. -/
  | union (left right : Term)
  /-- The members of both sets. -/
  | inter (left right : Term)

namespace Term

/-- The set of tags that is made. -/
def value : Term → TagSet
  | empty => .empty
  | singleton tag => .singleton tag
  | ofList tags => .ofList tags
  | insert set tag => set.value.insert tag
  | union left right => left.value.union right.value
  | inter left right => left.value.inter right.value

/-- The finite set that the same operations make. -/
def members : Term → Finset Tag
  | empty => ∅
  | singleton tag => {tag}
  | ofList tags => tags.toFinset
  | insert set tag => set.members ∪ {tag}
  | union left right => left.members ∪ right.members
  | inter left right => left.members ∩ right.members

/-- Every operation keeps the bits to the numbers of the members. -/
theorem represents (term : Term) : Represents term.value term.members := by
  induction term with
  | empty => exact represents_empty
  | singleton tag => exact represents_singleton tag
  | ofList tags =>
      have listed := represents_empty.foldl_insert tags
      rwa [Finset.empty_union] at listed
  | insert set tag ih => exact ih.insert tag
  | union left right left_ih right_ih => exact left_ih.union right_ih
  | inter left right left_ih right_ih => exact left_ih.inter right_ih

/-- However a set is made, its bits are the numbers of its members.  All that it tells is true of
the finite set that the same operations make. -/
theorem value_members (term : Term) :
    (∀ place, term.value.hasBit place = true ↔ ∃ tag ∈ term.members, tag.index = place) ∧
      (∀ tag, term.value.contains tag = true ↔ tag ∈ term.members) ∧
      (∀ other : Term, term.value = other.value ↔ term.members = other.members) ∧
      term.value.size = term.members.card ∧
      (term.value.isEmpty = true ↔ term.members = ∅) ∧
      (∀ tag, tag ∈ term.value.toList ↔ tag ∈ term.members) ∧
      term.value.toList.Pairwise (fun left right => left.index < right.index) ∧
      TagSet.ofList term.value.toList = term.value := by
  have represents := term.represents
  exact ⟨represents, fun _ => represents.contains_iff,
    fun other => represents.eq_iff other.represents, represents.size_eq, represents.isEmpty_iff,
    fun _ => represents.mem_toList, toList_pairwise _, represents.ofList_toList⟩

end Term
end TagSet
end ConfigLexer
