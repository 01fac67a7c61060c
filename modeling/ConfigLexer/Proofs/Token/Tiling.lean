import ConfigLexer.Token
import Mathlib.Data.List.Forall2

/-!
# Tilings by tokens

Tokens tile the bytes between two offsets if each starts where the one before it ends and none is
empty.  A tiling can be cut at every border between two of its tokens, and the tokens on either
side of a cut are told apart by their offsets alone.
-/

namespace ConfigLexer
namespace Token

/-- The tokens fill the bytes from one offset to another without gap, overlap or empty token. -/
inductive Tiles : Nat → List Token → Nat → Prop
  | nil (offset : Nat) : Tiles offset [] offset
  | cons {start stop : Nat} {token : Token} {tokens : List Token} :
      token.start.toNat = start →
      start < token.stop.toNat →
      Tiles token.stop.toNat tokens stop →
      Tiles start (token :: tokens) stop

/-- An offset at which a list of tokens, which starts at another offset, can be cut. -/
def Border (start : Nat) (tokens : List Token) (offset : Nat) : Prop :=
  offset = start ∨ ∃ token ∈ tokens, token.stop.toNat = offset

namespace Tiles

variable {start middle stop offset : Nat} {tokens left right : List Token} {token : Token}

theorem le (tiles : Tiles start tokens stop) : start ≤ stop := by
  induction tiles with
  | nil offset => exact Nat.le_refl offset
  | cons starts nonempty _ ih => exact Nat.le_trans (Nat.le_of_lt nonempty) ih

theorem stop_unique (tiles : Tiles start tokens stop) (others : Tiles start tokens offset) :
    stop = offset := by
  induction tiles with
  | nil =>
      cases others
      rfl
  | cons _ _ _ ih =>
      cases others with
      | cons _ _ rest => exact ih rest

theorem append (first : Tiles start left middle) (second : Tiles middle right stop) :
    Tiles start (left ++ right) stop := by
  induction first with
  | nil => exact second
  | cons starts nonempty _ ih => exact .cons starts nonempty (ih second)

theorem of_append (tiles : Tiles start (left ++ right) stop) :
    ∃ middle, Tiles start left middle ∧ Tiles middle right stop := by
  induction left generalizing start with
  | nil => exact ⟨start, .nil start, tiles⟩
  | cons token left ih =>
      cases tiles with
      | cons starts nonempty rest =>
          obtain ⟨middle, first, second⟩ := ih rest
          exact ⟨middle, .cons starts nonempty first, second⟩

theorem stop_of_concat (tiles : Tiles start (left ++ [token]) stop) : token.stop.toNat = stop := by
  obtain ⟨middle, -, last⟩ := tiles.of_append
  cases last with
  | cons _ _ nothing =>
      cases nothing
      rfl

/-- Every token lies between the ends of the tiling and holds a byte. -/
theorem bounds (tiles : Tiles start tokens stop) (member : token ∈ tokens) :
    start ≤ token.start.toNat ∧ token.start.toNat < token.stop.toNat ∧
      token.stop.toNat ≤ stop := by
  induction tiles with
  | nil => simp at member
  | cons starts nonempty rest ih =>
      have rest_le := rest.le
      rcases List.mem_cons.mp member with rfl | member
      · omega
      · have inside := ih member
        omega

theorem first_stop_le {other : Token} (tiles : Tiles start (token :: tokens) stop)
    (member : other ∈ token :: tokens) : token.stop.toNat ≤ other.stop.toNat := by
  cases tiles with
  | cons _ _ rest =>
      rcases List.mem_cons.mp member with rfl | member
      · exact Nat.le_refl _
      · have bounds := rest.bounds member
        omega

theorem cut (tiles : Tiles start tokens stop) (border : Border start tokens offset) :
    ∃ left right, tokens = left ++ right ∧ Tiles start left offset ∧ Tiles offset right stop := by
  rcases border with rfl | ⟨token, member, rfl⟩
  · exact ⟨[], tokens, rfl, .nil _, tiles⟩
  · obtain ⟨left, right, rfl⟩ := List.append_of_mem member
    obtain ⟨middle, first, second⟩ := tiles.of_append
    cases second with
    | cons starts nonempty rest =>
        refine ⟨left ++ [token], right, (List.append_assoc left [token] right).symm, ?_, rest⟩
        exact first.append (.cons starts nonempty (.nil _))

theorem border (first : Tiles start left offset) (right : List Token) :
    Border start (left ++ right) offset := by
  induction first with
  | nil => exact .inl rfl
  | cons starts nonempty rest ih =>
      rcases ih with rfl | ⟨token, member, stops⟩
      · exact .inr ⟨_, List.mem_cons_self, rfl⟩
      · exact .inr ⟨token, List.mem_cons_of_mem _ member, stops⟩

theorem around (tiles : Tiles start tokens stop) (member : token ∈ tokens) :
    ∃ left right, tokens = left ++ ([token] ++ right) ∧
      Tiles start left token.start.toNat ∧
      Tiles token.start.toNat [token] token.stop.toNat ∧
      Tiles token.stop.toNat right stop := by
  obtain ⟨left, right, rfl⟩ := List.append_of_mem member
  obtain ⟨middle, first, second⟩ := tiles.of_append
  cases second with
  | cons starts nonempty rest =>
      subst starts
      exact ⟨left, right, rfl, first, .cons rfl nonempty (.nil _), rest⟩

/-- The tokens that start at or after a cut are those behind it. -/
theorem filter_from (first : Tiles start left offset) (second : Tiles offset right stop) :
    (left ++ right).filter (fun token => offset ≤ token.start.toNat) = right := by
  have none_before : left.filter (fun token => offset ≤ token.start.toNat) = [] := by
    rw [List.filter_eq_nil_iff]
    intro token member
    have inside := first.bounds member
    simp only [decide_eq_true_eq]
    omega
  have all_after : right.filter (fun token => offset ≤ token.start.toNat) = right := by
    rw [List.filter_eq_self]
    intro token member
    exact decide_eq_true (second.bounds member).1
  rw [List.filter_append, none_before, all_after, List.nil_append]

theorem filter_upTo (first : Tiles start left offset) (second : Tiles offset right stop) :
    (left ++ right).filter (fun token => token.stop.toNat ≤ offset) = left := by
  have all_before : left.filter (fun token => token.stop.toNat ≤ offset) = left := by
    rw [List.filter_eq_self]
    intro token member
    exact decide_eq_true (first.bounds member).2.2
  have none_after : right.filter (fun token => token.stop.toNat ≤ offset) = [] := by
    rw [List.filter_eq_nil_iff]
    intro token member
    have inside := second.bounds member
    simp only [decide_eq_true_eq]
    omega
  rw [List.filter_append, all_before, none_after, List.append_nil]

/-- The tokens between two cuts are those that start at or after the first and end at or before the
second. -/
theorem filter_between {others : List Token} (first : Tiles start left offset)
    (second : Tiles offset right middle) (third : Tiles middle others stop) :
    (left ++ (right ++ others)).filter
      (fun token => offset ≤ token.start.toNat && token.stop.toNat ≤ middle) = right := by
  calc
    (left ++ (right ++ others)).filter
        (fun token => offset ≤ token.start.toNat && token.stop.toNat ≤ middle) =
        ((left ++ (right ++ others)).filter fun token => token.stop.toNat ≤ middle).filter
          fun token => offset ≤ token.start.toNat := by
      rw [List.filter_filter]
    _ = (left ++ right).filter fun token => offset ≤ token.start.toNat := by
      rw [← List.append_assoc, (first.append second).filter_upTo third]
    _ = right := first.filter_from second

/-- A border of a tiling that is not before a cut is a border of what is behind the cut. -/
theorem border_of_append {border : Nat} (first : Tiles start left offset)
    (cut : Border start (left ++ right) border) (behind : offset ≤ border) :
    Border offset right border := by
  rcases cut with rfl | ⟨token, member, rfl⟩
  · exact .inl (Nat.le_antisymm first.le behind)
  · rcases List.mem_append.mp member with member | member
    · exact .inl (Nat.le_antisymm (first.bounds member).2.2 behind)
    · exact .inr ⟨token, member, rfl⟩

end Tiles

/-- The second token is the first one moved from one offset to another. -/
structure Moved (source target : Nat) (first second : Token) : Prop where
  /-- Both have the same tag. -/
  tag : second.tag = first.tag
  /-- The starts are as far apart as the offsets. -/
  start : second.start.toNat + source = first.start.toNat + target
  /-- The ends are as far apart as the offsets. -/
  stop : second.stop.toNat + source = first.stop.toNat + target

/-- Tilings by moved tokens end as far apart as they start. -/
theorem Tiles.stop_moved {source target start stop start' stop' : Nat}
    {tokens others : List Token} (tiles : Tiles start tokens stop)
    (other_tiles : Tiles start' others stop')
    (moved : List.Forall₂ (Moved source target) tokens others)
    (apart : start' + source = start + target) : stop' + source = stop + target := by
  induction moved generalizing start start' with
  | nil =>
      cases tiles
      cases other_tiles
      exact apart
  | cons first _ ih =>
      cases tiles with
      | cons _ _ rest =>
          cases other_tiles with
          | cons _ _ other_rest => exact ih rest other_rest first.stop

end Token
end ConfigLexer
