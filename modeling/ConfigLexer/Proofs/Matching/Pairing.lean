import ConfigLexer.Proofs.Matching.Soundness
import Mathlib.Data.List.Nodup

/-!
# Which delimiters are paired

A closer takes the innermost opener of its kind that no earlier pair surrounds, and nothing if there
is none.  Every delimiter has exactly one place in the result, and pairs do not cross.
-/

namespace ConfigLexer
namespace Matching

open Progress

variable {tags : List Tag} {matching : Matching} {place other : Nat}

/-- What is sorted by a key that tells all elements apart ascends strictly. -/
theorem pairwise_mergeSort_lt {α : Type} (key : α → Nat) {list : List α}
    (distinct : (list.map key).Nodup) :
    (list.mergeSort fun left right => key left ≤ key right).Pairwise fun left right =>
      key left < key right := by
  have sorted : (list.mergeSort fun left right => decide (key left ≤ key right)).Pairwise
      fun left right => decide (key left ≤ key right) = true := by
    apply List.pairwise_mergeSort
    · simpa using fun a b c => Nat.le_trans
    · simpa using fun a b => Nat.le_total _ _
  have same := (List.mergeSort_perm list fun left right => key left ≤ key right).map key
  rw [← same.nodup_iff, List.Nodup, List.pairwise_map] at distinct
  refine (sorted.and distinct).imp fun both => ?_
  exact Nat.lt_of_le_of_ne (of_decide_eq_true both.1) both.2

theorem occurs_le_one (test : Tag → Bool) (tags : List Tag) (place : Nat) :
    occurs test tags place ≤ 1 := by
  rw [occurs]
  split <;> simp

theorem any_of_occurs {test : Tag → Bool} (there : 0 < occurs test tags place) :
    tags[place]?.any test = true := by
  rw [occurs] at there
  split at there
  · assumption
  · cases there

theorem occurs_delimiter (tags : List Tag) (place : Nat) :
    occurs Tag.isOpening tags place + occurs Tag.isClosing tags place =
      if (tags[place]?.bind Tag.delimiter?).isSome then 1 else 0 := by
  rw [occurs, occurs]
  rcases tags[place]? with _ | tag
  · rfl
  · cases tag <;> rfl

/-- The place is a half of a pair, and another place is the other half. -/
def Partners (pairs : List (Nat × Nat)) (place other : Nat) : Prop :=
  (place, other) ∈ pairs ∨ (other, place) ∈ pairs

theorem Partners.unique {pairs : List (Nat × Nat)} {answer : Nat}
    (distinct : (pairs.map Prod.fst ++ pairs.map Prod.snd).Nodup)
    (partners : Partners pairs place other) (found : Partners pairs place answer) :
    answer = other := by
  obtain ⟨openers, closers, disjoint⟩ := List.nodup_append.mp distinct
  have no_both {first second : Nat} (opener : (place, first) ∈ pairs)
      (closer : (second, place) ∈ pairs) : False :=
    disjoint _ (List.mem_map_of_mem opener) _ (List.mem_map_of_mem closer) rfl
  rcases partners with opener | closer
  · rcases found with same | closer
    · exact (Prod.mk.inj (List.inj_on_of_nodup_map openers same opener rfl)).2
    · exact (no_both opener closer).elim
  · rcases found with opener | same
    · exact (no_both opener closer).elim
    · exact (Prod.mk.inj (List.inj_on_of_nodup_map closers same closer rfl)).1

theorem partner?_eq_some_iff
    (distinct : (matching.pairs.map Prod.fst ++ matching.pairs.map Prod.snd).Nodup) :
    matching.partner? place = some other ↔ Partners matching.pairs place other := by
  have told {answer : Nat} (found : matching.partner? place = some answer) :
      Partners matching.pairs place answer := by
    obtain ⟨pair, member, half⟩ := List.exists_of_findSome?_eq_some found
    grind [Partners]
  refine ⟨told, fun partners => ?_⟩
  have answered : (matching.partner? place).isSome := by
    rw [partner?, List.findSome?_isSome_iff]
    rcases partners with opener | closer
    · exact ⟨_, opener, by simp⟩
    · exact ⟨_, closer, by grind⟩
  obtain ⟨answer, found⟩ := Option.isSome_iff_exists.mp answered
  rw [found, (told found).unique distinct partners]

/-- The matching accounts for every delimiter of these tags, as part of a pair or as left over, and
for nothing else. -/
structure Describes (matching : Matching) (tags : List Tag) : Prop where
  /-- Every delimiter is in exactly one place, and nothing else is in any. -/
  once : ∀ place, (matching.pairs.map Prod.fst ++ matching.pairs.map Prod.snd ++
    matching.unmatchedOpeners ++ matching.unmatchedClosers).count place =
      if (tags[place]?.bind Tag.delimiter?).isSome then 1 else 0
  /-- What is left over as an opener is one. -/
  openers : ∀ place ∈ matching.unmatchedOpeners, tags[place]?.any Tag.isOpening = true
  /-- What is left over as a closer is one. -/
  closers : ∀ place ∈ matching.unmatchedClosers, tags[place]?.any Tag.isClosing = true
  /-- A pair is an opener and a later closer of its kind. -/
  paired : ∀ pair ∈ matching.pairs, pair.1 < pair.2 ∧
    ∃ kind, tags[pair.1]? = some (.opening kind) ∧ tags[pair.2]? = some (.closing kind)
  /-- Of two pairs one is in front of the other or inside of it. -/
  nested : ∀ first ∈ matching.pairs, ∀ second ∈ matching.pairs, first.1 < second.1 →
    first.2 < second.1 ∨ second.2 < first.2
  /-- A closer takes the innermost opener of its kind that is not surrounded by an earlier pair. -/
  innermost : Innermost tags matching.pairs
  /-- Pairs are in the order of their openers. -/
  pairs_ascend : matching.pairs.Pairwise fun first second => first.1 < second.1
  /-- Openers that are left over are in order. -/
  openers_ascend : matching.unmatchedOpeners.Pairwise fun first second => first < second
  /-- Closers that are left over are in order. -/
  closers_ascend : matching.unmatchedClosers.Pairwise fun first second => first < second
  /-- The partner of one half of a pair is the other half. -/
  partner : ∀ place other, matching.partner? place = some other ↔
    (place, other) ∈ matching.pairs ∨ (other, place) ∈ matching.pairs

namespace Progress

variable {progress : Progress}

theorem Counts.nodup (counts : Counts tags progress) :
    (progress.opened.map Prod.fst ++ progress.paired.map Prod.fst ++ progress.dropped).Nodup := by
  rw [List.nodup_iff_count_le_one]
  intro place
  rw [counts.openers]
  exact occurs_le_one _ _ _

theorem finish_pairs_perm (progress : Progress) : progress.finish.pairs.Perm progress.paired :=
  List.mergeSort_perm _ _

theorem mem_finish_pairs {pair : Nat × Nat} :
    pair ∈ progress.finish.pairs ↔ pair ∈ progress.paired := (finish_pairs_perm progress).mem_iff

theorem finish_unmatchedOpeners_perm (progress : Progress) :
    progress.finish.unmatchedOpeners.Perm (progress.opened.map Prod.fst ++ progress.dropped) :=
  List.mergeSort_perm _ _

theorem count_finish (counts : Counts tags progress) (place : Nat) :
    (progress.finish.pairs.map Prod.fst ++ progress.finish.pairs.map Prod.snd ++
      progress.finish.unmatchedOpeners ++ progress.finish.unmatchedClosers).count place =
        if (tags[place]?.bind Tag.delimiter?).isSome then 1 else 0 := by
  have pairs := finish_pairs_perm progress
  have openers := finish_unmatchedOpeners_perm progress
  have closers : progress.finish.unmatchedClosers.Perm progress.stray := List.reverse_perm _
  rw [← occurs_delimiter, ← counts.openers, ← counts.closers]
  simp only [List.count_append, (pairs.map Prod.fst).count_eq, (pairs.map Prod.snd).count_eq,
    openers.count_eq, closers.count_eq]
  omega

theorem Sound.finish_describes (sound : Sound tags progress) :
    progress.finish.Describes tags where
  once := count_finish sound.counts
  openers := by
    intro place member
    have left_over := (finish_unmatchedOpeners_perm progress).mem_iff.mp member
    apply any_of_occurs
    rw [← sound.counts.openers, List.count_pos_iff]
    grind
  closers := by
    intro place member
    have left_over : place ∈ progress.stray := List.mem_reverse.mp member
    apply any_of_occurs
    rw [← sound.counts.closers, List.count_pos_iff]
    exact List.mem_append_right _ left_over
  paired := fun pair member => sound.ordered.paired pair (mem_finish_pairs.mp member)
  nested := fun first first_member second second_member =>
    sound.ordered.nested first (mem_finish_pairs.mp first_member) second
      (mem_finish_pairs.mp second_member)
  innermost := by
    intro closer kind there opener lt opener_there behind_partner
    obtain ⟨pair, member, around⟩ := sound.innermost closer kind there opener lt opener_there
      fun partner member => behind_partner partner (mem_finish_pairs.mpr member)
    exact ⟨pair, mem_finish_pairs.mpr member, around⟩
  pairs_ascend := by
    obtain ⟨openers_distinct, -, -⟩ := List.nodup_append.mp sound.counts.nodup
    exact pairwise_mergeSort_lt Prod.fst (List.nodup_append.mp openers_distinct).2.1
  openers_ascend := by
    have kept := (List.sublist_append_left (progress.opened.map Prod.fst)
      (progress.paired.map Prod.fst)).append_right progress.dropped
    apply pairwise_mergeSort_lt id
    rw [List.map_id]
    exact sound.counts.nodup.sublist kept
  closers_ascend := List.pairwise_reverse.mpr sound.ordered.stray
  partner := by
    intro place other
    have all_distinct : (progress.finish.pairs.map Prod.fst ++ progress.finish.pairs.map Prod.snd ++
        progress.finish.unmatchedOpeners ++ progress.finish.unmatchedClosers).Nodup := by
      rw [List.nodup_iff_count_le_one]
      intro place
      rw [count_finish sound.counts]
      split <;> simp
    exact partner?_eq_some_iff (List.nodup_append.mp (List.nodup_append.mp all_distinct).1).1

end Progress

/-- The delimiters of every list of tags are matched. -/
theorem ofTags_describes (tags : List Tag) :
    (ofTags tags).Describes tags ∧
      ∀ place other, (ofTags tags).partner? place = some other →
        (ofTags tags).partner? other = some place := by
  have found : (ofTags tags).Describes tags := (run_sound tags).finish_describes
  refine ⟨found, fun place other partner => ?_⟩
  have halves := (found.partner place other).mp partner
  exact (found.partner other place).mpr halves.symm

/-- A closer reaches over an opener of another kind, whose own closer then finds none. -/
example : ofTags [.opening .brace, .opening .paren, .closing .brace, .closing .paren] =
    ⟨[(0, 2)], [1], [3]⟩ := by decide +kernel

end Matching
end ConfigLexer
