import ConfigLexer.Proofs.Matching.Pairing
import Mathlib.Data.List.Sort
import Mathlib.Data.Nat.SuccPred

/-!
# Which opener a closer takes

An opener is free for a closer if it is an earlier one of the same kind and no pair that ends before
the closer reaches over it.  A closer takes the last free opener, and is left alone if there is
none.  This rule speaks of the result alone and determines it: the pairs that end before a closer
decide which openers are free for it, so closer by closer there is no choice.
-/

namespace ConfigLexer
namespace Matching

variable {tags : List Tag} {matching other : Matching} {kind : Delimiter} {opener closer : Nat}

/-- The openers of a kind in front of a closer that no pair which ends before it reaches over. -/
def freeOpeners (tags : List Tag) (pairs : List (Nat × Nat)) (closer : Nat) (kind : Delimiter) :
    Set Nat :=
  {opener | opener < closer ∧ tags[opener]? = some (.opening kind) ∧
    ∀ pair ∈ pairs, pair.2 < closer → ¬(pair.1 ≤ opener ∧ opener < pair.2)}

/-- Every closer takes the last opener that is free for it, what is left over is all the rest, and
everything is in order. -/
structure TakesLast (matching : Matching) (tags : List Tag) : Prop where
  /-- A pair is a closer with the last opener that is free for it. -/
  paired : ∀ opener closer, (opener, closer) ∈ matching.pairs ↔
    ∃ kind, tags[closer]? = some (.closing kind) ∧
      IsGreatest (freeOpeners tags matching.pairs closer kind) opener
  /-- The closers that are left over are those for which no opener is free. -/
  closers : ∀ closer, closer ∈ matching.unmatchedClosers ↔
    ∃ kind, tags[closer]? = some (.closing kind) ∧
      freeOpeners tags matching.pairs closer kind = ∅
  /-- The openers that are left over are those in no pair. -/
  openers : ∀ opener, opener ∈ matching.unmatchedOpeners ↔
    (∃ kind, tags[opener]? = some (.opening kind)) ∧
      ∀ pair ∈ matching.pairs, pair.1 ≠ opener ∧ pair.2 ≠ opener
  /-- Pairs are in the order of their openers. -/
  pairs_ascend : matching.pairs.Pairwise fun first second => first.1 < second.1
  /-- Openers that are left over are in order. -/
  openers_ascend : matching.unmatchedOpeners.Pairwise fun first second => first < second
  /-- Closers that are left over are in order. -/
  closers_ascend : matching.unmatchedClosers.Pairwise fun first second => first < second

/-! ## The result follows the rule -/

theorem exists_opening {place : Nat} (opens : tags[place]?.any Tag.isOpening = true) :
    ∃ kind, tags[place]? = some (.opening kind) := by
  cases there : tags[place]? with
  | none => simp [there] at opens
  | some tag => cases tag <;> simp_all [Tag.isOpening]

theorem exists_closing {place : Nat} (closes : tags[place]?.any Tag.isClosing = true) :
    ∃ kind, tags[place]? = some (.closing kind) := by
  cases there : tags[place]? with
  | none => simp [there] at closes
  | some tag => cases tag <;> simp_all [Tag.isClosing]

namespace Describes

theorem opener_unique (described : matching.Describes tags) {first second : Nat}
    (first_pair : (first, closer) ∈ matching.pairs)
    (second_pair : (second, closer) ∈ matching.pairs) : first = second := by
  have first_partner := (described.partner closer first).mpr (.inr first_pair)
  have second_partner := (described.partner closer second).mpr (.inr second_pair)
  rw [first_partner] at second_partner
  exact Option.some.inj second_partner

theorem closer_unique (described : matching.Describes tags) {first second : Nat}
    (first_pair : (opener, first) ∈ matching.pairs)
    (second_pair : (opener, second) ∈ matching.pairs) : first = second := by
  have first_partner := (described.partner opener first).mpr (.inl first_pair)
  have second_partner := (described.partner opener second).mpr (.inl second_pair)
  rw [first_partner] at second_partner
  exact Option.some.inj second_partner

theorem free_of_mem (described : matching.Describes tags)
    (member : (opener, closer) ∈ matching.pairs) :
    ∃ kind, tags[closer]? = some (.closing kind) ∧
      opener ∈ freeOpeners tags matching.pairs closer kind := by
  obtain ⟨forth, kind, opens, closes⟩ := described.paired _ member
  refine ⟨kind, closes, forth, opens, ?_⟩
  rintro ⟨first, second⟩ earlier ends_before ⟨starts, reaches⟩
  dsimp only at ends_before starts reaches
  rcases Nat.lt_or_eq_of_le starts with before | rfl
  · have apart := described.nested _ earlier _ member before
    dsimp only at apart
    omega
  · have same := described.closer_unique earlier member
    omega

theorem exists_partner (described : matching.Describes tags)
    (closes : tags[closer]? = some (.closing kind))
    (free : opener ∈ freeOpeners tags matching.pairs closer kind) :
    ∃ partner, (partner, closer) ∈ matching.pairs ∧ opener ≤ partner := by
  obtain ⟨forth, opens, uncovered⟩ := free
  by_contra no_partner
  have behind : ∀ partner, (partner, closer) ∈ matching.pairs → partner < opener := by
    intro partner member
    by_contra not_behind
    exact no_partner ⟨partner, member, Nat.not_lt.mp not_behind⟩
  obtain ⟨pair, member, starts, reaches, ends_before⟩ :=
    described.innermost closer kind closes opener forth opens behind
  exact uncovered pair member ends_before ⟨starts, reaches⟩

theorem isGreatest_of_mem (described : matching.Describes tags)
    (member : (opener, closer) ∈ matching.pairs) :
    ∃ kind, tags[closer]? = some (.closing kind) ∧
      IsGreatest (freeOpeners tags matching.pairs closer kind) opener := by
  obtain ⟨kind, closes, free⟩ := described.free_of_mem member
  refine ⟨kind, closes, free, fun later later_free => ?_⟩
  obtain ⟨partner, partner_member, le_partner⟩ := described.exists_partner closes later_free
  rwa [described.opener_unique partner_member member] at le_partner

theorem mem_of_isGreatest (described : matching.Describes tags)
    (closes : tags[closer]? = some (.closing kind))
    (last : IsGreatest (freeOpeners tags matching.pairs closer kind) opener) :
    (opener, closer) ∈ matching.pairs := by
  obtain ⟨partner, member, le_partner⟩ := described.exists_partner closes last.1
  obtain ⟨other, other_closes, free⟩ := described.free_of_mem member
  obtain rfl : other = kind := by
    rw [closes] at other_closes
    exact (Tag.closing.inj (Option.some.inj other_closes)).symm
  rwa [Nat.le_antisymm le_partner (last.2 free)]

theorem leftOver_iff (described : matching.Describes tags) {place : Nat} {tag : Tag}
    (there : tags[place]? = some tag) (delimits : tag.delimiter?.isSome = true) :
    place ∈ matching.unmatchedOpeners ∨ place ∈ matching.unmatchedClosers ↔
      ∀ pair ∈ matching.pairs, pair.1 ≠ place ∧ pair.2 ≠ place := by
  have once := described.once place
  rw [there, Option.bind_some, if_pos delimits, List.append_assoc, List.count_append] at once
  have excluded : place ∈ matching.unmatchedOpeners ++ matching.unmatchedClosers ↔
      place ∉ matching.pairs.map Prod.fst ++ matching.pairs.map Prod.snd := by
    rw [← List.count_pos_iff, ← List.count_eq_zero]
    omega
  rw [← List.mem_append, excluded]
  simp only [List.mem_append, List.mem_map, not_or, not_exists, not_and, forall_and]

theorem mem_unmatchedClosers_iff (described : matching.Describes tags) :
    closer ∈ matching.unmatchedClosers ↔
      ∃ kind, tags[closer]? = some (.closing kind) ∧
        freeOpeners tags matching.pairs closer kind = ∅ := by
  constructor
  · intro member
    obtain ⟨kind, closes⟩ := exists_closing (described.closers closer member)
    have in_no_pair := (described.leftOver_iff closes rfl).mp (.inr member)
    refine ⟨kind, closes, Set.eq_empty_iff_forall_notMem.mpr fun opener free => ?_⟩
    obtain ⟨partner, pair, -⟩ := described.exists_partner closes free
    exact (in_no_pair _ pair).2 rfl
  · rintro ⟨kind, closes, none_free⟩
    have in_no_pair : ∀ pair ∈ matching.pairs, pair.1 ≠ closer ∧ pair.2 ≠ closer := by
      rintro ⟨first, second⟩ member
      constructor
      · rintro rfl
        obtain ⟨-, _, opens, -⟩ := described.paired _ member
        simp [closes] at opens
      · rintro rfl
        obtain ⟨_, last_closes, last⟩ := described.isGreatest_of_mem member
        obtain rfl := Tag.closing.inj (Option.some.inj (closes.symm.trans last_closes))
        exact Set.eq_empty_iff_forall_notMem.mp none_free _ last.1
    rcases (described.leftOver_iff closes rfl).mpr in_no_pair with as_opener | as_closer
    · obtain ⟨_, opens⟩ := exists_opening (described.openers closer as_opener)
      simp [closes] at opens
    · exact as_closer

theorem mem_unmatchedOpeners_iff (described : matching.Describes tags) :
    opener ∈ matching.unmatchedOpeners ↔
      (∃ kind, tags[opener]? = some (.opening kind)) ∧
        ∀ pair ∈ matching.pairs, pair.1 ≠ opener ∧ pair.2 ≠ opener := by
  constructor
  · intro member
    obtain ⟨kind, opens⟩ := exists_opening (described.openers opener member)
    exact ⟨⟨kind, opens⟩, (described.leftOver_iff opens rfl).mp (.inl member)⟩
  · rintro ⟨⟨kind, opens⟩, in_no_pair⟩
    rcases (described.leftOver_iff opens rfl).mpr in_no_pair with as_opener | as_closer
    · exact as_opener
    · obtain ⟨_, closes⟩ := exists_closing (described.closers opener as_closer)
      simp [opens] at closes

theorem takesLast (described : matching.Describes tags) : matching.TakesLast tags where
  paired _ _ :=
    ⟨described.isGreatest_of_mem, fun ⟨_, closes, last⟩ => described.mem_of_isGreatest closes last⟩
  closers _ := described.mem_unmatchedClosers_iff
  openers _ := described.mem_unmatchedOpeners_iff
  pairs_ascend := described.pairs_ascend
  openers_ascend := described.openers_ascend
  closers_ascend := described.closers_ascend

end Describes

/-! ## The rule determines the result -/

/-- Which openers are free for a closer is decided by the pairs that end before it. -/
theorem freeOpeners_congr {pairs others : List (Nat × Nat)}
    (same : ∀ first, ∀ second < closer, (first, second) ∈ pairs ↔ (first, second) ∈ others) :
    freeOpeners tags pairs closer kind = freeOpeners tags others closer kind := by
  ext opener
  refine and_congr_right fun _ => and_congr_right fun _ => ?_
  constructor
  · exact fun uncovered pair member before =>
      uncovered pair ((same pair.1 pair.2 before).mpr member) before
  · exact fun uncovered pair member before =>
      uncovered pair ((same pair.1 pair.2 before).mp member) before

theorem exists_last {pairs : List (Nat × Nat)}
    (some_free : (freeOpeners tags pairs closer kind).Nonempty) :
    ∃ opener, IsGreatest (freeOpeners tags pairs closer kind) opener :=
  BddAbove.exists_isGreatest_of_nonempty ⟨closer, fun _ free => Nat.le_of_lt free.1⟩ some_free

namespace TakesLast

theorem mem_pairs_iff (rule : matching.TakesLast tags) (other_rule : other.TakesLast tags)
    (opener closer : Nat) :
    (opener, closer) ∈ matching.pairs ↔ (opener, closer) ∈ other.pairs := by
  induction closer using Nat.strong_induction_on generalizing opener with
  | _ closer earlier =>
      have same_free (kind : Delimiter) : freeOpeners tags matching.pairs closer kind =
          freeOpeners tags other.pairs closer kind :=
        freeOpeners_congr fun first second before => earlier second before first
      rw [rule.paired, other_rule.paired]
      simp only [same_free]

/-- Two results that follow the rule are the same. -/
theorem unique (rule : matching.TakesLast tags) (other_rule : other.TakesLast tags) :
    matching = other := by
  have same_pairs : matching.pairs = other.pairs := by
    have distinct {result : Matching} (rule : result.TakesLast tags) : result.pairs.Nodup :=
      rule.pairs_ascend.imp fun before same => absurd (congrArg Prod.fst same) (Nat.ne_of_lt before)
    have same_members := (List.perm_ext_iff_of_nodup (distinct rule) (distinct other_rule)).mpr
      fun pair => rule.mem_pairs_iff other_rule pair.1 pair.2
    exact same_members.eq_of_pairwise
      (fun _ _ _ _ before behind => absurd behind (Nat.lt_asymm before)) rule.pairs_ascend
      other_rule.pairs_ascend
  have same_openers : matching.unmatchedOpeners = other.unmatchedOpeners := by
    apply rule.openers_ascend.eq_of_mem_iff other_rule.openers_ascend
    intro opener
    rw [rule.openers, other_rule.openers, same_pairs]
  have same_closers : matching.unmatchedClosers = other.unmatchedClosers := by
    apply rule.closers_ascend.eq_of_mem_iff other_rule.closers_ascend
    intro closer
    rw [rule.closers, other_rule.closers, same_pairs]
  obtain ⟨pairs, openers, closers⟩ := matching
  obtain ⟨_, _, _⟩ := other
  obtain rfl : pairs = _ := same_pairs
  obtain rfl : openers = _ := same_openers
  obtain rfl : closers = _ := same_closers
  rfl

end TakesLast

/-- A closer takes the last opener that is free for it, if there is one; all in no pair are left
over.  No other result follows this rule. -/
theorem ofTags_takes_last (tags : List Tag) :
    (∀ closer kind, tags[closer]? = some (.closing kind) →
        (freeOpeners tags (ofTags tags).pairs closer kind = ∅ ∧
            closer ∈ (ofTags tags).unmatchedClosers) ∨
          ∃ opener, IsGreatest (freeOpeners tags (ofTags tags).pairs closer kind) opener ∧
            (opener, closer) ∈ (ofTags tags).pairs) ∧
      (∀ opener, opener ∈ (ofTags tags).unmatchedOpeners ↔
        (∃ kind, tags[opener]? = some (.opening kind)) ∧
          ∀ pair ∈ (ofTags tags).pairs, pair.1 ≠ opener ∧ pair.2 ≠ opener) ∧
      ∀ matching : Matching, matching.TakesLast tags ↔ matching = ofTags tags := by
  have described : (ofTags tags).Describes tags := (Progress.run_sound tags).finish_describes
  have rule := described.takesLast
  refine ⟨fun closer kind closes => ?_, rule.openers, fun matching => ?_⟩
  · rcases (freeOpeners tags (ofTags tags).pairs closer kind).eq_empty_or_nonempty
      with none_free | some_free
    · exact .inl ⟨none_free, (rule.closers closer).mpr ⟨kind, closes, none_free⟩⟩
    · obtain ⟨opener, last⟩ := exists_last some_free
      exact .inr ⟨opener, last, (rule.paired opener closer).mpr ⟨kind, closes, last⟩⟩
  · constructor
    · exact fun other_rule => other_rule.unique rule
    · rintro rfl
      exact rule

end Matching
end ConfigLexer
