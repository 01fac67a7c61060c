import ConfigLexer.Proofs.Matching.Stepping
import Mathlib.Data.List.Count
import Mathlib.Data.List.Pairwise

/-!
# What every step of matching keeps

Every delimiter that has been seen is in one place of the progress.  Pairs do not cross, and what is
open is outside of all pairs, so a new pair has only earlier pairs and openers that are given up
inside of it.  An opener that is not open any more is surrounded by a pair.
-/

namespace ConfigLexer
namespace Matching

variable {seen tags : List Tag} {tag : Tag} {kind : Delimiter} {place : Nat}

theorem getElem?_concat_of_some {found : Tag} (there : seen[place]? = some found) :
    (seen ++ [tag])[place]? = some found := by
  obtain ⟨inside, -⟩ := List.getElem?_eq_some_iff.mp there
  rw [List.getElem?_append_left inside, there]

theorem getElem?_concat_cases {found : Tag} (there : (seen ++ [tag])[place]? = some found) :
    seen[place]? = some found ∨ place = seen.length ∧ found = tag := by
  grind

theorem lt_of_getElem? {found : Tag} (there : seen[place]? = some found) : place < seen.length :=
  (List.getElem?_eq_some_iff.mp there).1

/-- Whether the tag at a place passes a test, as a number. -/
def occurs (test : Tag → Bool) (tags : List Tag) (place : Nat) : Nat :=
  if tags[place]?.any test then 1 else 0

theorem occurs_concat (test : Tag → Bool) (seen : List Tag) (tag : Tag) (place : Nat) :
    occurs test (seen ++ [tag]) place =
      occurs test seen place + if seen.length = place ∧ test tag then 1 else 0 := by
  rw [occurs, occurs]
  rcases Nat.lt_trichotomy place seen.length with inside | rfl | outside
  · grind
  · simp
  · grind

theorem tag_plain (plain : tag.delimiter? = none) :
    tag.isOpening = false ∧ tag.isClosing = false := by
  cases tag <;> simp_all [Tag.delimiter?, Tag.isOpening, Tag.isClosing]

namespace Progress

variable {progress next : Progress}

/-- Every delimiter is in one place of the progress, and nothing else is. -/
structure Counts (seen : List Tag) (progress : Progress) : Prop where
  /-- The openers are open, paired or given up. -/
  openers : ∀ place, (progress.opened.map Prod.fst ++ progress.paired.map Prod.fst ++
    progress.dropped).count place = occurs Tag.isOpening seen place
  /-- The closers are paired or left alone. -/
  closers : ∀ place, (progress.paired.map Prod.snd ++ progress.stray).count place =
    occurs Tag.isClosing seen place

theorem Counts.step (counts : Counts seen progress)
    (stepped : Stepped progress seen.length tag next) : Counts (seen ++ [tag]) next := by
  obtain ⟨openers, closers⟩ := counts
  cases stepped with
  | opened kind =>
      constructor <;> intro place
      · simp [occurs_concat, ← openers, List.count_cons, Tag.isOpening, Nat.add_right_comm]
      · simp [occurs_concat, ← closers, Tag.isClosing]
  | stray kind closed =>
      constructor <;> intro place
      · simp [occurs_concat, ← openers, Tag.isOpening]
      · simp [occurs_concat, ← closers, List.count_cons, Tag.isClosing, Nat.add_assoc]
  | paired kind inside opener outside opened others =>
      rw [opened] at openers
      constructor <;> intro place
      · simp [occurs_concat, ← openers, List.count_cons, Tag.isOpening, Nat.add_comm,
          Nat.add_left_comm, Nat.add_assoc]
      · simp [occurs_concat, ← closers, List.count_cons, Tag.isClosing]
  | skipped _ plain =>
      obtain ⟨no_opening, no_closing⟩ := tag_plain plain
      constructor <;> intro place
      · simp [occurs_concat, ← openers, no_opening]
      · simp [occurs_concat, ← closers, no_closing]

/-- Pairs are ordered and do not cross, and the openers that are open are outside of all pairs. -/
structure Ordered (seen : List Tag) (progress : Progress) : Prop where
  /-- What is open has been opened. -/
  opened : ∀ opener ∈ progress.opened, seen[opener.1]? = some (.opening opener.2)
  /-- The innermost opener is the last one. -/
  descending : progress.opened.Pairwise fun inner outer => outer.1 < inner.1
  /-- A pair is an opener and a later closer of its kind. -/
  paired : ∀ pair ∈ progress.paired, pair.1 < pair.2 ∧
    ∃ kind, seen[pair.1]? = some (.opening kind) ∧ seen[pair.2]? = some (.closing kind)
  /-- Of two pairs one is in front of the other or inside of it. -/
  nested : ∀ first ∈ progress.paired, ∀ second ∈ progress.paired, first.1 < second.1 →
    first.2 < second.1 ∨ second.2 < first.2
  /-- What is open is in front of a pair or behind it. -/
  apart : ∀ pair ∈ progress.paired, ∀ opener ∈ progress.opened,
    opener.1 < pair.1 ∨ pair.2 < opener.1
  /-- What is left alone has been seen. -/
  stray_lt : ∀ closer ∈ progress.stray, closer < seen.length
  /-- What is left alone is kept in order. -/
  stray : progress.stray.Pairwise fun later earlier => earlier < later

namespace Ordered

variable {inside outside : List (Nat × Delimiter)} {opener : Nat}

theorem opened_lt (ordered : Ordered seen progress) :
    ∀ other ∈ progress.opened, other.1 < seen.length := fun other member =>
  lt_of_getElem? (ordered.opened other member)

theorem closer_lt (ordered : Ordered seen progress) :
    ∀ pair ∈ progress.paired, pair.2 < seen.length := by
  intro pair member
  obtain ⟨-, _, -, closer⟩ := ordered.paired pair member
  exact lt_of_getElem? closer

/-- Openers inside of an open one come after it, those outside before it. -/
theorem around (ordered : Ordered seen progress)
    (split : progress.opened = inside ++ (opener, kind) :: outside) :
    (∀ other ∈ inside, opener < other.1) ∧ (∀ other ∈ outside, other.1 < opener) ∧
      outside.Pairwise fun inner outer => outer.1 < inner.1 := by
  have descending := ordered.descending
  rw [split, List.pairwise_append, List.pairwise_cons] at descending
  obtain ⟨-, ⟨outer_lt, outside_descending⟩, inner_lt⟩ := descending
  exact ⟨fun other inner => inner_lt other inner _ List.mem_cons_self, outer_lt,
    outside_descending⟩

theorem le_of_kind (ordered : Ordered seen progress)
    (split : progress.opened = inside ++ (opener, kind) :: outside)
    (others : ∀ other ∈ inside, other.2 ≠ kind) (open_still : (place, kind) ∈ progress.opened) :
    place ≤ opener := by
  obtain ⟨-, outer_lt, -⟩ := ordered.around split
  rw [split, List.mem_append, List.mem_cons] at open_still
  rcases open_still with inner | same | outer
  · exact absurd rfl (others _ inner)
  · exact Nat.le_of_eq (Prod.mk.inj same).1
  · exact Nat.le_of_lt (outer_lt _ outer)

theorem step (ordered : Ordered seen progress)
    (stepped : Stepped progress seen.length tag next) : Ordered (seen ++ [tag]) next := by
  have opened_later : ∀ other ∈ progress.opened,
      (seen ++ [tag])[other.1]? = some (.opening other.2) := fun other member =>
    getElem?_concat_of_some (ordered.opened other member)
  have paired_later : ∀ pair ∈ progress.paired, pair.1 < pair.2 ∧
      ∃ kind, (seen ++ [tag])[pair.1]? = some (.opening kind) ∧
        (seen ++ [tag])[pair.2]? = some (.closing kind) := by
    intro pair member
    obtain ⟨forth, kind, first, second⟩ := ordered.paired pair member
    exact ⟨forth, kind, getElem?_concat_of_some first, getElem?_concat_of_some second⟩
  have stray_lt_later : ∀ closer ∈ progress.stray, closer < (seen ++ [tag]).length := by
    intro closer member
    have := ordered.stray_lt closer member
    simp
    omega
  have here : (seen ++ [tag])[seen.length]? = some tag := by simp
  cases stepped with
  | opened kind =>
      refine ⟨?_, ?_, paired_later, ordered.nested, ?_, stray_lt_later, ordered.stray⟩
      · exact List.forall_mem_cons.mpr ⟨here, opened_later⟩
      · exact List.pairwise_cons.mpr ⟨ordered.opened_lt, ordered.descending⟩
      · intro pair member
        exact List.forall_mem_cons.mpr
          ⟨.inr (ordered.closer_lt pair member), ordered.apart pair member⟩
  | stray kind closed =>
      refine ⟨opened_later, ordered.descending, paired_later, ordered.nested, ordered.apart, ?_, ?_⟩
      · exact List.forall_mem_cons.mpr ⟨by simp, stray_lt_later⟩
      · exact List.pairwise_cons.mpr ⟨ordered.stray_lt, ordered.stray⟩
  | paired kind inside opener outside split others =>
      obtain ⟨-, outer_lt, outside_descending⟩ := ordered.around split
      have member : (opener, kind) ∈ progress.opened := by simp [split]
      have still : ∀ other ∈ outside, other ∈ progress.opened := by simp_all
      refine ⟨fun other outer => opened_later other (still other outer), outside_descending,
        ?_, ?_, ?_, stray_lt_later, ordered.stray⟩
      · exact List.forall_mem_cons.mpr ⟨⟨ordered.opened_lt _ member, kind,
          opened_later _ member, here⟩, paired_later⟩
      · refine List.forall_mem_cons.mpr ⟨List.forall_mem_cons.mpr ⟨?_, ?_⟩, fun first earlier =>
          List.forall_mem_cons.mpr ⟨?_, ordered.nested first earlier⟩⟩
        · exact fun same => absurd same (Nat.lt_irrefl _)
        · exact fun second earlier _ => .inr (ordered.closer_lt second earlier)
        · have opener_apart := ordered.apart first earlier _ member
          dsimp only at opener_apart ⊢
          omega
      · exact List.forall_mem_cons.mpr ⟨fun other outer => .inl (outer_lt other outer),
          fun pair earlier other outer => ordered.apart pair earlier other (still other outer)⟩
  | skipped _ plain =>
      exact ⟨opened_later, ordered.descending, paired_later, ordered.nested, ordered.apart,
        stray_lt_later, ordered.stray⟩

end Ordered

/-- An opener is open as long as no pair surrounds it. -/
def Surrounded (seen : List Tag) (progress : Progress) : Prop :=
  ∀ place kind, seen[place]? = some (.opening kind) →
    (place, kind) ∈ progress.opened ∨ ∃ pair ∈ progress.paired, pair.1 ≤ place ∧ place < pair.2

theorem Surrounded.step (surrounded : Surrounded seen progress) (ordered : Ordered seen progress)
    (stepped : Stepped progress seen.length tag next) : Surrounded (seen ++ [tag]) next := by
  intro place kind there
  cases stepped with
  | opened =>
      rcases getElem?_concat_cases there with before | ⟨rfl, same⟩
      · exact (surrounded place kind before).imp_left (List.mem_cons_of_mem _)
      · obtain rfl := Tag.opening.inj same
        exact .inl List.mem_cons_self
  | stray =>
      rcases getElem?_concat_cases there with before | ⟨-, same⟩
      · exact surrounded place kind before
      · cases same
  | paired closed inside opener outside split others =>
      obtain ⟨inner_lt, -, -⟩ := ordered.around split
      rcases getElem?_concat_cases there with before | ⟨-, same⟩
      · have place_lt := lt_of_getElem? before
        rcases surrounded place kind before with open_still | ⟨pair, member, around⟩
        · rw [split, List.mem_append, List.mem_cons] at open_still
          rcases open_still with inner | same | outer
          · exact .inr ⟨_, List.mem_cons_self, Nat.le_of_lt (inner_lt _ inner), place_lt⟩
          · obtain ⟨rfl, rfl⟩ := Prod.mk.inj same
            exact .inr ⟨_, List.mem_cons_self, Nat.le_refl _, place_lt⟩
          · exact .inl outer
        · exact .inr ⟨pair, List.mem_cons_of_mem _ member, around⟩
      · cases same
  | skipped _ plain =>
      rcases getElem?_concat_cases there with before | ⟨-, rfl⟩
      · exact surrounded place kind before
      · cases plain

/-- What is of its kind between a closer and its partner, or in front of a closer without one, is
surrounded by an earlier pair. -/
def Innermost (seen : List Tag) (paired : List (Nat × Nat)) : Prop :=
  ∀ closer kind, seen[closer]? = some (.closing kind) →
    ∀ opener < closer, seen[opener]? = some (.opening kind) →
      (∀ partner, (partner, closer) ∈ paired → partner < opener) →
      ∃ pair ∈ paired, pair.1 ≤ opener ∧ opener < pair.2 ∧ pair.2 < closer

theorem Innermost.step (innermost : Innermost seen progress.paired)
    (surrounded : Surrounded seen progress) (ordered : Ordered seen progress)
    (stepped : Stepped progress seen.length tag next) : Innermost (seen ++ [tag]) next.paired := by
  intro closer kind there opener lt opener_there behind_partner
  have opener_before : seen[opener]? = some (.opening kind) := by
    have := lt_of_getElem? there
    rw [List.length_append, List.length_singleton] at this
    rwa [List.getElem?_append_left (by omega)] at opener_there
  rcases getElem?_concat_cases there with before | ⟨rfl, rfl⟩
  · have earlier := innermost closer kind before opener lt opener_before
    cases stepped with
    | paired =>
        obtain ⟨pair, member, around⟩ := earlier fun partner member =>
          behind_partner partner (List.mem_cons_of_mem _ member)
        exact ⟨pair, List.mem_cons_of_mem _ member, around⟩
    | opened | stray | skipped => exact earlier behind_partner
  · rcases surrounded opener kind opener_before with open_still | ⟨pair, member, first, second⟩
    · cases stepped with
      | stray _ closed => exact absurd rfl (closed _ open_still)
      | paired _ inside partner outside split others =>
          have partner_lt := behind_partner partner List.mem_cons_self
          exact absurd (ordered.le_of_kind split others open_still) (Nat.not_le.mpr partner_lt)
      | skipped _ plain => cases plain
    · have pair_lt := ordered.closer_lt pair member
      cases stepped with
      | paired => exact ⟨pair, List.mem_cons_of_mem _ member, first, second, pair_lt⟩
      | stray | skipped => exact ⟨pair, member, first, second, pair_lt⟩

/-! ## The run -/

/-- All that every step keeps. -/
structure Sound (seen : List Tag) (progress : Progress) : Prop where
  counts : Counts seen progress
  ordered : Ordered seen progress
  surrounded : Surrounded seen progress
  innermost : Innermost seen progress.paired

theorem Sound.step (sound : Sound seen progress) (stepped : Stepped progress seen.length tag next) :
    Sound (seen ++ [tag]) next where
  counts := sound.counts.step stepped
  ordered := sound.ordered.step stepped
  surrounded := sound.surrounded.step sound.ordered stepped
  innermost := sound.innermost.step sound.surrounded sound.ordered stepped

theorem start_sound : Sound [] start where
  counts := ⟨fun _ => rfl, fun _ => rfl⟩
  ordered := by constructor <;> simp [start]
  surrounded := by simp [Surrounded]
  innermost := by simp [Innermost]

theorem run_sound (tags : List Tag) : Sound tags (start.run 0 tags) :=
  run_keeps Sound.step start_sound tags

end Progress

end Matching
end ConfigLexer
