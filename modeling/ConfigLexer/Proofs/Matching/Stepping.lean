import ConfigLexer.Matching
import Mathlib.Data.List.TakeWhile

/-!
# Steps of matching

A tag opens a pair, closes the innermost one of its kind, is a closer that is left alone, or is no
delimiter.  What holds at the start and is kept by these four steps holds of every list of tags.
-/

namespace ConfigLexer
namespace Matching
namespace Progress

variable {progress : Progress} {kind : Delimiter} {inside outside : List (Nat × Delimiter)}
variable {opener place : Nat} {tag : Tag}

theorem close_of_forall_ne (closed : ∀ other ∈ progress.opened, other.2 ≠ kind) (place : Nat) :
    progress.close place kind = { progress with stray := place :: progress.stray } := by
  have none_left : progress.opened.dropWhile (fun other => other.2 != kind) = [] := by
    simpa [List.dropWhile_eq_nil_iff] using closed
  rw [close, none_left]

/-- A closer takes the innermost opener of its kind, and those inside of it are given up. -/
theorem close_of_opened (opened : progress.opened = inside ++ (opener, kind) :: outside)
    (others : ∀ other ∈ inside, other.2 ≠ kind) (place : Nat) :
    progress.close place kind =
      { progress with
        opened := outside
        paired := (opener, place) :: progress.paired
        dropped := inside.map Prod.fst ++ progress.dropped } := by
  have all : ∀ other ∈ inside, (other.2 != kind) = true := by simpa using others
  have left : progress.opened.dropWhile (fun other => other.2 != kind) =
      (opener, kind) :: outside := by
    rw [opened, List.dropWhile_append_of_pos all, List.dropWhile_cons_of_neg (by simp)]
  have given_up : progress.opened.takeWhile (fun other => other.2 != kind) = inside := by
    rw [opened, List.takeWhile_append_of_pos all, List.takeWhile_cons_of_neg (by simp),
      List.append_nil]
  rw [close, left, given_up]

/-- What a step does with the tag at a place. -/
inductive Stepped (progress : Progress) (place : Nat) : Tag → Progress → Prop
  /-- An opener is open. -/
  | opened (kind : Delimiter) :
      Stepped progress place (.opening kind)
        { progress with opened := (place, kind) :: progress.opened }
  /-- A closer of a kind that is not open is left alone. -/
  | stray (kind : Delimiter) (closed : ∀ other ∈ progress.opened, other.2 ≠ kind) :
      Stepped progress place (.closing kind) { progress with stray := place :: progress.stray }
  /-- A closer takes the innermost opener of its kind, and those inside of it are given up. -/
  | paired (kind : Delimiter) (inside : List (Nat × Delimiter)) (opener : Nat)
      (outside : List (Nat × Delimiter))
      (opened : progress.opened = inside ++ (opener, kind) :: outside)
      (others : ∀ other ∈ inside, other.2 ≠ kind) :
      Stepped progress place (.closing kind)
        { progress with
          opened := outside
          paired := (opener, place) :: progress.paired
          dropped := inside.map Prod.fst ++ progress.dropped }
  /-- Another tag is passed over. -/
  | skipped (tag : Tag) (plain : tag.delimiter? = none) : Stepped progress place tag progress

theorem stepped (progress : Progress) (place : Nat) (tag : Tag) :
    Stepped progress place tag (progress.step place tag) := by
  cases tag with
  | opening kind => exact .opened kind
  | closing kind =>
      rw [step]
      cases found : progress.opened.find? fun other => other.2 == kind with
      | none =>
          have closed : ∀ other ∈ progress.opened, other.2 ≠ kind := by simpa using found
          rw [close_of_forall_ne closed]
          exact .stray kind closed
      | some innermost =>
          obtain ⟨same, inside, outside, opened, others⟩ :=
            List.find?_eq_some_iff_append.mp found
          obtain rfl : innermost.2 = kind := by simpa using same
          have others_ne : ∀ other ∈ inside, other.2 ≠ innermost.2 := by simpa using others
          rw [close_of_opened opened others_ne]
          exact .paired _ inside _ outside opened others_ne
  | _ => exact .skipped _ rfl

/-- What a step keeps, a run keeps. -/
theorem run_keeps {Keeps : List Tag → Progress → Prop}
    (step : ∀ {seen : List Tag} {progress next : Progress} {tag : Tag}, Keeps seen progress →
      Stepped progress seen.length tag next → Keeps (seen ++ [tag]) next)
    {seen : List Tag} {progress : Progress} (keeps : Keeps seen progress) (tags : List Tag) :
    Keeps (seen ++ tags) (progress.run seen.length tags) := by
  induction tags generalizing seen progress with
  | nil => rwa [List.append_nil]
  | cons tag tags ih =>
      have later := ih (step keeps (stepped progress seen.length tag))
      rwa [List.append_assoc, List.length_append] at later

end Progress
end Matching
end ConfigLexer
