import ConfigLexer.Proofs.Comment.Marking
import Mathlib.Data.List.Basic
import Mathlib.Logic.Function.Iterate

/-!
# Toggling comments

Lines of which one is code are commented out together, and toggling again gives them back exactly.
Lines without code are commented in together; that makes every comment among them shorter, so after
no more steps than the longest line has bytes there is code among them or no comment is left.
-/

namespace ConfigLexer
namespace Line

open Text

variable {line : Line} {lines : List Line} {count : Nat}

/-- The line is neither blank nor a line comment. -/
def isCode (line : Line) : Bool := !isBlankText line && !line.isComment

theorem allComments_eq (lines : List Line) : allComments lines = !lines.any isCode := by
  rw [allComments, List.not_any_eq_all_not]
  apply congrArg
  funext line
  rw [isCode, Bool.not_and, Bool.not_not, Bool.not_not]

theorem toggle_of_code (code : lines.any isCode = true) : toggle lines = lines.map comment := by
  rw [toggle, allComments_eq, code]
  rfl

theorem toggle_of_no_code (no_code : lines.any isCode = false) :
    toggle lines = lines.map fun line => line.uncomment?.getD line := by
  rw [toggle, allComments_eq, no_code]
  rfl

theorem getD_uncomment?_comment (line : Line) :
    line.comment.uncomment?.getD line.comment = line := by
  cases blank : isBlankText line with
  | true =>
      have no_comment : line.isComment = false := by
        by_contra commented
        simp [isBlankText_of_isComment (eq_true_of_ne_false commented)] at blank
      rw [comment_of_blank blank, uncomment?_eq_none no_comment, Option.getD_none]
  | false => rw [uncomment?_comment blank, Option.getD_some]

theorem isCode_comment (line : Line) : line.comment.isCode = false := by
  rw [isCode, isBlankText_comment]
  cases blank : isBlankText line with
  | true => rfl
  | false => rw [isComment_comment blank]; rfl

/-- Toggling twice brings lines with code back. -/
theorem toggle_toggle (code : lines.any isCode = true) : toggle (toggle lines) = lines := by
  have no_code : (lines.map comment).any isCode = false := by
    rw [List.any_eq_false]
    intro line member
    obtain ⟨before, -, rfl⟩ := List.mem_map.mp member
    rw [isCode_comment]
    exact Bool.false_ne_true
  rw [toggle_of_code code, toggle_of_no_code no_code, List.map_map]
  exact (List.map_congr_left fun line _ => getD_uncomment?_comment line).trans (List.map_id _)

/-- From some number of togglings on, two more change nothing. -/
def SettlesAfter (count : Nat) (lines : List Line) : Prop :=
  ∀ further, count ≤ further → toggle^[further + 2] lines = toggle^[further] lines

theorem settlesAfter_zero (back : toggle (toggle lines) = lines) : SettlesAfter 0 lines := by
  intro further _
  rw [Function.iterate_add_apply]
  exact congrArg _ back

theorem SettlesAfter.step (settles : SettlesAfter count (toggle lines)) :
    SettlesAfter (count + 1) lines := by
  intro further enough
  obtain ⟨fewer, rfl⟩ := Nat.exists_eq_add_of_le' enough
  exact settles (fewer + count) (Nat.le_add_left _ _)

theorem toggle_of_blank (no_code : lines.any isCode = false)
    (no_comment : ∀ line ∈ lines, line.isComment = false) : toggle lines = lines := by
  rw [toggle_of_no_code no_code]
  refine (List.map_congr_left fun line member => ?_).trans (List.map_id _)
  rw [uncomment?_eq_none (no_comment line member)]
  rfl

/-- No comment has more bytes than this. -/
def CommentsFit (bound : Nat) (lines : List Line) : Prop :=
  ∀ line ∈ lines, line.isComment = true → byteCount line ≤ bound

/-- Every comment that is there after lines without code were toggled was a longer one before. -/
theorem CommentsFit.toggle {bound : Nat} (no_code : lines.any isCode = false)
    (fit : CommentsFit (bound + 1) lines) : CommentsFit bound (toggle lines) := by
  rw [toggle_of_no_code no_code]
  intro line member commented
  obtain ⟨before, before_member, rfl⟩ := List.mem_map.mp member
  cases found : before.uncomment? with
  | none =>
      have no_comment : before.isComment = false := by
        rw [← isSome_uncomment?, found]
        rfl
      rw [found, Option.getD_none, no_comment] at commented
      cases commented
  | some shorter =>
      have was_comment : before.isComment = true := by
        rw [← isSome_uncomment?, found]
        rfl
      have longer := fit before before_member was_comment
      have less := byteCount_of_uncomment? found
      rw [Option.getD_some]
      omega

theorem CommentsFit.settles {bound : Nat} (fit : CommentsFit bound lines) :
    ∃ count ≤ bound, SettlesAfter count lines := by
  induction bound generalizing lines with
  | zero =>
      refine ⟨0, Nat.le_refl 0, settlesAfter_zero ?_⟩
      cases code : lines.any isCode with
      | true => exact toggle_toggle code
      | false =>
          have no_comment : ∀ line ∈ lines, line.isComment = false := by
            intro line member
            by_contra commented
            have commented := eq_true_of_ne_false commented
            have empty := byteCount_eq_zero_iff.mp (Nat.le_zero.mp (fit line member commented))
            simp [empty, isComment, body] at commented
          rw [toggle_of_blank code no_comment, toggle_of_blank code no_comment]
  | succ bound ih =>
      cases code : lines.any isCode with
      | true => exact ⟨0, Nat.zero_le _, settlesAfter_zero (toggle_toggle code)⟩
      | false =>
          obtain ⟨count, within, settles⟩ := ih (fit.toggle code)
          exact ⟨count + 1, Nat.succ_le_succ within, settles.step⟩

end Line

open Text Line

theorem map_toList_toggleLines :
    Function.Semiconj (List.map String.toList) toggleLines Line.toggle := by
  intro lines
  rw [toggleLines, List.map_map]
  exact (List.map_congr_left fun _ _ => String.toList_ofList).trans (List.map_id _)

/-- Lines with code come back when they are toggled twice.  So do all others after no more steps
than the longest of them has bytes. -/
theorem toggleLines_settles (lines : List String) :
    ((∃ line ∈ lines, isBlankText line.toList = false ∧ isLineComment line = false) →
        toggleLines (toggleLines lines) = lines) ∧
      ∃ count ≤ (lines.map String.utf8ByteSize).max?.getD 0, ∀ further, count ≤ further →
        toggleLines^[further + 2] lines = toggleLines^[further] lines := by
  have injective : Function.Injective (List.map String.toList) :=
    List.map_injective_iff.mpr fun _ _ => String.toList_inj.mp
  have characters (number : Nat) (lines : List String) :
      (toggleLines^[number] lines).map String.toList =
        Line.toggle^[number] (lines.map String.toList) :=
    map_toList_toggleLines.iterate_right number lines
  constructor
  · rintro ⟨line, member, written, no_comment⟩
    apply injective
    rw [map_toList_toggleLines, map_toList_toggleLines]
    apply toggle_toggle
    rw [List.any_map, List.any_eq_true]
    rw [isLineComment] at no_comment
    exact ⟨line, member, by simp [isCode, written, no_comment]⟩
  · have fit : CommentsFit ((lines.map String.utf8ByteSize).max?.getD 0)
        (lines.map String.toList) := by
      intro line member _
      obtain ⟨text, text_member, rfl⟩ := List.mem_map.mp member
      rw [byteCount_toList]
      exact List.le_max?_getD_of_mem (List.mem_map_of_mem text_member)
    obtain ⟨count, within, settles⟩ := fit.settles
    refine ⟨count, within, fun further enough => injective ?_⟩
    rw [characters, characters]
    exact settles further enough

/-- Between an indented comment and a blank line, the line that is neither is enough. -/
theorem toggleLines_settles_mixed :
    (isBlankText "b\t".toList = false ∧ isLineComment "b\t" = false) ∧
      toggleLines (toggleLines ["  #a // a", "b\t", "\u3000 "]) =
        ["  #a // a", "b\t", "\u3000 "] := by
  have code : isBlankText "b\t".toList = false ∧ isLineComment "b\t" = false := by
    decide +kernel
  exact ⟨code, (toggleLines_settles _).1 ⟨"b\t", by simp, code⟩⟩

end ConfigLexer
