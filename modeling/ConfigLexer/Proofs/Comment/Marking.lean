import ConfigLexer.Comment
import ConfigLexer.Proofs.Text.Bytes
import ConfigLexer.Proofs.Text.Runs

/-!
# Marks of line comments

A line is its indentation and its body, and a body starts with neither a space nor a tab.  So a mark
that is put between the two is found there again, and what is read behind it is the body.
-/

namespace ConfigLexer
namespace Line

open Text

variable {line rest : Line}

/-- The character indents a line. -/
def isIndent (c : Char) : Bool := c == ' ' || c == '\t'

theorem indent_append_body (line : Line) : line.indent ++ line.body = line :=
  List.takeWhile_append_dropWhile

theorem isIndent_of_mem_indent {c : Char} (member : c ∈ line.indent) : isIndent c = true :=
  List.all_eq_true.mp List.all_takeWhile c member

theorem isBlank_of_isIndent {c : Char} (indents : isIndent c = true) : isBlank c = true := by
  rcases Bool.or_eq_true_iff.mp indents with space | tab
  · obtain rfl := eq_of_beq space
    rfl
  · obtain rfl := eq_of_beq tab
    rfl

theorem indent_append {c : Char} (stops : isIndent c = false) (line rest : Line) :
    (line.indent ++ c :: rest).indent = line.indent := by
  have indents : ∀ c ∈ line.indent, isIndent c = true := fun _ => isIndent_of_mem_indent
  exact takeWhile_run indents stops

theorem body_append {c : Char} (stops : isIndent c = false) (line rest : Line) :
    (line.indent ++ c :: rest).body = c :: rest := by
  have indents : ∀ c ∈ line.indent, isIndent c = true := fun _ => isIndent_of_mem_indent
  exact dropWhile_run indents stops

/-! ## Blank lines -/

theorem isBlankText_indent (line : Line) : isBlankText line.indent = true :=
  List.all_eq_true.mpr fun _ member => isBlank_of_isIndent (isIndent_of_mem_indent member)

theorem isBlankText_body (line : Line) : isBlankText line.body = isBlankText line := by
  have parts : isBlankText (line.indent ++ line.body) =
      (isBlankText line.indent && isBlankText line.body) := List.all_append
  rw [indent_append_body, isBlankText_indent, Bool.true_and] at parts
  exact parts.symm

theorem comment_of_blank (blank : isBlankText line = true) : line.comment = line := by
  rw [comment, isBlankText_body, if_pos blank]

theorem comment_of_not_blank (written : isBlankText line = false) :
    line.comment = line.indent ++ '#' :: ' ' :: line.body := by
  rw [comment, isBlankText_body, written]
  rfl

theorem byteCount_comment (written : isBlankText line = false) :
    byteCount line.comment = byteCount line + 2 := by
  have parts := congrArg byteCount (indent_append_body line)
  have hash : '#'.utf8Size = 1 := rfl
  have space : ' '.utf8Size = 1 := rfl
  rw [byteCount_append] at parts
  rw [comment_of_not_blank written, byteCount_append, byteCount_cons, byteCount_cons, hash, space]
  omega

/-- Commenting out leaves blank lines and makes no others. -/
theorem isBlankText_comment (line : Line) : isBlankText line.comment = isBlankText line := by
  cases blank : isBlankText line with
  | true => rw [comment_of_blank blank, blank]
  | false =>
      rw [comment_of_not_blank blank, ← isBlankText_body, body_append (by decide)]
      rfl

/-! ## Comment marks -/

/-- The marks of line comments. -/
def marks : List Line := [['/', '/'], ['#']]

theorem isComment_iff : line.isComment = true ↔ ∃ mark ∈ marks, mark <+: line.body := by
  simp [isComment, marks, List.isPrefixOf_iff_prefix]

/-- Behind a mark one space is left out, if it is there. -/
theorem afterMarker?_eq_some_iff {body : Line} :
    afterMarker? body = some rest ↔
      ∃ mark ∈ marks, body = mark ++ ' ' :: rest ∨
        body = mark ++ rest ∧ rest.head? ≠ some ' ' := by
  constructor
  · intro found
    unfold afterMarker? at found
    split at found
    · obtain rfl := Option.some.inj found
      exact ⟨_, .head _, .inl rfl⟩
    · rename_i no_space
      obtain rfl := Option.some.inj found
      refine ⟨_, .head _, .inr ⟨rfl, fun space => ?_⟩⟩
      obtain ⟨tail, rfl⟩ := List.head?_eq_some_iff.mp space
      exact no_space tail rfl
    · obtain rfl := Option.some.inj found
      exact ⟨_, .tail _ (.head _), .inl rfl⟩
    · rename_i no_space
      obtain rfl := Option.some.inj found
      refine ⟨_, .tail _ (.head _), .inr ⟨rfl, fun space => ?_⟩⟩
      obtain ⟨tail, rfl⟩ := List.head?_eq_some_iff.mp space
      exact no_space tail rfl
    · cases found
  · rintro ⟨mark, member, shape⟩
    simp only [marks, List.mem_cons, List.not_mem_nil, or_false] at member
    rcases member with rfl | rfl <;> rcases shape with rfl | ⟨rfl, no_space⟩
    · rfl
    · cases rest <;> simp_all [afterMarker?]
    · rfl
    · cases rest <;> simp_all [afterMarker?]

theorem isSome_uncomment? (line : Line) : line.uncomment?.isSome = line.isComment := by
  rw [uncomment?, Option.isSome_map, Bool.eq_iff_iff, Option.isSome_iff_exists, isComment_iff]
  constructor
  · rintro ⟨rest, found⟩
    obtain ⟨mark, member, shape | ⟨shape, -⟩⟩ := afterMarker?_eq_some_iff.mp found
    · exact ⟨mark, member, ' ' :: rest, shape.symm⟩
    · exact ⟨mark, member, rest, shape.symm⟩
  · rintro ⟨mark, member, rest, shape⟩
    by_cases space : rest.head? = some ' '
    · obtain ⟨behind, rfl⟩ := List.head?_eq_some_iff.mp space
      exact ⟨behind, afterMarker?_eq_some_iff.mpr ⟨mark, member, .inl shape.symm⟩⟩
    · exact ⟨rest, afterMarker?_eq_some_iff.mpr ⟨mark, member, .inr ⟨shape.symm, space⟩⟩⟩

theorem uncomment?_eq_none (code : line.isComment = false) : line.uncomment? = none := by
  rw [← Option.not_isSome_iff_eq_none, isSome_uncomment?, code]
  exact Bool.false_ne_true

theorem isBlankText_of_isComment (commented : line.isComment = true) :
    isBlankText line = false := by
  obtain ⟨mark, member, behind, shape⟩ := isComment_iff.mp commented
  rw [← isBlankText_body, ← shape]
  simp only [marks, List.mem_cons, List.not_mem_nil, or_false] at member
  rcases member with rfl | rfl <;> rfl

/-- What is commented out is a line comment, and commented in it is as it was. -/
theorem uncomment?_comment (written : isBlankText line = false) :
    line.comment.uncomment? = some line := by
  have found : afterMarker? ('#' :: ' ' :: line.body) = some line.body := rfl
  rw [comment_of_not_blank written, uncomment?, body_append (by decide), found,
    indent_append (by decide), Option.map_some, indent_append_body]

theorem isComment_comment (written : isBlankText line = false) : line.comment.isComment = true := by
  rw [← isSome_uncomment?, uncomment?_comment written]
  rfl

theorem byteCount_of_uncomment? {shorter : Line} (found : line.uncomment? = some shorter) :
    byteCount shorter < byteCount line := by
  obtain ⟨rest, behind, rfl⟩ := Option.map_eq_some_iff.mp found
  obtain ⟨mark, member, shape⟩ := afterMarker?_eq_some_iff.mp behind
  have mark_size : 0 < byteCount mark := by
    simp only [marks, List.mem_cons, List.not_mem_nil, or_false] at member
    rcases member with rfl | rfl <;> decide
  have size := congrArg byteCount (indent_append_body line)
  rcases shape with shape | ⟨shape, -⟩
  all_goals
    rw [shape] at size
    simp only [byteCount_append, byteCount_cons] at size ⊢
    omega

end Line
end ConfigLexer
