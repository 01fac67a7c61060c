import ConfigLexer.Proofs.Lexeme.Reach
import ConfigLexer.Proofs.Text.Bytes

/-!
# Cutting a text between lexemes

A lexeme is decided by its own characters and by the one after it.  So the lexemes before a cut do
not change when what follows the cut is replaced by nothing or by something that starts with the
same character, and the lexemes after a cut do not depend on what is before it.
-/

namespace ConfigLexer
namespace Lexeme

open Text

variable {vocabulary : Vocabulary} {lexeme : Lexeme} {lexemes left right : List Lexeme}
variable {text other : List Char}

/-- The characters of consecutive lexemes. -/
def textOf (lexemes : List Lexeme) : List Char := lexemes.flatMap Lexeme.text

@[simp]
theorem textOf_nil : textOf [] = [] := rfl

@[simp]
theorem textOf_cons (lexeme : Lexeme) (lexemes : List Lexeme) :
    textOf (lexeme :: lexemes) = lexeme.text ++ textOf lexemes := rfl

@[simp]
theorem textOf_append (left right : List Lexeme) :
    textOf (left ++ right) = textOf left ++ textOf right := List.flatMap_append

theorem textOf_eq_flatten (lexemes : List Lexeme) :
    textOf lexemes = (lexemes.map Lexeme.text).flatten := List.flatMap_def

theorem textOf_lex (vocabulary : Vocabulary) (text : List Char) :
    textOf (lex vocabulary text) = text := flatMap_text_lex vocabulary text

theorem exists_textOf_eq (vocabulary : Vocabulary) (text : List Char) :
    ∃ lexemes, textOf lexemes = text ∧ lex vocabulary (textOf lexemes) = lexemes :=
  ⟨lex vocabulary text, textOf_lex vocabulary text, by rw [textOf_lex]⟩

theorem textOf_of_lex (lexed : lex vocabulary text = lexemes) : textOf lexemes = text := by
  rw [← lexed, textOf_lex]

@[simp]
theorem lex_nil (vocabulary : Vocabulary) : lex vocabulary [] = [] := by
  rw [lex]

theorem lex_cons (vocabulary : Vocabulary) (first : Char) (rest : List Char) :
    lex vocabulary (first :: rest) =
      ⟨(reach vocabulary first rest).1, first :: rest.take (reach vocabulary first rest).2⟩ ::
        lex vocabulary (rest.drop (reach vocabulary first rest).2) := by
  rw [lex]

theorem lex_of_reach {first : Char} {body tail : List Char} {tag : Tag}
    (reached : reach vocabulary first (body ++ tail) = (tag, body.length)) :
    lex vocabulary (first :: body ++ tail) =
      ⟨tag, first :: body⟩ :: lex vocabulary tail := by
  rw [List.cons_append, lex_cons, reached, List.take_left, List.drop_left]

theorem reach_of_lex (lexed : lex vocabulary text = lexeme :: lexemes) :
    ∃ first body, lexeme.text = first :: body ∧
      reach vocabulary first (body ++ textOf lexemes) = (lexeme.tag, body.length) ∧
      lex vocabulary (textOf lexemes) = lexemes := by
  cases text with
  | nil => simp at lexed
  | cons first rest =>
      rw [lex_cons] at lexed
      obtain ⟨rfl, rfl⟩ := List.cons.inj lexed
      have bound := reach_count_le vocabulary first rest
      refine ⟨first, rest.take (reach vocabulary first rest).2, rfl, ?_, ?_⟩
      · rw [textOf_lex, List.take_append_drop, List.length_take_of_le bound]
      · rw [textOf_lex]

theorem lex_right (lexed : lex vocabulary text = left ++ right) :
    lex vocabulary (textOf right) = right := by
  induction left generalizing text with
  | nil =>
      rw [List.nil_append] at lexed
      rw [textOf_of_lex lexed, lexed]
  | cons lexeme left ih =>
      obtain ⟨first, body, -, -, others⟩ := reach_of_lex lexed
      exact ih others

theorem lex_tail (lexed : lex vocabulary text = lexeme :: lexemes) :
    lex vocabulary (textOf lexemes) = lexemes := by
  obtain ⟨first, body, -, -, others⟩ := reach_of_lex lexed
  exact others

/-- The lexemes before a cut stay as they are when the text after it starts as before or is
missing. -/
theorem lex_replace (lexed : lex vocabulary text = left ++ right)
    (starts : StartsAs other (textOf right)) :
    lex vocabulary (textOf left ++ other) = left ++ lex vocabulary other := by
  induction left generalizing text with
  | nil => rfl
  | cons lexeme left ih =>
      obtain ⟨first, body, shape, reached, others⟩ := reach_of_lex lexed
      have joined : textOf (left.append right) = textOf left ++ textOf right :=
        textOf_append left right
      rw [joined] at reached
      have still_reached := reach_stable reached (starts.append (textOf left))
      have head := lex_of_reach still_reached
      rw [ih others, ← shape] at head
      rw [textOf_cons, List.append_assoc]
      exact head

theorem lex_left (lexed : lex vocabulary text = left ++ right) :
    lex vocabulary (textOf left) = left := by
  have alone := lex_replace lexed (.inl rfl)
  rwa [List.append_nil, lex_nil, List.append_nil] at alone

/-- Each lexeme of a text is the only lexeme of its own text. -/
theorem lex_alone (member : lexeme ∈ lex vocabulary text) :
    lex vocabulary lexeme.text = [lexeme] := by
  obtain ⟨before, behind, lexed⟩ := List.append_of_mem member
  have cut : lex vocabulary (textOf (lexeme :: behind)) = [lexeme] ++ behind := lex_right lexed
  have alone := lex_left cut
  rwa [textOf_cons, textOf_nil, List.append_nil] at alone

theorem tag_ne_of_mem_lex (member : lexeme ∈ lex vocabulary text) : lexeme.tag ≠ .endOfInput := by
  obtain ⟨left, right, lexed⟩ := List.append_of_mem member
  obtain ⟨first, body, shape, reached, -⟩ := reach_of_lex (lex_right lexed)
  have tag_eq := congrArg Prod.fst reached
  dsimp only at tag_eq
  rw [← tag_eq]
  exact reach_tag_ne vocabulary first _

theorem text_ne_nil_of_mem_lex (member : lexeme ∈ lex vocabulary text) : lexeme.text ≠ [] := by
  obtain ⟨left, right, lexed⟩ := List.append_of_mem member
  obtain ⟨first, body, shape, -, -⟩ := reach_of_lex (lex_right lexed)
  rw [shape]
  exact List.cons_ne_nil first body

theorem length_lex_le (vocabulary : Vocabulary) (text : List Char) :
    (lex vocabulary text).length ≤ text.length := by
  fun_induction lex vocabulary text with
  | case1 => exact Nat.le_refl 0
  | case2 first rest tag count _ ih =>
      rw [List.length_drop] at ih
      simp only [List.length_cons]
      omega

end Lexeme
end ConfigLexer
