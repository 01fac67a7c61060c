import ConfigLexer.Proofs.Lexeme.Lookahead
import Mathlib.Algebra.Group.Nat.Even
import Mathlib.Data.List.DropRight

/-!
# Backslashes in a string

A string takes a backslash together with the character after it.  So of the quotes in a text those
are escaped that stand behind an odd number of backslashes in a row, and the string ends with the
first one that stands behind an even number of them.
-/

namespace ConfigLexer
namespace Lexeme

variable {passed text body rest : List Char} {c : Char}

/-- The number of backslashes in a row at the end of a text. -/
def escapes (text : List Char) : Nat := (text.rtakeWhile (· == '\\')).length

theorem even_escapes_nil : Even (escapes []) := Even.zero

theorem escapes_concat (text : List Char) (c : Char) :
    escapes (text ++ [c]) = if c = '\\' then escapes text + 1 else 0 := by
  rw [escapes, List.rtakeWhile_concat]
  split <;> simp_all [escapes]

theorem even_escapes_concat (not_escape : c ≠ '\\') (passed : List Char) :
    Even (escapes (passed ++ [c])) := by
  rw [escapes_concat, if_neg not_escape]
  exact Even.zero

/-- A backslash in a row of them takes one more character with it. -/
theorem even_escapes_pair (even : Even (escapes passed)) (c : Char) :
    Even (escapes (passed ++ ['\\', c])) := by
  have pair : passed ++ ['\\', c] = passed ++ ['\\'] ++ [c] := by simp
  rw [pair, escapes_concat, escapes_concat, if_pos rfl]
  split
  · exact even.add (by decide : Even 2)
  · exact Even.zero

theorem stringReach_le (even : Even (escapes passed))
    (closes : Even (escapes (passed ++ body))) (rest : List Char) :
    stringReach (body ++ '"' :: rest) ≤ body.length + 1 := by
  induction body using stringReach.induct generalizing passed with
  | case1 => simp
  | case2 body => simp
  | case3 =>
      rw [escapes_concat, if_pos rfl] at closes
      exact absurd even (Nat.even_add_one.mp closes)
  | case4 c body ih =>
      have later := ih (even_escapes_pair even c) (by simpa using closes)
      simp only [List.cons_append, stringReach_escape, List.length_cons]
      omega
  | case5 c body not_quote not_last not_escape ih =>
      have ordinary := ne_escape not_last not_escape
      have later := ih (even_escapes_concat ordinary passed) (by simpa using closes)
      rw [List.cons_append, stringReach_cons not_quote ordinary, List.length_cons]
      omega

/-- A string runs to the end of the text, or ends with a quote that is not escaped. -/
theorem stringReach_cases (even : Even (escapes passed)) (text : List Char) :
    stringReach text = text.length ∨
      ∃ body rest, text = body ++ '"' :: rest ∧ Even (escapes (passed ++ body)) ∧
        stringReach text = body.length + 1 := by
  induction text using stringReach.induct generalizing passed with
  | case1 => exact .inl rfl
  | case2 rest => exact .inr ⟨[], rest, rfl, by rwa [List.append_nil], by simp⟩
  | case3 => exact .inl rfl
  | case4 c text ih =>
      rw [stringReach_escape]
      rcases ih (even_escapes_pair even c) with to_end | ⟨body, rest, rfl, closes, reach⟩
      · exact .inl (by rw [to_end]; rfl)
      · exact .inr ⟨'\\' :: c :: body, rest, rfl, by simpa using closes, by rw [reach]; rfl⟩
  | case5 c text not_quote not_last not_escape ih =>
      have ordinary := ne_escape not_last not_escape
      rw [stringReach_cons not_quote ordinary]
      rcases ih (even_escapes_concat ordinary passed) with to_end | ⟨body, rest, rfl, closes, reach⟩
      · exact .inl (by rw [to_end]; rfl)
      · exact .inr ⟨c :: body, rest, rfl, by simpa using closes, by rw [reach]; rfl⟩

end Lexeme
end ConfigLexer
