import ConfigLexer.Text.Offset

/-!
# Runs of characters

A run of characters that pass a test ends in front of the first one that does not, or at the end of
the text.
-/

namespace ConfigLexer
namespace Text

variable {test : Char → Bool} {run rest : List Char}

theorem takeWhile_run (passes : ∀ c ∈ run, test c = true) (stops : rest.head?.any test = false) :
    (run ++ rest).takeWhile test = run := by
  rw [List.takeWhile_append_of_pos passes]
  cases rest with
  | nil => rw [List.takeWhile_nil, List.append_nil]
  | cons c rest =>
      have refused : test c = false := by simpa using stops
      rw [List.takeWhile_cons, refused]
      exact List.append_nil run

theorem dropWhile_run (passes : ∀ c ∈ run, test c = true) (stops : rest.head?.any test = false) :
    (run ++ rest).dropWhile test = rest := by
  rw [List.dropWhile_append_of_pos passes]
  cases rest with
  | nil => rfl
  | cons c rest =>
      have refused : test c = false := by simpa using stops
      rw [List.dropWhile_cons, refused]
      rfl

end Text
end ConfigLexer
