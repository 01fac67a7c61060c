import ConfigLexer.Proofs.Lexeme.Layout

/-!
# Names

A lexeme is a name exactly if its text has the shape of one, and only for names a vocabulary is
consulted.  So the lexemes under one vocabulary are those under any other with the tags of the names
looked up again.
-/

namespace ConfigLexer
namespace Text

/-- No range of the one set meets a range of the other. -/
def CharSet.isApart (set other : CharSet) : Bool :=
  -- Some tens of thousands of pairs are compared: `Nat.blt` spares the kernel an instance for each.
  set.ranges.all fun range => other.ranges.all fun last =>
    Nat.blt range.2 last.1 || Nat.blt last.2 range.1

theorem CharSet.contains_of_isApart {set other : CharSet} (apart : set.isApart other = true)
    {c : Char} (member : set.contains c = true) : other.contains c = false := by
  obtain ⟨range, inside, lower, upper⟩ := contains_iff.mp member
  rw [contains, List.any_eq_false]
  intro last present both
  have beside := List.all_eq_true.mp (List.all_eq_true.mp apart range inside) last present
  simp only [Bool.or_eq_true, Bool.and_eq_true, decide_eq_true_eq, Nat.blt_eq] at beside both
  omega

theorem isBlank_of_isLetter {c : Char} (letter : isLetter c = true) : isBlank c = false :=
  CharSet.contains_of_isApart (by decide +kernel) letter

theorem isDigit_of_isLetter {c : Char} (letter : isLetter c = true) : isDigit c = false :=
  CharSet.contains_of_isApart (by decide +kernel) letter

end Text

namespace Lexeme

open Text

variable {vocabulary : Vocabulary} {first : Char} {rest text : List Char}

/-- The text has the shape of a name: a letter or an underscore, then letters, digits, underscores
and hyphens. -/
def isName : List Char → Bool
  | [] => false
  | first :: rest => startsName first && rest.all continuesName

theorem ruleOf_of_startsName (starts : startsName first = true) : ruleOf first = .name := by
  have ne (mark : Char) (no_start : startsName mark = false) : first ≠ mark := by
    rintro rfl
    simp [starts] at no_start
  obtain ⟨not_blank, not_digit⟩ : isBlank first = false ∧ isDigit first = false := by
    rcases Bool.or_eq_true_iff.mp starts with letter | underscore
    · exact ⟨isBlank_of_isLetter letter, isDigit_of_isLetter letter⟩
    · obtain rfl := eq_of_beq underscore
      decide +kernel
  have no_delimiter : delimiterTag? first = none := by
    simp (disch := decide +kernel) only [delimiterTag?, ne, if_false]
  have no_operator : operatorTail? first = none := by
    simp (disch := decide +kernel) only [operatorTail?, ne, if_false, or_false]
  rw [ruleOf, not_blank, not_digit, no_delimiter, no_operator, starts,
    if_neg (ne _ (by decide +kernel)), if_neg (ne _ (by decide +kernel)),
    if_neg (ne _ (by decide +kernel))]
  rfl

theorem startsName_of_ruleOf (rule : ruleOf first = .name) : startsName first = true := by
  grind [ruleOf]

theorem reach_of_startsName (starts : startsName first = true) :
    reach vocabulary first rest =
      (nameTag vocabulary (first :: rest.take (nameReach rest)), nameReach rest) := by
  rw [reach_eq, ruleOf_of_startsName starts]
  rfl

theorem reach_of_not_startsName (vocabulary other : Vocabulary)
    (no_start : startsName first = false) :
    reach vocabulary first rest = reach other first rest := by
  rw [reach_eq, reach_eq]
  cases rule : ruleOf first with
  | name => simp [startsName_of_ruleOf rule] at no_start
  | _ => rfl

theorem isName_of_startsName (starts : startsName first = true) :
    isName (first :: rest.take (nameReach rest)) = true := by
  rw [isName, starts, Bool.true_and, nameReach, take_length_takeWhile]
  exact List.all_takeWhile

/-- The lexeme with its tag looked up in a vocabulary, if it is a name. -/
def retag (vocabulary : Vocabulary) (lexeme : Lexeme) : Lexeme :=
  if isName lexeme.text then ⟨nameTag vocabulary lexeme.text, lexeme.text⟩ else lexeme

@[simp]
theorem text_retag (vocabulary : Vocabulary) (lexeme : Lexeme) :
    (retag vocabulary lexeme).text = lexeme.text := by
  rw [retag]
  split <;> rfl

/-- One vocabulary finds the lexemes that any other one finds, and looks up the names anew. -/
theorem lex_eq_map_retag (vocabulary other : Vocabulary) (text : List Char) :
    lex other text = (lex vocabulary text).map (retag other) := by
  fun_induction lex vocabulary text with
  | case1 => rw [lex_nil, List.map_nil]
  | case2 first rest tag count reached ih =>
      rw [List.map_cons, ← ih, lex_cons, retag]
      cases starts : startsName first with
      | true =>
          rw [reach_of_startsName starts] at reached
          obtain ⟨rfl, rfl⟩ := Prod.mk.inj reached
          rw [reach_of_startsName starts, isName_of_startsName starts]
          rfl
      | false =>
          have no_name : isName (first :: rest.take count) = false := by
            rw [isName, starts, Bool.false_and]
          rw [reach_of_not_startsName other vocabulary starts, reached, no_name]
          rfl

/-- Looking the names up in the vocabulary under which they were found changes nothing. -/
theorem retag_of_mem_lex {lexeme : Lexeme} (member : lexeme ∈ lex vocabulary text) :
    retag vocabulary lexeme = lexeme := by
  have same : (lex vocabulary text).map (retag vocabulary) = (lex vocabulary text).map id := by
    rw [← lex_eq_map_retag, List.map_id]
  exact List.map_inj_left.mp same lexeme member

theorem lex_congr {other : Vocabulary}
    (same : ∀ word : String, isName word.toList = true →
      (word ∈ vocabulary.words ↔ word ∈ other.words)) (text : List Char) :
    lex vocabulary text = lex other text := by
  rw [lex_eq_map_retag vocabulary other]
  calc
    lex vocabulary text = (lex vocabulary text).map id := (List.map_id _).symm
    _ = (lex vocabulary text).map (retag other) := by
      apply List.map_congr_left
      intro lexeme member
      have found := retag_of_mem_lex member
      rw [retag] at found ⊢
      split at found
      · rename_i name
        have held := same (String.ofList lexeme.text) (by rwa [String.toList_ofList])
        rw [← vocabulary.contains_iff, ← other.contains_iff, ← Bool.eq_iff_iff] at held
        rw [if_pos name, nameTag, ← held]
        exact found.symm
      · rename_i no_name
        rw [if_neg no_name, id]

end Lexeme
end ConfigLexer
