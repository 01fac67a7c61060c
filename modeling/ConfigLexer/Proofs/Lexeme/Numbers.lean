import ConfigLexer.Proofs.Lexeme.Lookahead
import ConfigLexer.Proofs.Text.Runs
import Mathlib.Computability.Language

/-!
# The language of numbers

A number is a digit, then digits and points, and then an exponent if there is one, of which only the
mark must be there.  Counting takes the digits and points first and then the exponent, and never
goes back.  Nothing is missed by it: what is counted is a number, and no longer beginning of the
text is one.
-/

namespace ConfigLexer
namespace Lexeme

open OneAhead Text
open scoped Computability

variable {test : Char → Bool} {first c : Char} {text begin rest : List Char}

/-! ## Languages -/

/-- The texts of one character that passes a test. -/
def oneOf (test : Char → Bool) : Language Char := {text | ∃ c, test c = true ∧ text = [c]}

theorem mem_kstar_oneOf : text ∈ (oneOf test)∗ ↔ ∀ c ∈ text, test c = true := by
  constructor
  · rintro ⟨pieces, rfl, singles⟩ c member
    obtain ⟨piece, piece_member, inside⟩ := List.mem_flatten.mp member
    obtain ⟨d, accepted, rfl⟩ := singles piece piece_member
    rwa [List.mem_singleton.mp inside]
  · intro accepted
    refine ⟨text.map fun c => [c], (List.flatMap_singleton' text).symm, fun piece member => ?_⟩
    obtain ⟨c, inside, rfl⟩ := List.mem_map.mp member
    exact ⟨c, accepted c inside, rfl⟩

/-- A text begins with a text of a language, and with no longer one. -/
structure IsLongest (language : Language Char) (text begin : List Char) : Prop where
  /-- The beginning is in the language. -/
  mem : begin ∈ language
  /-- It is a beginning of the text. -/
  begins : begin <+: text
  /-- No other beginning in the language is longer. -/
  longest : ∀ other ∈ language, other <+: text → other.length ≤ begin.length

theorem IsLongest.not_mem_concat {language : Language Char}
    (longest : IsLongest language (begin ++ c :: rest) begin) : begin ++ [c] ∉ language := by
  intro member
  have bound := longest.longest _ member ⟨rest, List.append_cons begin c rest ▸ rfl⟩
  rw [List.length_append, List.length_singleton] at bound
  exact absurd bound (Nat.not_succ_le_self _)

/-! ## The grammar -/

/-- The character may mark an exponent. -/
def marksExponent (c : Char) : Bool := c == 'e' || c == 'E'

/-- The character is a sign. -/
def isSign (c : Char) : Bool := c == '+' || c == '-'

/-- The character is a digit or a point. -/
def isMantissa (c : Char) : Bool := isDigit c || c == '.'

/-- A mark, a sign if there is one, and digits. -/
def exponents : Language Char := oneOf marksExponent * (1 + oneOf isSign) * (oneOf isDigit)∗

/-- A digit, then digits and points, then an exponent if there is one. -/
def numbers : Language Char := oneOf isDigit * (oneOf isMantissa)∗ * (1 + exponents)

/-- The shapes of an exponent, without a sign and with one. -/
inductive ExponentShape : List Char → Prop
  | unsigned {mark : Char} {digits : List Char} : marksExponent mark = true →
      (∀ c ∈ digits, isDigit c = true) → ExponentShape (mark :: digits)
  | signed {mark sign : Char} {digits : List Char} : marksExponent mark = true →
      isSign sign = true → (∀ c ∈ digits, isDigit c = true) →
      ExponentShape (mark :: sign :: digits)

theorem mem_exponents : text ∈ exponents ↔ ExponentShape text := by
  rw [exponents, Language.mem_mul]
  constructor
  · rintro ⟨_, front, digits, all_digits, rfl⟩
    obtain ⟨_, ⟨mark, marks, rfl⟩, sign, sign_mem, rfl⟩ := Language.mem_mul.mp front
    rw [mem_kstar_oneOf] at all_digits
    rcases sign_mem with rfl | ⟨c, signs, rfl⟩
    · exact .unsigned marks all_digits
    · exact .signed marks signs all_digits
  · intro shape
    cases shape with
    | @unsigned mark digits marks all_digits =>
        have front : [mark] ++ [] ∈ oneOf marksExponent * (1 + oneOf isSign) :=
          Language.append_mem_mul ⟨mark, marks, rfl⟩ (.inl rfl)
        exact ⟨_, front, digits, mem_kstar_oneOf.mpr all_digits, rfl⟩
    | @signed mark sign digits marks signs all_digits =>
        have front : [mark] ++ [sign] ∈ oneOf marksExponent * (1 + oneOf isSign) :=
          Language.append_mem_mul ⟨mark, marks, rfl⟩ (.inr ⟨sign, signs, rfl⟩)
        exact ⟨_, front, digits, mem_kstar_oneOf.mpr all_digits, rfl⟩

theorem mem_numbers :
    text ∈ numbers ↔ ∃ first mantissa exponent, text = first :: (mantissa ++ exponent) ∧
      isDigit first = true ∧ (∀ c ∈ mantissa, isMantissa c = true) ∧
      (exponent = [] ∨ ExponentShape exponent) := by
  rw [numbers, Language.mem_mul]
  constructor
  · rintro ⟨_, front, exponent, exponent_mem, rfl⟩
    obtain ⟨_, ⟨first, digit, rfl⟩, mantissa, mantissa_mem, rfl⟩ := Language.mem_mul.mp front
    exact ⟨first, mantissa, exponent, rfl, digit, mem_kstar_oneOf.mp mantissa_mem,
      exponent_mem.imp id mem_exponents.mp⟩
  · rintro ⟨first, mantissa, exponent, rfl, digit, mantissa_all, exponent_shape⟩
    have front : [first] ++ mantissa ∈ oneOf isDigit * (oneOf isMantissa)∗ :=
      Language.append_mem_mul ⟨first, digit, rfl⟩ (mem_kstar_oneOf.mpr mantissa_all)
    exact ⟨_, front, exponent, exponent_shape.imp id mem_exponents.mpr, rfl⟩

theorem numbers_concat (number : text ∈ numbers) (digit : isDigit c = true) :
    text ++ [c] ∈ numbers := by
  rw [mem_numbers] at number ⊢
  obtain ⟨first, mantissa, exponent, rfl, first_digit, mantissa_all, none_yet | shape⟩ := number
  · refine ⟨first, mantissa ++ [c], [], by simp [none_yet], first_digit, ?_, .inl rfl⟩
    simpa [or_imp, forall_and, isMantissa, digit] using mantissa_all
  · refine ⟨first, mantissa, exponent ++ [c], by simp, first_digit, mantissa_all, .inr ?_⟩
    cases shape with
    | unsigned marks digits =>
        exact .unsigned marks (by simpa [or_imp, forall_and, digit] using digits)
    | signed marks signs digits =>
        exact .signed marks signs (by simpa [or_imp, forall_and, digit] using digits)

/-! ## Counting -/

/-- What starts an exponent is no part of what is in front of it. -/
theorem not_isMantissa_of_marksExponent (marks : marksExponent c = true) :
    isMantissa c = false := by
  rcases Bool.or_eq_true_iff.mp marks with small | capital
  · obtain rfl := eq_of_beq small
    decide
  · obtain rfl := eq_of_beq capital
    decide

theorem ExponentShape.stops_mantissa (shape : ExponentShape text) (rest : List Char) :
    (text ++ rest).head?.any isMantissa = false := by
  cases shape with
  | unsigned marks _ => exact not_isMantissa_of_marksExponent marks
  | signed marks _ _ => exact not_isMantissa_of_marksExponent marks

theorem not_isSign_of_isDigit (digit : isDigit c = true) : isSign c = false := by
  rw [isSign, Bool.or_eq_false_iff, beq_eq_false_iff_ne, beq_eq_false_iff_ne]
  constructor <;> rintro rfl <;> revert digit <;> decide

theorem length_le_length_takeWhile (passes : ∀ c ∈ begin, test c = true) (rest : List Char) :
    begin.length ≤ ((begin ++ rest).takeWhile test).length := by
  rw [List.takeWhile_append_of_pos passes, List.length_append]
  exact Nat.le_add_right _ _

theorem exponentReach_eq_zero {mark : Char} (no_mark : marksExponent mark = false)
    (rest : List Char) : exponentReach (mark :: rest) = 0 := by
  rw [exponentReach_eq, guarded_eq_zero_iff]
  exact no_mark

theorem one_le_exponentReach {mark : Char} (marks : marksExponent mark = true)
    (rest : List Char) : 1 ≤ exponentReach (mark :: rest) := by
  rw [marksExponent] at marks
  rw [exponentReach_eq, guarded, if_pos marks]
  exact Nat.le_add_left 1 _

theorem exponentReach_signed {mark sign : Char} (marks : marksExponent mark = true)
    (signs : isSign sign = true) (rest : List Char) :
    exponentReach (mark :: sign :: rest) = digitReach rest + 2 := by
  rw [marksExponent] at marks
  rw [isSign] at signs
  rw [exponentReach, if_pos marks, if_pos signs]

theorem exponentReach_unsigned {mark : Char} (marks : marksExponent mark = true)
    (stops : rest.head?.any isSign = false) :
    exponentReach (mark :: rest) = digitReach rest + 1 := by
  rw [marksExponent] at marks
  cases rest with
  | nil => rw [exponentReach, if_pos marks, digitReach, List.takeWhile_nil, List.length_nil]
  | cons sign rest =>
      have unsigned : ¬(sign == '+' || sign == '-') = true := by simpa [isSign] using stops
      rw [exponentReach, if_pos marks, if_neg unsigned]

/-- What is counted after digits and points is an exponent or nothing. -/
theorem take_exponentReach (text : List Char) :
    text.take (exponentReach text) = [] ∨ ExponentShape (text.take (exponentReach text)) := by
  have all_digits (text : List Char) : ∀ c ∈ text.take (digitReach text), isDigit c = true := by
    rw [digitReach, take_length_takeWhile]
    exact List.all_eq_true.mp List.all_takeWhile
  cases text with
  | nil => exact .inl rfl
  | cons mark rest =>
      cases marks : marksExponent mark with
      | false =>
          left
          rw [exponentReach_eq_zero marks, List.take_zero]
      | true =>
          right
          cases signs : rest.head?.any isSign with
          | false =>
              rw [exponentReach_unsigned marks signs, List.take_succ_cons]
              exact .unsigned marks (all_digits rest)
          | true =>
              obtain ⟨sign, head, signed⟩ := (Option.any_eq_true _ _).mp signs
              obtain ⟨rest, rfl⟩ := List.head?_eq_some_iff.mp head
              rw [exponentReach_signed marks signed, List.take_succ_cons, List.take_succ_cons]
              exact .signed marks signed (all_digits rest)

theorem ExponentShape.length_le (shape : ExponentShape text) (rest : List Char) :
    text.length ≤ exponentReach (text ++ rest) := by
  cases shape with
  | @signed mark sign digits marks signs all_digits =>
      have counted := length_le_length_takeWhile all_digits rest
      rw [List.cons_append, List.cons_append, exponentReach_signed marks signs]
      exact Nat.add_le_add_right counted 2
  | @unsigned mark digits marks all_digits =>
      have counted := length_le_length_takeWhile all_digits rest
      cases digits with
      | nil =>
          exact one_le_exponentReach marks rest
      | cons digit digits =>
          have unsigned := not_isSign_of_isDigit (all_digits digit List.mem_cons_self)
          rw [List.cons_append, exponentReach_unsigned marks (by simpa using unsigned)]
          exact Nat.succ_le_succ counted

/-- What is counted of a text that starts with a digit is the longest number at its start. -/
theorem isLongest_numberReach (digit : isDigit first = true) (rest : List Char) :
    IsLongest numbers (first :: rest) (first :: rest.take (numberReach rest)) where
  mem := by
    rw [numberReach, List.take_add, mem_numbers]
    refine ⟨first, _, _, rfl, digit, ?_, take_exponentReach _⟩
    rw [mantissaReach, take_length_takeWhile]
    exact List.all_eq_true.mp List.all_takeWhile
  begins := (List.prefix_cons_inj first).mpr (List.take_prefix _ _)
  longest := by
    intro other number begins
    obtain ⟨_, mantissa, exponent, rfl, -, mantissa_all, shape⟩ := mem_numbers.mp number
    obtain ⟨tail, whole⟩ := begins
    rw [List.cons_append] at whole
    obtain ⟨rfl, rfl⟩ := List.cons.inj whole
    have counted := numberReach_oneAhead.le_length (mantissa ++ exponent ++ tail)
    rw [List.length_cons, List.length_cons, List.length_take_of_le counted, List.length_append,
      List.append_assoc, numberReach]
    apply Nat.succ_le_succ
    rcases shape with rfl | shape
    · have mantissa_le := length_le_length_takeWhile mantissa_all ([] ++ tail)
      exact Nat.le_trans mantissa_le (Nat.le_add_right _ _)
    · have mantissa_reach : mantissaReach (mantissa ++ (exponent ++ tail)) = mantissa.length :=
        congrArg List.length (takeWhile_run mantissa_all (shape.stops_mantissa tail))
      rw [mantissa_reach, List.drop_left]
      exact Nat.add_le_add_left (shape.length_le tail) _

end Lexeme
end ConfigLexer
