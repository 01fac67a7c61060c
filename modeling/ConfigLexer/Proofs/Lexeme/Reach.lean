import ConfigLexer.Proofs.Lexeme.Lookahead
import Mathlib.Logic.Basic
import Mathlib.Tactic.SplitIfs

/-!
# The rules of the grammar

The first character of a lexeme names its rule, and the rule counts the characters after it.  So a
fact about all lexemes is proved rule by rule: how many characters there can be, that no lexeme is
the end of the text, and that one character after the lexeme decides where it ends.
-/

namespace ConfigLexer
namespace Lexeme

open OneAhead

/-- What may follow the first character of an operator, each only after the ones before it. -/
def operatorTail? (first : Char) : Option (List Char) :=
  if first = '=' ∨ first = '!' ∨ first = '<' ∨ first = '>' then some ['=']
  else if first = '&' then some ['&']
  else if first = '|' then some ['|']
  else if first = '.' then some ['.', '.']
  else if first = '+' ∨ first = '-' ∨ first = '*' ∨ first = '%' ∨ first = ':' ∨ first = '?' ∨
      first = '/' then some []
  else none

/-- The number of given characters that a text starts with. -/
def inOrderReach : List Char → List Char → Nat
  | [], _ => 0
  | mark :: marks, text => guarded (· == mark) (inOrderReach marks) text

theorem inOrderReach_oneAhead (marks : List Char) : OneAhead (inOrderReach marks) := by
  induction marks with
  | nil => exact zero
  | cons mark marks ih => exact ih.guard (· == mark)

theorem operator?_pair {first second : Char}
    (pair : (first, second) ∈
      [('=', '='), ('!', '='), ('<', '='), ('>', '='), ('&', '&'), ('|', '|')])
    (rest : List Char) :
    operator? (first :: rest) =
      some (first :: [second].take (inOrderReach [second] rest)) := by
  simp only [List.mem_cons, Prod.mk.injEq, List.not_mem_nil, or_false] at pair
  rcases rest with _ | ⟨c, rest⟩
  · rcases pair with ⟨rfl, rfl⟩ | ⟨rfl, rfl⟩ | ⟨rfl, rfl⟩ | ⟨rfl, rfl⟩ | ⟨rfl, rfl⟩ | ⟨rfl, rfl⟩ <;>
      rfl
  · rcases eq_or_ne second c with rfl | other
    all_goals
      rcases pair with ⟨rfl, rfl⟩ | ⟨rfl, rfl⟩ | ⟨rfl, rfl⟩ | ⟨rfl, rfl⟩ | ⟨rfl, rfl⟩ | ⟨rfl, rfl⟩
    all_goals
      simp_all [operator?, operators, List.isPrefixOf, inOrderReach, guarded, Ne.symm]

theorem operator?_point (rest : List Char) :
    operator? ('.' :: rest) = some ('.' :: ['.', '.'].take (inOrderReach ['.', '.'] rest)) := by
  rcases rest with _ | ⟨c, rest⟩
  · rfl
  rcases eq_or_ne '.' c with rfl | other
  · rcases rest with _ | ⟨d, rest⟩
    · rfl
    rcases eq_or_ne '.' d with rfl | other
    · rfl
    · simp [operator?, operators, List.isPrefixOf, inOrderReach, guarded, other, other.symm]
  · simp [operator?, operators, List.isPrefixOf, inOrderReach, guarded, other, other.symm]

/-- The longest operator is found by reading on in order. -/
theorem operator?_cons (first : Char) (rest : List Char) :
    operator? (first :: rest) =
      (operatorTail? first).map fun tail => first :: tail.take (inOrderReach tail rest) := by
  rw [operatorTail?]
  split
  · rename_i merges
    rcases merges with rfl | rfl | rfl | rfl <;> exact operator?_pair (by decide) rest
  split
  · rename_i same
    subst same
    exact operator?_pair (by decide) rest
  split
  · rename_i same
    subst same
    exact operator?_pair (by decide) rest
  split
  · rename_i same
    subst same
    exact operator?_point rest
  split
  · rename_i single
    rcases single with rfl | rfl | rfl | rfl | rfl | rfl | rfl <;>
      simp [operator?, operators, List.isPrefixOf]
  · rename_i no_pair no_and no_or no_point no_single
    have no_head : some first ∉ operators.map List.head? := by
      simp_all [operators]
    rw [Option.map_none, operator?, List.find?_eq_none]
    intro text member starts
    obtain ⟨left, joined⟩ := List.isPrefixOf_iff_prefix.mp starts
    cases text with
    | nil => exact absurd member (by decide)
    | cons c text =>
        obtain ⟨rfl, -⟩ := List.cons.inj joined
        exact no_head (List.mem_map_of_mem member)

/-- The rules, each with what it takes from the first character. -/
inductive Rule where
  /-- A run of blanks. -/
  | blanks
  /-- A comment after a hash. -/
  | hash
  /-- A comment of either kind, or an operator, after a slash. -/
  | slash
  /-- A string. -/
  | quote
  /-- A number. -/
  | digit
  /-- A delimiter. -/
  | delimiter (tag : Tag)
  /-- An operator, with what may follow its first character. -/
  | operator (tail : List Char)
  /-- A name. -/
  | name
  /-- A character that starts nothing. -/
  | other
deriving DecidableEq, Repr

/-- The rule of the lexeme that starts with a character. -/
def ruleOf (first : Char) : Rule :=
  if Text.isBlank first then .blanks
  else if first = '#' then .hash
  else if first = '/' then .slash
  else if first = '"' then .quote
  else if Text.isDigit first then .digit
  else if let some tag := delimiterTag? first then .delimiter tag
  else if let some tail := operatorTail? first then .operator tail
  else if startsName first then .name
  else .other

namespace Rule

/-- The tag of a lexeme and the number of its characters after the first one. -/
def reach (vocabulary : Vocabulary) (first : Char) (rest : List Char) : Rule → Tag × Nat
  | blanks => (.whitespace, (rest.takeWhile Text.isBlank).length)
  | hash => (.lineComment, lineReach rest)
  | slash =>
      if rest.head? = some '/' then (.lineComment, lineReach rest)
      else if rest.head? = some '*' then (.blockComment, blockReach rest.tail + 1)
      else (.operator, 0)
  | quote => (.string, stringReach rest)
  | digit => (.number, numberReach rest)
  | delimiter tag => (tag, 0)
  | operator tail => (.operator, inOrderReach tail rest)
  | name => (nameTag vocabulary (first :: rest.take (nameReach rest)), nameReach rest)
  | other => (.badCharacter, 0)

end Rule

theorem length_take_inOrderReach (tail rest : List Char) :
    (tail.take (inOrderReach tail rest)).length = inOrderReach tail rest := by
  induction tail generalizing rest with
  | nil => rfl
  | cons mark marks ih =>
      cases rest with
      | nil => rfl
      | cons c rest =>
          cases same : c == mark with
          | true => simp only [inOrderReach, guarded, same, if_true, List.take_succ_cons,
              List.length_cons, ih]
          | false => simp [inOrderReach, guarded, same]

theorem isPrefixOf_slash (mark first : Char) (rest : List Char) :
    ['/', mark].isPrefixOf (first :: rest) = true ↔ first = '/' ∧ rest.head? = some mark := by
  cases rest with
  | nil => simp [List.isPrefixOf]
  | cons c rest =>
      simp only [List.isPrefixOf, Bool.and_true, Bool.and_eq_true, beq_iff_eq, List.head?_cons,
        Option.some.injEq]
      exact and_congr eq_comm eq_comm

theorem reach_eq (vocabulary : Vocabulary) (first : Char) (rest : List Char) :
    reach vocabulary first rest = (ruleOf first).reach vocabulary first rest := by
  by_cases slash : first = '/'
  · subst slash
    have rule : ruleOf '/' = .slash := by decide
    have not_blank : Text.isBlank '/' = false := by decide
    have not_digit : Text.isDigit '/' = false := by decide
    have operator : operator? ('/' :: rest) = some ['/'] := by rw [operator?_cons]; rfl
    rw [reach, rule, Rule.reach]
    simp only [isPrefixOf_slash, not_blank, not_digit, operator, delimiterTag?, true_and,
      Bool.false_eq_true, if_false, Char.reduceEq, false_or]
    rfl
  · rw [reach, ruleOf]
    simp only [isPrefixOf_slash, slash, false_and, or_false, if_false, operator?_cons]
    split
    · rfl
    split
    · rfl
    split
    · rfl
    split
    · rfl
    cases delimiterTag? first with
    | some tag => rfl
    | none =>
        cases operatorTail? first with
        | none =>
            simp only [Option.map_none]
            split <;> rfl
        | some tail =>
            simp only [Option.map_some, List.length_cons, length_take_inOrderReach,
              Nat.add_sub_cancel]
            rfl

theorem delimiterTag?_of_ruleOf {first : Char} {tag : Tag} (rule : ruleOf first = .delimiter tag) :
    delimiterTag? first = some tag := by
  grind [ruleOf]

theorem delimiterTag?_ne {c : Char} {tag : Tag} (found : delimiterTag? c = some tag) :
    tag ≠ .endOfInput := by
  rintro rfl
  simp only [delimiterTag?] at found
  split_ifs at found <;> simp at found

theorem nameTag_ne (vocabulary : Vocabulary) (name : List Char) :
    nameTag vocabulary name ≠ .endOfInput := by
  rw [nameTag]
  split <;> decide

theorem reach_tag_ne (vocabulary : Vocabulary) (first : Char) (rest : List Char) :
    (reach vocabulary first rest).1 ≠ .endOfInput := by
  rw [reach_eq]
  cases rule : ruleOf first with
  | delimiter tag => exact delimiterTag?_ne (delimiterTag?_of_ruleOf rule)
  | slash =>
      rw [Rule.reach]
      split_ifs <;> simp
  | name => exact nameTag_ne _ _
  | _ => simp [Rule.reach]

theorem reach_count_le (vocabulary : Vocabulary) (first : Char) (rest : List Char) :
    (reach vocabulary first rest).2 ≤ rest.length := by
  rw [reach_eq]
  cases ruleOf first with
  | blanks => exact (takeWhile Text.isBlank).le_length rest
  | hash => exact lineReach_oneAhead.le_length rest
  | slash =>
      rw [Rule.reach]
      split_ifs with line block
      · exact lineReach_oneAhead.le_length rest
      · obtain ⟨left, rfl⟩ := List.head?_eq_some_iff.mp block
        exact Nat.succ_le_succ (blockReach_oneAhead.le_length left)
      · exact Nat.zero_le _
  | quote => exact stringReach_oneAhead.le_length rest
  | digit => exact numberReach_oneAhead.le_length rest
  | operator tail => exact (inOrderReach_oneAhead tail).le_length rest
  | name => exact nameReach_oneAhead.le_length rest
  | delimiter | other => exact Nat.zero_le _

namespace Rule

/-- Every rule counts alike when what follows the counted characters is replaced by nothing or by
something that starts with the same character. -/
theorem reach_stable {vocabulary : Vocabulary} {first : Char} {body tail other : List Char}
    {tag : Tag} {rule : Rule}
    (counted : rule.reach vocabulary first (body ++ tail) = (tag, body.length))
    (starts : StartsAs other tail) :
    rule.reach vocabulary first (body ++ other) = (tag, body.length) := by
  cases rule with
  | blanks =>
      obtain ⟨rfl, count⟩ := Prod.mk.inj counted
      exact congrArg _ ((takeWhile Text.isBlank).stable count starts)
  | hash =>
      obtain ⟨rfl, count⟩ := Prod.mk.inj counted
      exact congrArg _ (lineReach_oneAhead.stable count starts)
  | slash =>
      rw [reach] at counted ⊢
      cases body with
      | nil =>
          split_ifs at counted with line block
          · obtain ⟨left, rfl⟩ := List.head?_eq_some_iff.mp line
            simp [lineReach] at counted
          · simp at counted
          · have no_line : other.head? ≠ some '/' := fun head => line (starts.head_of_head head)
            have no_block : other.head? ≠ some '*' := fun head => block (starts.head_of_head head)
            rw [List.nil_append, if_neg no_line, if_neg no_block]
            exact counted
      | cons second body =>
          simp only [List.cons_append, List.head?_cons, Option.some.injEq, List.tail_cons]
            at counted ⊢
          split_ifs at counted with line block
          · obtain ⟨rfl, count⟩ := Prod.mk.inj counted
            have line_count : lineReach (second :: body ++ tail) = (second :: body).length :=
              count
            rw [if_pos line]
            exact congrArg _ (lineReach_oneAhead.stable line_count starts)
          · obtain ⟨rfl, count⟩ := Prod.mk.inj counted
            rw [if_neg line, if_pos block, List.length_cons,
              blockReach_oneAhead.stable (Nat.succ.inj count) starts]
          · simp at counted
  | quote =>
      obtain ⟨rfl, count⟩ := Prod.mk.inj counted
      exact congrArg _ (stringReach_oneAhead.stable count starts)
  | digit =>
      obtain ⟨rfl, count⟩ := Prod.mk.inj counted
      exact congrArg _ (numberReach_oneAhead.stable count starts)
  | operator marks =>
      obtain ⟨rfl, count⟩ := Prod.mk.inj counted
      exact congrArg _ ((inOrderReach_oneAhead marks).stable count starts)
  | name =>
      obtain ⟨rfl, count⟩ := Prod.mk.inj counted
      have stays := nameReach_oneAhead.stable count starts
      rw [reach, stays, count, List.take_left, List.take_left]
  | delimiter | other => exact counted

end Rule

/-- A lexeme stays the same when what follows it is replaced by nothing or by something that starts
with the same character. -/
theorem reach_stable {vocabulary : Vocabulary} {first : Char} {body tail other : List Char}
    {tag : Tag} (counted : reach vocabulary first (body ++ tail) = (tag, body.length))
    (starts : StartsAs other tail) :
    reach vocabulary first (body ++ other) = (tag, body.length) := by
  rw [reach_eq] at counted ⊢
  exact Rule.reach_stable counted starts

end Lexeme
end ConfigLexer
