import ConfigLexer.Proofs.Comment.Marking
import ConfigLexer.Proofs.Lexeme.Delimiters
import ConfigLexer.Proofs.Lexeme.Escaping
import ConfigLexer.Proofs.Lexeme.Names
import ConfigLexer.Proofs.Lexeme.Numbers

/-!
# What lexemes are made of

Each tag stands for one way to make up a lexeme, and each way says what must come behind it: what
stops a run, what closes a comment or a string, or the end of the text where nothing does.
-/

namespace ConfigLexer
namespace Lexeme

open Text

variable {test : Char → Bool} {first : Char} {body tail text found : List Char}
variable {vocabulary : Vocabulary} {tag : Tag} {lexeme : Lexeme} {left right : List Lexeme}

/-! ## Counts that are reached -/

theorem takeWhile_eq_of_length (counted : ((body ++ tail).takeWhile test).length = body.length) :
    (∀ c ∈ body, test c = true) ∧ tail.head?.any test = false := by
  have whole : (body ++ tail).takeWhile test = body := by
    rw [← take_length_takeWhile, counted, List.take_left]
  have passes : ∀ c ∈ body, test c = true := by
    rw [← whole]
    exact List.all_eq_true.mp List.all_takeWhile
  refine ⟨passes, ?_⟩
  rw [List.takeWhile_append_of_pos passes, List.append_right_eq_self] at whole
  cases tail with
  | nil => rfl
  | cons c tail =>
      cases accepted : test c with
      | false => simpa using accepted
      | true => simp [accepted] at whole

/-- A block comment runs to the end of the text or through a closing mark. -/
theorem blockReach_cases (text : List Char) :
    blockReach text = text.length ∨
      ∃ inner rest, text = inner ++ ['*', '/'] ++ rest ∧
        blockReach text = (inner ++ ['*', '/']).length := by
  induction text with
  | nil => exact .inl rfl
  | cons c text ih =>
      rw [blockReach_cons]
      split
      · rename_i mark
        obtain ⟨rfl, head⟩ := mark
        obtain ⟨rest, rfl⟩ := List.head?_eq_some_iff.mp head
        exact .inr ⟨[], rest, rfl, rfl⟩
      · rcases ih with to_end | ⟨inner, rest, rfl, reach⟩
        · exact .inl (by rw [to_end, List.length_cons])
        · exact .inr ⟨c :: inner, rest, rfl, by rw [reach]; rfl⟩

theorem eq_nil_of_length_append (all : body.length = (body ++ tail).length) : tail = [] := by
  rw [List.length_append] at all
  exact List.length_eq_zero_iff.mp (by omega)

/-- The texts of operators. -/
def operatorTexts : Language Char := {text | text ∈ operators}

theorem isLongest_operator? (first_found : operator? text = some found) :
    IsLongest operatorTexts text found := by
  have descending : operators.Pairwise fun longer shorter => shorter.length ≤ longer.length := by
    decide
  obtain ⟨begins, before, behind, listed, none_before⟩ :=
    List.find?_eq_some_iff_append.mp first_found
  refine ⟨List.mem_of_find?_eq_some first_found, List.isPrefixOf_iff_prefix.mp begins, ?_⟩
  intro other member other_begins
  have other_listed : other ∈ before ++ found :: behind := listed ▸ member
  rw [listed, List.pairwise_append, List.pairwise_cons] at descending
  rcases List.mem_append.mp other_listed with earlier | later
  · have refused := none_before other earlier
    rw [List.isPrefixOf_iff_prefix.mpr other_begins] at refused
    cases refused
  · rcases List.mem_cons.mp later with rfl | later
    · exact Nat.le_refl _
    · exact descending.2.1.1 other later

/-! ## The forms -/

/-- What a lexeme is made of, in front of the rest of its text. -/
inductive Formed : Lexeme → List Char → Prop
  /-- Blanks end where there is another character. -/
  | blanks {first : Char} {body tail : List Char} : isBlankText (first :: body) = true →
      tail.head?.any isBlank = false → Formed ⟨.whitespace, first :: body⟩ tail
  /-- A line comment ends before a line break. -/
  | line {mark body tail : List Char} : mark ∈ Line.marks → '\n' ∉ body →
      tail.head?.any (· ≠ '\n') = false → Formed ⟨.lineComment, mark ++ body⟩ tail
  /-- A block comment ends with its closing mark. -/
  | block {inner tail : List Char} :
      Formed ⟨.blockComment, '/' :: '*' :: inner ++ ['*', '/']⟩ tail
  /-- One that is not closed takes the rest of the text. -/
  | openBlock {inner : List Char} : Formed ⟨.blockComment, '/' :: '*' :: inner⟩ []
  /-- A string ends with a quote that is not escaped. -/
  | string {inner tail : List Char} : Even (escapes inner) →
      Formed ⟨.string, '"' :: inner ++ ['"']⟩ tail
  /-- One that is not closed takes the rest of the text. -/
  | openString {inner : List Char} : Formed ⟨.string, '"' :: inner⟩ []
  /-- A number is the longest one there is. -/
  | number {first : Char} {body tail : List Char} : isDigit first = true →
      IsLongest numbers (first :: body ++ tail) (first :: body) →
      Formed ⟨.number, first :: body⟩ tail
  /-- An opener is its character. -/
  | opener {kind : Delimiter} {tail : List Char} : Formed ⟨.opening kind, [kind.opener]⟩ tail
  /-- A closer is its character. -/
  | closer {kind : Delimiter} {tail : List Char} : Formed ⟨.closing kind, [kind.closer]⟩ tail
  /-- An operator is the longest one there is, and does not start a comment. -/
  | operator {text tail : List Char} : IsLongest operatorTexts (text ++ tail) text →
      (∀ mark ∈ [['/', '/'], ['/', '*']], ¬mark <+: text ++ tail) →
      Formed ⟨.operator, text⟩ tail
  /-- A reserved name ends where no character continues it. -/
  | keyword {text tail : List Char} : isName text = true → tail.head?.any continuesName = false →
      Formed ⟨.keyword, text⟩ tail
  /-- So does one that is not reserved. -/
  | identifier {text tail : List Char} : isName text = true →
      tail.head?.any continuesName = false → Formed ⟨.identifier, text⟩ tail
  /-- Any other character stands alone. -/
  | other {first : Char} {tail : List Char} : Formed ⟨.badCharacter, [first]⟩ tail

theorem Formed.digit_starts (formed : Formed lexeme tail) (number : lexeme.tag = .number) :
    lexeme.text.head?.any isDigit = true := by
  cases formed with
  | number digit longest => exact digit
  | _ => cases number

theorem formed_nameTag (vocabulary : Vocabulary) (name : List Char) (is_name : isName text = true)
    (stops : tail.head?.any continuesName = false) :
    Formed ⟨nameTag vocabulary name, text⟩ tail := by
  rw [nameTag]
  split
  · exact .keyword is_name stops
  · exact .identifier is_name stops

theorem formed_of_slashes (slashes : ['/', '/'].isPrefixOf (first :: (body ++ tail)) = true)
    (counted : lineReach (body ++ tail) = body.length) :
    Formed ⟨.lineComment, first :: body⟩ tail := by
  obtain ⟨rfl, head⟩ := (isPrefixOf_slash '/' first _).mp slashes
  obtain ⟨passes, stops⟩ := takeWhile_eq_of_length counted
  cases body with
  | nil =>
      rw [List.nil_append] at head
      rw [head] at stops
      cases stops
  | cons second body =>
      obtain rfl := Option.some.inj head
      have member : ['/', '/'] ∈ Line.marks := List.mem_cons_self
      refine .line member (fun member => ?_) stops
      simpa using passes '\n' (List.mem_cons_of_mem _ member)

theorem formed_of_block (opens : ['/', '*'].isPrefixOf (first :: (body ++ tail)) = true)
    (counted : blockReach (body ++ tail).tail + 1 = body.length) :
    Formed ⟨.blockComment, first :: body⟩ tail := by
  obtain ⟨rfl, head⟩ := (isPrefixOf_slash '*' first _).mp opens
  cases body with
  | nil => cases counted
  | cons second inner =>
      obtain rfl := Option.some.inj head
      have reach : blockReach (inner ++ tail) = inner.length := Nat.succ.inj counted
      rcases blockReach_cases (inner ++ tail) with to_end | ⟨inside, rest, split, closed⟩
      · obtain rfl := eq_nil_of_length_append (reach.symm.trans to_end)
        exact .openBlock
      · obtain rfl := List.append_inj_left split (reach.symm.trans closed)
        exact .block

theorem formed_of_quote (counted : stringReach (body ++ tail) = body.length) :
    Formed ⟨.string, '"' :: body⟩ tail := by
  rcases stringReach_cases even_escapes_nil (body ++ tail) with
    to_end | ⟨inside, rest, split, even, closed⟩
  · obtain rfl := eq_nil_of_length_append (counted.symm.trans to_end)
    exact .openString
  · have split : body ++ tail = inside ++ ['"'] ++ rest := by
      rw [split, List.append_assoc, List.singleton_append]
    have length_eq : body.length = (inside ++ ['"']).length := by
      rw [← counted, closed, List.length_append, List.length_singleton]
    obtain rfl := List.append_inj_left split length_eq
    exact .string even

theorem eq_of_isLongest_operator
    (longest : IsLongest operatorTexts (first :: (body ++ tail)) found)
    (counted : found.length - 1 = body.length) : first :: body = found := by
  have nonempty : ∀ text ∈ operators, 0 < text.length := by decide
  have width := nonempty found longest.mem
  obtain ⟨rest, split⟩ := longest.begins
  exact List.append_inj_left split.symm (by rw [List.length_cons]; omega)

/-- What is counted by a rule is formed as the rule says. -/
theorem formed_of_reach (reached : reach vocabulary first (body ++ tail) = (tag, body.length)) :
    Formed ⟨tag, first :: body⟩ tail := by
  rw [reach] at reached
  split at reached
  · rename_i blank
    obtain ⟨rfl, count⟩ := Prod.mk.inj reached
    obtain ⟨passes, stops⟩ := takeWhile_eq_of_length count
    exact .blanks (Bool.and_eq_true_iff.mpr ⟨blank, List.all_eq_true.mpr passes⟩) stops
  split at reached
  · rename_i opens
    obtain ⟨rfl, count⟩ := Prod.mk.inj reached
    rcases opens with rfl | slashes
    · obtain ⟨passes, stops⟩ := takeWhile_eq_of_length count
      have member : ['#'] ∈ Line.marks := .tail _ (.head _)
      exact .line member (fun member => by simpa using passes '\n' member) stops
    · exact formed_of_slashes slashes count
  rename_i no_line
  split at reached
  · rename_i opens
    obtain ⟨rfl, count⟩ := Prod.mk.inj reached
    exact formed_of_block opens count
  rename_i no_block
  split at reached
  · rename_i quote
    obtain ⟨rfl, count⟩ := Prod.mk.inj reached
    rw [quote]
    exact formed_of_quote count
  split at reached
  · rename_i digit
    obtain ⟨rfl, count⟩ := Prod.mk.inj reached
    have longest := isLongest_numberReach digit (body ++ tail)
    rw [count, List.take_left] at longest
    exact .number digit longest
  split at reached
  · rename_i delimits
    obtain ⟨rfl, count⟩ := Prod.mk.inj reached
    obtain rfl := List.length_eq_zero_iff.mp count.symm
    obtain ⟨kind, ⟨rfl, rfl⟩ | ⟨rfl, rfl⟩⟩ := eq_of_delimiterTag? delimits
    · exact .opener
    · exact .closer
  split at reached
  · rename_i found operator
    obtain ⟨rfl, count⟩ := Prod.mk.inj reached
    have longest := isLongest_operator? operator
    obtain rfl := eq_of_isLongest_operator longest count
    refine .operator longest fun mark member begins => ?_
    simp only [List.mem_cons, List.not_mem_nil, or_false] at member
    rcases member with rfl | rfl
    · exact no_line (.inr (List.isPrefixOf_iff_prefix.mpr begins))
    · exact no_block (List.isPrefixOf_iff_prefix.mpr begins)
  split at reached
  · rename_i starts
    obtain ⟨rfl, count⟩ := Prod.mk.inj reached
    obtain ⟨passes, stops⟩ := takeWhile_eq_of_length count
    refine formed_nameTag _ _ ?_ stops
    rw [isName, starts, List.all_eq_true.mpr passes]
    rfl
  · obtain ⟨rfl, count⟩ := Prod.mk.inj reached
    obtain rfl := List.length_eq_zero_iff.mp count.symm
    exact .other

/-- Each lexeme of a text is formed in front of the lexemes after it. -/
theorem formed_of_lex (lexed : lex vocabulary text = left ++ lexeme :: right) :
    Formed lexeme (textOf right) := by
  obtain ⟨first, body, shape, reached, -⟩ := reach_of_lex (lex_right lexed)
  obtain ⟨tag, text⟩ := lexeme
  obtain rfl : text = first :: body := shape
  exact formed_of_reach reached

end Lexeme
end ConfigLexer
