import ConfigLexer.Proofs.Lexeme.Forming
import ConfigLexer.Proofs.Session.Partition
import Mathlib.Data.List.Chain

/-!
# Neighbouring tokens

A lexeme ends only where its rule cannot go on, so the one behind it never starts with what would
have made the first one longer.  In particular no run is split in two, and only the last lexeme of a
text can lack its closing mark.
-/

namespace ConfigLexer

open Text Lexeme

namespace Lexeme

variable {vocabulary : Vocabulary} {text tail : List Char} {c : Char}
variable {lexeme next : Lexeme} {left right : List Lexeme}

/-- The operators that one more character makes into a longer operator or a comment, each with that
character. -/
def merging : List (List Char × Char) :=
  [(['='], '='), (['!'], '='), (['<'], '='), (['>'], '='), (['&'], '&'), (['|'], '|'),
    (['.'], '.'), (['.', '.'], '.'), (['/'], '/'), (['/'], '*')]

/-- What holds of a lexeme and the one right behind it. -/
structure Neighbours (lexeme next : Lexeme) : Prop where
  /-- No run of blanks is split. -/
  blanks : lexeme.tag = .whitespace → next.tag ≠ .whitespace
  /-- Nothing behind a name could stand in it. -/
  name : lexeme.tag = .identifier ∨ lexeme.tag = .keyword →
    next.text.head?.any (fun c => isLetter c || isDigit c || c == '_' || c == '-') = false
  /-- No number is split. -/
  number : lexeme.tag = .number → next.tag ≠ .number
  /-- Behind a line comment there is a line break. -/
  line : lexeme.tag = .lineComment → next.tag = .whitespace ∧ next.text.head? = some '\n'
  /-- A string with something behind it has both quotes, the closing one not escaped. -/
  string : lexeme.tag = .string → 2 ≤ byteCount lexeme.text ∧
    ∃ inner, lexeme.text = '"' :: inner ++ ['"'] ∧ Even (escapes inner)
  /-- A block comment with something behind it has both marks. -/
  block : lexeme.tag = .blockComment → 4 ≤ byteCount lexeme.text ∧
    ∃ inner, lexeme.text = '/' :: '*' :: inner ++ ['*', '/']
  /-- What is behind an operator does not make up another one or a comment with it. -/
  operator : lexeme.tag = .operator → ∀ c, next.text.head? = some c →
    (lexeme.text, c) ∉ merging

theorem tag_of_isBlank (lexed : lex vocabulary text = left ++ lexeme :: right)
    (blank : lexeme.text.head?.any isBlank = true) : lexeme.tag = .whitespace := by
  obtain ⟨first, body, shape, reached, -⟩ := reach_of_lex (lex_right lexed)
  have first_blank : isBlank first = true := by rwa [shape] at blank
  rw [reach, if_pos first_blank] at reached
  exact (congrArg Prod.fst reached).symm

namespace Formed

theorem blanks_stop (formed : Formed lexeme tail) (blanks : lexeme.tag = .whitespace) :
    lexeme.text.head?.any isBlank = true ∧ tail.head?.any isBlank = false := by
  cases formed with
  | blanks blank stops => exact ⟨(Bool.and_eq_true_iff.mp blank).1, stops⟩
  | _ => cases blanks

theorem name_stops (formed : Formed lexeme tail)
    (name : lexeme.tag = .identifier ∨ lexeme.tag = .keyword) :
    tail.head?.any continuesName = false := by
  cases formed with
  | keyword is_name stops => exact stops
  | identifier is_name stops => exact stops
  | _ => rcases name with tag | tag <;> cases tag

theorem number_stops (formed : Formed lexeme tail) (number : lexeme.tag = .number) :
    tail.head?.any isDigit = false := by
  cases formed with
  | number digit longest =>
      cases tail with
      | nil => rfl
      | cons c tail =>
          exact eq_false_of_ne_true fun more =>
            longest.not_mem_concat (numbers_concat longest.mem more)
  | _ => cases number

theorem line_stops (formed : Formed lexeme tail) (line : lexeme.tag = .lineComment) :
    tail.head?.any (· ≠ '\n') = false := by
  cases formed with
  | line mark inside stops => exact stops
  | _ => cases line

theorem string_closed (formed : Formed lexeme tail) (string : lexeme.tag = .string)
    (behind : tail ≠ []) :
    ∃ inner, lexeme.text = '"' :: inner ++ ['"'] ∧ Even (escapes inner) := by
  cases formed with
  | string even => exact ⟨_, rfl, even⟩
  | openString => exact absurd rfl behind
  | _ => cases string

theorem block_closed (formed : Formed lexeme tail) (block : lexeme.tag = .blockComment)
    (behind : tail ≠ []) : ∃ inner, lexeme.text = '/' :: '*' :: inner ++ ['*', '/'] := by
  cases formed with
  | block => exact ⟨_, rfl⟩
  | openBlock => exact absurd rfl behind
  | _ => cases block

theorem operator_stops (formed : Formed lexeme (c :: tail)) (operator : lexeme.tag = .operator) :
    (lexeme.text, c) ∉ merging := by
  have merges : ∀ pair ∈ merging, pair.1 ++ [pair.2] ∈ operators ∨
      pair.1 ++ [pair.2] ∈ [['/', '/'], ['/', '*']] := by decide
  cases formed with
  | operator longest no_comment =>
      intro member
      rcases merges _ member with longer | comment
      · exact longest.not_mem_concat longer
      · exact no_comment _ comment ⟨tail, List.append_cons _ c tail ▸ rfl⟩
  | _ => cases operator

end Formed

theorem neighbours_of_lex (lexed : lex vocabulary text = left ++ lexeme :: next :: right) :
    Neighbours lexeme next := by
  have next_lexed : lex vocabulary text = (left ++ [lexeme]) ++ next :: right := by
    rw [lexed, List.append_assoc, List.singleton_append]
  have formed := formed_of_lex lexed
  have next_formed := formed_of_lex next_lexed
  obtain ⟨c, body, shape⟩ : ∃ c body, next.text = c :: body :=
    List.exists_cons_of_ne_nil (text_ne_nil_of_mem_lex
      (next_lexed ▸ List.mem_append_right _ List.mem_cons_self))
  have head : next.text.head? = some c := by rw [shape]; rfl
  rw [textOf_cons, shape, List.cons_append] at formed
  generalize body ++ textOf right = tail at formed
  have behind : c :: tail ≠ [] := List.cons_ne_nil c tail
  constructor
  case blanks =>
    intro blanks next_blanks
    have stops : isBlank c = false := (formed.blanks_stop blanks).2
    have starts := (next_formed.blanks_stop next_blanks).1
    rw [head, Option.any_some, stops] at starts
    cases starts
  case name =>
    intro name
    have stops : continuesName c = false := formed.name_stops name
    simp only [continuesName, startsName, Bool.or_eq_false_iff] at stops
    rw [head, Option.any_some]
    simp [stops]
  case number =>
    intro number next_number
    have stops : isDigit c = false := formed.number_stops number
    have starts := next_formed.digit_starts next_number
    rw [head, Option.any_some, stops] at starts
    cases starts
  case line =>
    intro line
    have line_break : c = '\n' := by simpa using formed.line_stops line
    have blank : next.text.head?.any isBlank = true := by
      rw [head, line_break]
      rfl
    exact ⟨tag_of_isBlank next_lexed blank, by rw [head, line_break]⟩
  case string =>
    intro string
    obtain ⟨inner, closed, even⟩ := formed.string_closed string behind
    refine ⟨?_, inner, closed, even⟩
    rw [closed]
    exact Nat.le_trans (by simp) (length_le_byteCount _)
  case block =>
    intro block
    obtain ⟨inner, closed⟩ := formed.block_closed block behind
    refine ⟨?_, inner, closed⟩
    rw [closed]
    exact Nat.le_trans (by simp) (length_le_byteCount _)
  case operator =>
    intro operator d next_head
    obtain rfl := Option.some.inj (head.symm.trans next_head)
    exact formed.operator_stops operator

theorem isChain_lex (vocabulary : Vocabulary) (text : List Char) :
    (lex vocabulary text).IsChain Neighbours := by
  rw [List.isChain_iff_forall_rel_of_append_cons_cons]
  intro lexeme next left right lexed
  exact neighbours_of_lex lexed

end Lexeme

/-! ## Tokens -/

/-- The tag and the characters of a token. -/
def Token.lexeme (source : String) (token : Token) : Lexeme :=
  ⟨token.tag, (token.text source).toList⟩

variable {source : String} {token : Token} {lexeme : Lexeme} {tokens : List Token}
variable {lexemes : List Lexeme}

theorem Lexeme.Spells.lexeme_eq (spells : Spells source token lexeme) :
    token.lexeme source = lexeme := by
  rw [Token.lexeme, spells.tag, spells.text, String.toList_ofList]

theorem map_lexeme_of_spells (spells : List.Forall₂ (Spells source) tokens lexemes) :
    tokens.map (Token.lexeme source) = lexemes := by
  induction spells with
  | nil => rfl
  | cons first _ ih => rw [List.map_cons, first.lexeme_eq, ih]

theorem Lexeme.Spells.size (spells : Spells source token lexeme) :
    token.size.toNat = (token.text source).utf8ByteSize := by
  obtain ⟨before, after, cuts⟩ := spells.cuts
  have stop : token.stop.toNat = token.start.toNat + byteCount lexeme.text := cuts.stop_eq
  have ordered : token.start ≤ token.stop := cuts.fits.ordered
  rw [Token.size, UInt32.toNat_sub_of_le _ _ ordered, stop, Nat.add_sub_cancel_left, spells.text,
    byteCount]

/-- Every two neighbouring tokens are cut as late as they can be: no run, name, number, line comment
or operator goes on, and what can be closed is closed. -/
theorem tokensIn_neighbours (vocabulary : Vocabulary) (source : String) (window : Window)
    (scanned : List Token) (found : tokensIn vocabulary source window = .ok scanned) :
    (scanned.IsChain fun token next => Neighbours (token.lexeme source) (next.lexeme source)) ∧
      ∀ token ∈ scanned, token.size.toNat = (token.text source).utf8ByteSize := by
  obtain ⟨before, middle, after, cuts⟩ := (Session.fits_of_tokensIn found).cuts
  have spells := cuts.lex_spells vocabulary
  rw [Session.tokensIn_of_cuts vocabulary cuts] at found
  obtain rfl := Except.ok.inj found
  constructor
  · have chain := isChain_lex vocabulary middle
    rw [← map_lexeme_of_spells spells, List.isChain_map] at chain
    exact chain
  · intro token member
    obtain ⟨lexeme, -, spelled⟩ := exists_spelled spells member
    exact spelled.size

/-- A closed string with an escaped quote and a wide character, and an open one at the end. -/
theorem tokensIn_neighbours_open_string :
    tokensIn .builtin "a=\"é\\\"\"\"b" ⟨1, 10⟩ =
        .ok [⟨.operator, 1, 2⟩, ⟨.string, 2, 8⟩, ⟨.string, 8, 10⟩] ∧
      Neighbours ⟨.operator, ['=']⟩ ⟨.string, "\"é\\\"\"".toList⟩ ∧
      Neighbours ⟨.string, "\"é\\\"\"".toList⟩ ⟨.string, "\"b".toList⟩ := by
  have found : tokensIn .builtin "a=\"é\\\"\"\"b" ⟨1, 10⟩ =
      .ok [⟨.operator, 1, 2⟩, ⟨.string, 2, 8⟩, ⟨.string, 8, 10⟩] := by decide +kernel
  obtain ⟨chain, -⟩ := tokensIn_neighbours .builtin _ _ _ found
  obtain ⟨first, others⟩ := List.isChain_cons_cons.mp chain
  obtain ⟨second, -⟩ := List.isChain_cons_cons.mp others
  have operator : (⟨.operator, 1, 2⟩ : Token).lexeme "a=\"é\\\"\"\"b" =
      ⟨.operator, ['=']⟩ := by decide +kernel
  have closed : (⟨.string, 2, 8⟩ : Token).lexeme "a=\"é\\\"\"\"b" =
      ⟨.string, "\"é\\\"\"".toList⟩ := by decide +kernel
  have unclosed : (⟨.string, 8, 10⟩ : Token).lexeme "a=\"é\\\"\"\"b" =
      ⟨.string, "\"b".toList⟩ := by decide +kernel
  rw [operator, closed] at first
  rw [closed, unclosed] at second
  exact ⟨found, first, second⟩

end ConfigLexer
