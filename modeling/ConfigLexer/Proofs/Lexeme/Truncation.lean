import ConfigLexer.Proofs.Lexeme.Cutting

/-!
# Lexemes that are cut short

A text may end inside of a lexeme.  Every count of the grammar then counts all characters that are
left, so what is left of the lexeme is one lexeme.  Its tag stays the same but for two reasons: a
slash that has lost the rest of its comment is an operator, and what is left of a name is looked up
anew.
-/

namespace ConfigLexer
namespace Lexeme

open OneAhead

/-- A count that a shorter text cuts short: it counts the same characters as far as there are
any. -/
def Truncates (count : List Char → Nat) : Prop :=
  ∀ left right, count left = min (count (left ++ right)) left.length

namespace Truncates

variable {count first second : List Char → Nat}

theorem nil (truncates : Truncates count) : count [] = 0 := by
  have empty := truncates [] []
  rwa [List.length_nil, Nat.min_zero] at empty

theorem of_le {left right : List Char} (truncates : Truncates count)
    (inside : left.length ≤ count (left ++ right)) : count left = left.length := by
  rw [truncates left right, Nat.min_eq_right inside]

theorem zero : Truncates fun _ => 0 := fun _ _ => (Nat.zero_min _).symm

theorem guard (test : Char → Bool) (truncates : Truncates count) :
    Truncates (guarded test count) := by
  intro left right
  cases left with
  | nil => exact (Nat.min_zero _).symm
  | cons c left =>
      rw [List.cons_append, guarded, guarded]
      split
      · rw [truncates left right, List.length_cons, Nat.add_min_add_right]
      · exact (Nat.zero_min _).symm

theorem follow (first_truncates : Truncates first) (second_truncates : Truncates second) :
    Truncates (followed first second) := by
  intro left right
  rw [followed, followed]
  have first_left := first_truncates left right
  rcases Nat.le_total (first (left ++ right)) left.length with inside | past
  · rw [Nat.min_eq_left inside] at first_left
    have second_left := second_truncates (left.drop (first left)) right
    rw [List.length_drop] at second_left
    rw [← first_left] at inside ⊢
    rw [List.drop_append_of_le_length inside]
    omega
  · rw [Nat.min_eq_right past] at first_left
    rw [first_left, List.drop_length, second_truncates.nil]
    omega

theorem takeWhile (test : Char → Bool) : Truncates fun text => (text.takeWhile test).length := by
  intro left right
  induction left with
  | nil => exact (Nat.min_zero _).symm
  | cons c left ih =>
      cases accepted : test c with
      | false => simp [accepted]
      | true =>
          simp only [List.cons_append, List.takeWhile_cons_of_pos accepted, List.length_cons,
            Nat.add_min_add_right, Nat.add_right_cancel_iff] at ih ⊢
          exact ih

end Truncates

theorem lineReach_truncates : Truncates lineReach := .takeWhile (· ≠ '\n')

theorem nameReach_truncates : Truncates nameReach := .takeWhile continuesName

theorem numberReach_truncates : Truncates numberReach := by
  have digits : Truncates digitReach := .takeWhile Text.isDigit
  have mantissa : Truncates mantissaReach := .takeWhile _
  have exponent : Truncates exponentReach := by
    rw [exponentReach_eq]
    exact ((Truncates.zero.guard _).follow digits).guard _
  exact mantissa.follow exponent

theorem inOrderReach_truncates (marks : List Char) : Truncates (inOrderReach marks) := by
  induction marks with
  | nil => exact Truncates.zero
  | cons mark marks ih => exact ih.guard (· == mark)

theorem blockReach_truncates : Truncates blockReach := by
  intro left right
  induction left with
  | nil => exact (Nat.min_zero _).symm
  | cons c left ih =>
      rw [List.cons_append, blockReach_cons, blockReach_cons, List.length_cons]
      cases left with
      | nil =>
          rw [if_neg (by simp)]
          split <;> simp [blockReach]
      | cons d left =>
          rw [List.cons_append, List.head?_cons, List.head?_cons, List.length_cons]
          split
          · omega
          · rw [← List.cons_append, ih, List.length_cons]
            omega

theorem stringReach_truncates : Truncates stringReach := by
  intro left right
  induction left using stringReach.induct with
  | case1 => exact (Nat.min_zero _).symm
  | case2 left => simp
  | case3 =>
      cases right with
      | nil => rfl
      | cons c right => simp [stringReach]
  | case4 c left ih =>
      simp only [List.cons_append, stringReach_escape, List.length_cons]
      omega
  | case5 c left not_quote not_last not_escape ih =>
      have ordinary := ne_escape not_last not_escape
      rw [List.cons_append, stringReach_cons not_quote ordinary,
        stringReach_cons not_quote ordinary, List.length_cons]
      omega

/-- The tag of what is left of a lexeme whose end is cut off. -/
def cutTag (vocabulary : Vocabulary) (begin : List Char) (tag : Tag) : Tag :=
  if tag.isComment ∧ begin = ['/'] then .operator
  else if tag = .identifier ∨ tag = .keyword then
    if String.ofList begin ∈ vocabulary.words then .keyword else .identifier
  else tag

variable {vocabulary : Vocabulary} {first : Char} {left right : List Char}
variable {lexeme : Lexeme} {lexemes : List Lexeme}

theorem nameTag_eq (vocabulary : Vocabulary) (name : List Char) :
    nameTag vocabulary name =
      if String.ofList name ∈ vocabulary.words then .keyword else .identifier := by
  simp only [nameTag, vocabulary.contains_iff]

theorem cutTag_nameTag (vocabulary : Vocabulary) (begin name : List Char) :
    cutTag vocabulary begin (nameTag vocabulary name) = nameTag vocabulary begin := by
  rw [nameTag_eq, nameTag_eq]
  split <;> simp [cutTag, Tag.isComment]

theorem count_truncates (vocabulary : Vocabulary) (first : Char) :
    Truncates fun rest => (reach vocabulary first rest).2 := by
  intro left right
  simp only [reach_eq]
  cases ruleOf first with
  | blanks => exact Truncates.takeWhile Text.isBlank left right
  | hash => exact lineReach_truncates left right
  | slash =>
      cases left with
      | nil => exact (Nat.min_zero _).symm
      | cons c left =>
          simp only [Rule.reach, List.cons_append, List.head?_cons, Option.some.injEq,
            List.tail_cons]
          split_ifs
          · exact lineReach_truncates (c :: left) right
          · rw [blockReach_truncates left right, List.length_cons, Nat.add_min_add_right]
          · exact (Nat.zero_min _).symm
  | quote => exact stringReach_truncates left right
  | digit => exact numberReach_truncates left right
  | operator tail => exact inOrderReach_truncates tail left right
  | name => exact nameReach_truncates left right
  | delimiter | other => exact (Nat.zero_min _).symm

theorem tag_of_cut (cut : left.length < (reach vocabulary first (left ++ right)).2) :
    (reach vocabulary first left).1 =
      cutTag vocabulary (first :: left) (reach vocabulary first (left ++ right)).1 := by
  have all : (reach vocabulary first left).2 = left.length :=
    (count_truncates vocabulary first).of_le (Nat.le_of_lt cut)
  rw [reach_eq] at cut all
  rw [reach_eq, reach_eq]
  cases rule : ruleOf first with
  | hash =>
      have hash : first ≠ '/' := by grind [ruleOf]
      simp [Rule.reach, cutTag, hash]
  | slash =>
      have slash : first = '/' := by grind [ruleOf]
      rw [rule] at cut
      cases left with
      | nil =>
          simp only [Rule.reach, List.nil_append, List.length_nil] at cut ⊢
          split_ifs at cut ⊢ <;> simp_all [cutTag, Tag.isComment]
      | cons c left =>
          simp only [Rule.reach, List.cons_append, List.head?_cons, Option.some.injEq]
          split_ifs <;> simp [cutTag]
  | name =>
      rw [rule] at all
      have whole_name : nameReach left = left.length := all
      rw [Rule.reach, Rule.reach, cutTag_nameTag, whole_name, List.take_length]
  | delimiter | other =>
      rw [rule] at cut
      exact absurd cut (Nat.not_lt_zero _)
  | _ => rfl

/-- If the first lexeme of a text ends in front of a cut, it is the first one of what is in front of
the cut. -/
theorem lex_of_text_append {rest : List Char}
    (lexed : lex vocabulary (lexeme.text ++ rest ++ right) = lexeme :: lexemes) :
    lex vocabulary (lexeme.text ++ rest) = lexeme :: lex vocabulary rest := by
  have tail_eq : rest ++ right = textOf lexemes := by
    have whole := textOf_of_lex lexed
    rw [textOf_cons, List.append_assoc, List.append_cancel_left_eq] at whole
    exact whole.symm
  have starts : StartsAs rest (textOf lexemes) := by
    rw [← tail_eq]
    cases rest with
    | nil => exact .inl rfl
    | cons c rest => exact .inr rfl
  have replaced : lex vocabulary (textOf [lexeme] ++ rest) = [lexeme] ++ lex vocabulary rest :=
    lex_replace lexed starts
  rwa [textOf_cons, textOf_nil, List.append_nil] at replaced

/-- If a cut is inside of the first lexeme of a text, all that is in front of the cut is one
lexeme. -/
theorem lex_of_inside_text (lexed : lex vocabulary (left ++ right) = lexeme :: lexemes)
    (nonempty : left ≠ []) (inside : left.length < lexeme.text.length) :
    lex vocabulary left = [⟨cutTag vocabulary left lexeme.tag, left⟩] := by
  obtain ⟨first, left, rfl⟩ := List.exists_cons_of_ne_nil nonempty
  rw [List.cons_append, lex_cons] at lexed
  obtain ⟨rfl, -⟩ := List.cons.inj lexed
  have cut : left.length < (reach vocabulary first (left ++ right)).2 := by
    rw [List.length_cons, List.length_cons, List.length_take] at inside
    omega
  have all : (reach vocabulary first left).2 = left.length :=
    (count_truncates vocabulary first).of_le (Nat.le_of_lt cut)
  rw [lex_cons, all, List.take_length, List.drop_length, lex_nil, tag_of_cut cut]

theorem cut_first (lexed : lex vocabulary (left ++ right) = lexeme :: lexemes) :
    (∃ rest, left = lexeme.text ++ rest) ∨ ∃ missing ≠ [], lexeme.text = left ++ missing := by
  have text_begins : lexeme.text <+: left ++ right := ⟨textOf lexemes, textOf_of_lex lexed⟩
  rcases List.prefix_or_prefix_of_prefix text_begins (List.prefix_append left right)
    with ⟨rest, joined⟩ | ⟨missing, joined⟩
  · exact .inl ⟨rest, joined.symm⟩
  · rcases eq_or_ne missing [] with rfl | nonempty
    · exact .inl ⟨[], by simpa using joined⟩
    · exact .inr ⟨missing, nonempty, joined.symm⟩

end Lexeme
end ConfigLexer
