import ConfigLexer.Proofs.Lexeme.Cutting

/-!
# Lexemes of delimiters

No rule but that of delimiters gives the tag of one, and it takes one character.  So the tag of an
opener or a closer tells the text of its lexeme.
-/

namespace ConfigLexer
namespace Lexeme

variable {vocabulary : Vocabulary} {lexeme : Lexeme} {text : List Char} {kind : Delimiter}
variable {first : Char} {rest : List Char}

theorem eq_of_delimiterTag? {tag : Tag} (found : delimiterTag? first = some tag) :
    ∃ kind : Delimiter,
      tag = .opening kind ∧ first = kind.opener ∨ tag = .closing kind ∧ first = kind.closer := by
  unfold delimiterTag? at found
  split_ifs at found
  all_goals
    rename_i same
    obtain rfl := same
    obtain rfl := Option.some.inj found
  · exact ⟨.brace, .inl ⟨rfl, rfl⟩⟩
  · exact ⟨.brace, .inr ⟨rfl, rfl⟩⟩
  · exact ⟨.bracket, .inl ⟨rfl, rfl⟩⟩
  · exact ⟨.bracket, .inr ⟨rfl, rfl⟩⟩
  · exact ⟨.paren, .inl ⟨rfl, rfl⟩⟩
  · exact ⟨.paren, .inr ⟨rfl, rfl⟩⟩

/-- Only delimiters have the tags of delimiters. -/
theorem ruleOf_of_delimiter
    (delimits : (reach vocabulary first rest).1.delimiter?.isSome = true) :
    ∃ tag, delimiterTag? first = some tag ∧ reach vocabulary first rest = (tag, 0) := by
  rw [reach_eq] at delimits ⊢
  cases rule : ruleOf first with
  | delimiter tag => exact ⟨tag, delimiterTag?_of_ruleOf rule, rfl⟩
  | slash =>
      rw [rule, Rule.reach] at delimits
      split_ifs at delimits <;> cases delimits
  | name =>
      rw [rule, Rule.reach, nameTag] at delimits
      split_ifs at delimits <;> cases delimits
  | _ =>
      rw [rule] at delimits
      cases delimits

theorem eq_of_delimiter (member : lexeme ∈ lex vocabulary text)
    (delimits : lexeme.tag.delimiter?.isSome = true) :
    ∃ kind : Delimiter, lexeme = ⟨.opening kind, [kind.opener]⟩ ∨
      lexeme = ⟨.closing kind, [kind.closer]⟩ := by
  obtain ⟨left, right, lexed⟩ := List.append_of_mem member
  obtain ⟨first, body, shape, reached, -⟩ := reach_of_lex (lex_right lexed)
  have tagged : (reach vocabulary first (body ++ textOf right)).1.delimiter?.isSome = true := by
    rw [reached]
    exact delimits
  obtain ⟨tag, found, count⟩ := ruleOf_of_delimiter tagged
  obtain ⟨tag_eq, length_eq⟩ := Prod.mk.inj (reached.symm.trans count)
  obtain rfl := List.length_eq_zero_iff.mp length_eq
  obtain ⟨tag', text'⟩ := lexeme
  obtain rfl : tag' = tag := tag_eq
  obtain rfl : text' = [first] := shape
  obtain ⟨kind, ⟨rfl, rfl⟩ | ⟨rfl, rfl⟩⟩ := eq_of_delimiterTag? found
  · exact ⟨kind, .inl rfl⟩
  · exact ⟨kind, .inr rfl⟩

theorem eq_of_opening (member : lexeme ∈ lex vocabulary text) (opens : lexeme.tag = .opening kind) :
    lexeme = ⟨.opening kind, [kind.opener]⟩ := by
  obtain ⟨_, rfl | rfl⟩ := eq_of_delimiter member (by rw [opens]; rfl)
  · obtain rfl := Tag.opening.inj opens
    rfl
  · cases opens

theorem eq_of_closing (member : lexeme ∈ lex vocabulary text)
    (closes : lexeme.tag = .closing kind) :
    lexeme = ⟨.closing kind, [kind.closer]⟩ := by
  obtain ⟨_, rfl | rfl⟩ := eq_of_delimiter member (by rw [closes]; rfl)
  · cases closes
  · obtain rfl := Tag.closing.inj closes
    rfl

end Lexeme
end ConfigLexer
