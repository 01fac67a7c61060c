import ConfigLexer.Proofs.Lexeme.Forming
import ConfigLexer.Proofs.Session.Partition

/-!
# Where a number starts and ends

What starts with a digit of any script is a number, and nothing else is.  Its token holds the
longest number that there is in the window from there.
-/

namespace ConfigLexer

open Text Lexeme

namespace Lexeme

variable {first : Char} {rest : List Char}

theorem ruleOf_of_isDigit (digit : isDigit first = true) : ruleOf first = .digit := by
  have not_blank : isBlank first = false := CharSet.contains_of_isApart (by decide +kernel) digit
  have ne (mark : Char) (no_digit : isDigit mark = false) : first ≠ mark := by
    rintro rfl
    simp [digit] at no_digit
  rw [ruleOf, not_blank, digit, if_neg (ne '#' (by decide +kernel)),
    if_neg (ne '/' (by decide +kernel)), if_neg (ne '"' (by decide +kernel))]
  rfl

theorem lex_of_isDigit (vocabulary : Vocabulary) (digit : isDigit first = true)
    (rest : List Char) :
    lex vocabulary (first :: rest) =
      ⟨.number, first :: rest.take (numberReach rest)⟩ ::
        lex vocabulary (rest.drop (numberReach rest)) := by
  have reached : reach vocabulary first rest = (.number, numberReach rest) := by
    rw [reach_eq, ruleOf_of_isDigit digit]
    rfl
  rw [lex_cons, reached]

end Lexeme

variable {vocabulary : Vocabulary} {source : String} {window : Window} {token : Token}
variable {before middle after : List Char} {lexeme : Lexeme} {lexemes : List Lexeme}

/-- The token at the start of a window spells the first lexeme of the window. -/
theorem exists_tokenAt_spells (cuts : window.Cuts source before middle after)
    (lexed : lex vocabulary middle = lexeme :: lexemes) :
    ∃ token, tokenAt vocabulary source window.stop window.start = .ok token ∧
      token.start = window.start ∧ Spells source token lexeme := by
  have spells := cuts.lex_spells vocabulary
  have found := Session.tokenAt_of_cuts vocabulary cuts
  rw [lexed, layOut] at spells found
  exact ⟨_, found, UInt32.ofNat_toNat, (List.forall₂_cons.mp spells).1⟩

theorem exists_lexeme_of_tokenAt (cuts : window.Cuts source before middle after)
    (found : tokenAt vocabulary source window.stop window.start = .ok token)
    (tag_ne : token.tag ≠ .endOfInput) :
    ∃ lexeme ∈ lex vocabulary middle, token.start = window.start ∧ Spells source token lexeme := by
  cases lexed : lex vocabulary middle with
  | nil =>
      rw [Session.tokenAt_of_cuts vocabulary cuts, lexed] at found
      obtain rfl := Except.ok.inj found
      exact absurd rfl tag_ne
  | cons lexeme lexemes =>
      obtain ⟨other, other_found, start, spells⟩ := exists_tokenAt_spells cuts lexed
      obtain rfl := Except.ok.inj (found.symm.trans other_found)
      exact ⟨lexeme, List.mem_cons_self, start, spells⟩

theorem Lexeme.Spells.charAt? (spells : Spells source token lexeme) (nonempty : lexeme.text ≠ []) :
    Text.charAt? source token.start.toNat = lexeme.text.head? := by
  obtain ⟨before, after, cuts⟩ := spells.cuts
  have split : source.toList = before ++ (lexeme.text ++ after) := by
    rw [cuts.text, List.append_assoc]
  have start : token.start.toNat = byteCount before := cuts.start
  rw [start, charAt?_of_split split, List.head?_append_of_ne_nil _ nonempty]

theorem Lexeme.Spells.isDigit_of_number (spells : Spells source token lexeme)
    (member : lexeme ∈ lex vocabulary middle) (number : token.tag = .number) :
    (Text.charAt? source token.start.toNat).any isDigit = true := by
  obtain ⟨left, right, lexed⟩ := List.append_of_mem member
  rw [spells.charAt? (text_ne_nil_of_mem_lex member)]
  exact (formed_of_lex lexed).digit_starts (spells.tag.symm.trans number)

/-- What starts with a decimal digit of any script is the longest number at the start of what the
window shows from there.  Nothing else is a number. -/
theorem tokenAt_number (vocabulary : Vocabulary) (source : String) (window : Window)
    (fits : window.Fits source) :
    (window.start < window.stop → (charAt? source window.start.toNat).any isDigit = true →
      ∃ token, tokenAt vocabulary source window.stop window.start = .ok token ∧
        token.tag = .number ∧ token.start = window.start ∧
        IsLongest numbers (slice source window.start.toNat window.stop.toNat).toList
          (token.text source).toList) ∧
    (∀ token, tokenAt vocabulary source window.stop window.start = .ok token →
      token.tag = .number →
      window.start < window.stop ∧ (charAt? source window.start.toNat).any isDigit = true) ∧
    ∀ scanned, tokensIn vocabulary source window = .ok scanned →
      ∀ token ∈ scanned, token.tag = .number →
        (charAt? source token.start.toNat).any isDigit = true := by
  obtain ⟨before, middle, after, cuts⟩ := fits.cuts
  refine ⟨fun nonempty digit => ?_, fun token found number => ?_,
    fun scanned found token member number => ?_⟩
  · rw [UInt32.lt_iff_toNat_lt, cuts.stop_eq] at nonempty
    rw [cuts.start, charAt?_of_split (cuts.text.trans (List.append_assoc _ _ _))] at digit
    cases middle with
    | nil => simp at nonempty
    | cons first rest =>
        have digit : isDigit first = true := digit
        obtain ⟨token, found, start, spells⟩ :=
          exists_tokenAt_spells cuts (lex_of_isDigit vocabulary digit rest)
        refine ⟨token, found, spells.tag, start, ?_⟩
        rw [cuts.slice, spells.text, String.toList_ofList, String.toList_ofList]
        exact isLongest_numberReach digit rest
  · obtain ⟨lexeme, member, start, spells⟩ :=
      exists_lexeme_of_tokenAt cuts found (by rw [number]; decide)
    have width : 0 < byteCount middle := by
      rw [Nat.pos_iff_ne_zero, ne_eq, byteCount_eq_zero_iff]
      rintro rfl
      rw [lex_nil] at member
      cases member
    rw [← start, spells.isDigit_of_number member number, start, UInt32.lt_iff_toNat_lt,
      cuts.stop_eq]
    exact ⟨Nat.lt_add_of_pos_right width, rfl⟩
  · rw [Session.tokensIn_of_cuts vocabulary cuts] at found
    obtain rfl := Except.ok.inj found
    obtain ⟨lexeme, lexeme_member, spells⟩ := exists_spelled (cuts.lex_spells vocabulary) member
    exact spells.isDigit_of_number lexeme_member number

/-- A wide digit, a point and an exponent whose digits are cut off by the window. -/
theorem tokenAt_number_cut_exponent :
    (⟨1, 7⟩ : Window).Fits "x٣.5e+٧" ∧ slice "x٣.5e+٧" 1 7 = "٣.5e+" ∧
      ∃ token, tokenAt .builtin "x٣.5e+٧" 7 1 = .ok token ∧ token.tag = .number ∧
        token.start = 1 ∧ IsLongest numbers "٣.5e+".toList (token.text "x٣.5e+٧").toList := by
  have fits : (⟨1, 7⟩ : Window).Fits "x٣.5e+٧" := by decide +kernel
  have shown : slice "x٣.5e+٧" 1 7 = "٣.5e+" := by decide +kernel
  obtain ⟨token, found, tag, start, longest⟩ :=
    (tokenAt_number .builtin _ ⟨1, 7⟩ fits).1 (by decide) (by decide +kernel)
  have window_text : slice "x٣.5e+٧" (1 : UInt32).toNat (7 : UInt32).toNat = "٣.5e+" := shown
  rw [window_text] at longest
  exact ⟨fits, shown, token, found, tag, start, longest⟩

end ConfigLexer
