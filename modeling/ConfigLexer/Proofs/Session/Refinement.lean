import ConfigLexer.Proofs.Session.Run

/-!
# Scanning is lexing

The scan of a window reads bytes, tells the end of the window by a zero byte and treats plain
characters on their own.  None of this can be seen in its tokens: they are the lexemes of the
characters in the window, laid out from the start of the window.
-/

namespace ConfigLexer

open Text Lexeme

theorem nameTag_eq_keyword_iff (vocabulary : Vocabulary) (name : List Char) :
    nameTag vocabulary name = .keyword ↔ String.ofList name ∈ vocabulary.words := by
  rw [nameTag, ← vocabulary.contains_iff]
  split
  · simp_all
  · simp_all

/-- Every window that fits is scanned as its characters are lexed, with exact offsets.  A name is a
keyword exactly if it is one of the words. -/
theorem tokensIn_eq_lex (vocabulary : Vocabulary) (source : String) (window : Window)
    (fits : window.Fits source) :
    tokensIn vocabulary source window =
        .ok (layOut window.start.toNat
          (lex vocabulary (slice source window.start.toNat window.stop.toNat).toList)) ∧
      (∀ first lexeme second,
        lex vocabulary (slice source window.start.toNat window.stop.toNat).toList =
          first ++ lexeme :: second →
        ∃ token,
          (layOut window.start.toNat (first ++ lexeme :: second))[first.length]? = some token ∧
          token.tag = lexeme.tag ∧
          token.start.toNat = window.start.toNat + byteCount (textOf first) ∧
          token.stop.toNat = token.start.toNat + byteCount lexeme.text) ∧
      ∀ name, nameTag vocabulary name = .keyword ↔ String.ofList name ∈ vocabulary.words := by
  obtain ⟨before, middle, after, cuts⟩ := fits.cuts
  rw [cuts.slice, String.toList_ofList]
  refine ⟨Session.tokensIn_of_cuts vocabulary cuts, ?_, nameTag_eq_keyword_iff vocabulary⟩
  intro first lexeme second lexed
  have bound := window.stop.toNat_lt_size
  rw [cuts.stop_eq, ← textOf_of_lex lexed, textOf_append, textOf_cons, byteCount_append,
    byteCount_append] at bound
  refine ⟨_, getElem?_layOut _ first second lexeme, rfl, toNat_toUInt32 (by omega), ?_⟩
  dsimp only
  rw [toNat_toUInt32 (by omega), toNat_toUInt32 (by omega)]

/-- A window that starts at a comment with a wide character and ends inside of a keyword. -/
theorem tokensIn_eq_lex_cut_keyword :
    (⟨4, 17⟩ : Window).Fits "x = /*é*/ \"\\\"\" if" ∧
      tokensIn .builtin "x = /*é*/ \"\\\"\" if" ⟨4, 17⟩ =
        .ok [⟨.blockComment, 4, 10⟩, ⟨.whitespace, 10, 11⟩, ⟨.string, 11, 15⟩,
          ⟨.whitespace, 15, 16⟩, ⟨.identifier, 16, 17⟩] := by
  have fits : (⟨4, 17⟩ : Window).Fits "x = /*é*/ \"\\\"\" if" := by decide +kernel
  refine ⟨fits, (tokensIn_eq_lex .builtin _ _ fits).1.trans (congrArg Except.ok ?_)⟩
  decide +kernel

end ConfigLexer
