import ConfigLexer.Proofs.Lexeme.Truncation
import ConfigLexer.Proofs.Session.Run

/-!
# Tokens in a shorter window

Where a window ends inside of a token, what is left of the token is one token, and where it ends
behind the token, the token stays as it is.  So no window makes a token longer than a wider window
does, and none breaks the beginning of a token in two.
-/

namespace ConfigLexer

open Text Lexeme

variable {vocabulary : Vocabulary} {source : String} {window : Window} {cut : UInt32}
variable {before middle after left right : List Char} {lexeme : Lexeme} {lexemes : List Lexeme}

/-- What is left of a token in a window that ends earlier. -/
structure Token.CutShort (vocabulary : Vocabulary) (source : String) (cut : UInt32)
    (whole part : Token) : Prop where
  /-- The part starts where the token does. -/
  start : part.start = whole.start
  /-- The part ends where the token does, or at the end of the window. -/
  stop : part.stop = min whole.stop cut
  /-- A token that is not cut stays as it is. -/
  kept : whole.stop ≤ cut → part = whole
  /-- The tag stays the same but for a comment that is cut down to a slash, which is an operator,
  and for a name, which is looked up anew. -/
  tag : cut < whole.stop →
    part.tag = cutTag vocabulary (slice source whole.start.toNat cut.toNat).toList whole.tag
  /-- All that is in the window is one token. -/
  alone : cut ≤ whole.stop → tokensIn vocabulary source ⟨whole.start, cut⟩ = .ok [part]

/-- Where the end of the window is behind the token, the token is kept. -/
theorem Token.CutShort.of_behind {whole : Token} (behind : whole.stop ≤ cut)
    (alone : cut ≤ whole.stop → tokensIn vocabulary source ⟨whole.start, cut⟩ = .ok [whole]) :
    CutShort vocabulary source cut whole whole where
  start := rfl
  stop := (if_pos behind).symm
  kept _ := rfl
  tag inside := absurd behind (UInt32.not_le.mpr inside)
  alone := alone

/-- Where the end of the window is inside of the token, the part is all that is in the window. -/
theorem Token.CutShort.of_inside {whole : Token} {tag : Tag} (inside : cut < whole.stop)
    (tag_eq : tag = cutTag vocabulary (slice source whole.start.toNat cut.toNat).toList whole.tag)
    (alone : tokensIn vocabulary source ⟨whole.start, cut⟩ = .ok [⟨tag, whole.start, cut⟩]) :
    CutShort vocabulary source cut whole ⟨tag, whole.start, cut⟩ where
  start := rfl
  stop := (if_neg (UInt32.not_le.mpr inside)).symm
  kept behind := absurd behind (UInt32.not_le.mpr inside)
  tag _ := tag_eq
  alone _ := alone

theorem cutShort_of_text_append {rest : List Char}
    (cuts : window.Cuts source before (lexeme.text ++ rest ++ right) after)
    (place : cut.toNat = window.start.toNat + byteCount (lexeme.text ++ rest))
    (lexed : lex vocabulary (lexeme.text ++ rest ++ right) = lexeme :: lexemes) :
    ∃ part, tokenAt vocabulary source cut window.start = .ok part ∧
      Token.CutShort vocabulary source cut ⟨lexeme.tag, window.start,
        (window.start.toNat + byteCount lexeme.text).toUInt32⟩ part := by
  have cut_cuts := (cuts.split place).1
  have whole_stop := Session.toNat_stop_of_lex cuts lexed
  have part_lexed := lex_of_text_append lexed
  refine ⟨_, Session.tokenAt_of_lex cut_cuts part_lexed, .of_behind ?_ fun not_behind => ?_⟩
  · rw [UInt32.le_iff_toNat_le, whole_stop, place, byteCount_append]
    omega
  · rw [UInt32.le_iff_toNat_le, whole_stop, place, byteCount_append] at not_behind
    obtain rfl : rest = [] := byteCount_eq_zero_iff.mp (by omega)
    rw [lex_nil] at part_lexed
    exact Session.tokensIn_of_lex_singleton cut_cuts part_lexed

theorem cutShort_of_inside_text {missing : List Char}
    (cuts : window.Cuts source before (left ++ right) after)
    (place : cut.toNat = window.start.toNat + byteCount left)
    (lexed : lex vocabulary (left ++ right) = lexeme :: lexemes) (left_nonempty : left ≠ [])
    (missing_nonempty : missing ≠ []) (text_eq : lexeme.text = left ++ missing) :
    ∃ part, tokenAt vocabulary source cut window.start = .ok part ∧
      Token.CutShort vocabulary source cut ⟨lexeme.tag, window.start,
        (window.start.toNat + byteCount lexeme.text).toUInt32⟩ part := by
  have cut_cuts := (cuts.split place).1
  have shorter : left.length < lexeme.text.length := by
    have missing_length := List.length_pos_iff.mpr missing_nonempty
    rw [text_eq, List.length_append]
    omega
  have part_lexed := lex_of_inside_text lexed left_nonempty shorter
  have part_found := Session.tokenAt_of_lex cut_cuts part_lexed
  have alone := Session.tokensIn_of_lex_singleton cut_cuts part_lexed
  have part_stop : (window.start.toNat + byteCount left).toUInt32 = cut := by
    rw [← place]
    exact UInt32.ofNat_toNat
  dsimp only at part_found alone
  rw [part_stop] at part_found alone
  refine ⟨_, part_found, .of_inside ?_ ?_ alone⟩
  · have missing_size := Nat.pos_of_ne_zero (byteCount_eq_zero_iff.not.mpr missing_nonempty)
    rw [UInt32.lt_iff_toNat_lt, Session.toNat_stop_of_lex cuts lexed, place, text_eq,
      byteCount_append]
    omega
  · have text : slice source window.start.toNat cut.toNat = String.ofList left := cut_cuts.slice
    rw [text, String.toList_ofList]

/-- A window that ends earlier cuts the token at its start short and does nothing else to it. -/
theorem tokenAt_cutShort (vocabulary : Vocabulary) (source : String) (window : Window)
    (cut : UInt32) (fits : window.Fits source) (boundary : isBoundary source cut.toNat = true)
    (behind : window.start < cut) (inside : cut ≤ window.stop) :
    ∃ whole part,
      tokenAt vocabulary source window.stop window.start = .ok whole ∧
      tokenAt vocabulary source cut window.start = .ok part ∧
      whole.start = window.start ∧
      whole.CutShort vocabulary source cut part := by
  obtain ⟨before, middle, after, cuts⟩ := fits.cuts
  obtain ⟨left, right, rfl, place⟩ :=
    cuts.exists_split boundary (UInt32.le_of_lt behind) inside
  have left_nonempty : left ≠ [] := by
    rintro rfl
    rw [UInt32.lt_iff_toNat_lt, place, byteCount_nil] at behind
    exact absurd behind (Nat.lt_irrefl _)
  cases lexed : lex vocabulary (left ++ right) with
  | nil =>
      have empty := textOf_of_lex lexed
      simp [left_nonempty] at empty
  | cons lexeme lexemes =>
      have whole_found := Session.tokenAt_of_lex cuts lexed
      rcases cut_first lexed with ⟨rest, rfl⟩ | ⟨missing, missing_nonempty, text_eq⟩
      · obtain ⟨part, part_found, short⟩ := cutShort_of_text_append cuts place lexed
        exact ⟨_, part, whole_found, part_found, rfl, short⟩
      · obtain ⟨part, part_found, short⟩ :=
          cutShort_of_inside_text cuts place lexed left_nonempty missing_nonempty text_eq
        exact ⟨_, part, whole_found, part_found, rfl, short⟩

/-- A comment with a wide character is cut down to its first slash. -/
theorem tokenAt_cutShort_slash :
    (⟨2, 6⟩ : Window).Fits "x //é" ∧
      tokenAt .builtin "x //é" 6 2 = .ok ⟨.lineComment, 2, 6⟩ ∧
      tokenAt .builtin "x //é" 3 2 = .ok ⟨.operator, 2, 3⟩ ∧
      tokensIn .builtin "x //é" ⟨2, 3⟩ = .ok [⟨.operator, 2, 3⟩] := by
  have fits : (⟨2, 6⟩ : Window).Fits "x //é" := by decide +kernel
  have cuts : (⟨2, 6⟩ : Window).Cuts "x //é" ['x', ' '] ['/', '/', 'é'] [] :=
    ⟨by decide +kernel, by decide +kernel, by decide +kernel⟩
  have known : tokenAt .builtin "x //é" 6 2 = .ok ⟨.lineComment, 2, 6⟩ :=
    (Session.tokenAt_of_cuts .builtin cuts).trans (congrArg Except.ok (by decide +kernel))
  obtain ⟨whole, part, whole_found, part_found, -, short⟩ :=
    tokenAt_cutShort .builtin _ _ 3 fits (by decide +kernel) (by decide) (by decide)
  obtain rfl := Except.ok.inj (known.symm.trans whole_found)
  obtain ⟨tag, start, stop⟩ := part
  obtain rfl : tag = .operator := (short.tag (by decide)).trans (by decide +kernel)
  obtain rfl : start = 2 := short.start
  obtain rfl : stop = 3 := short.stop.trans (by decide)
  exact ⟨fits, known, part_found, short.alone (by decide)⟩

end ConfigLexer
