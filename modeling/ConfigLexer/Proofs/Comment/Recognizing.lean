import ConfigLexer.Proofs.Lexeme.Trivia
import ConfigLexer.Proofs.Session.Joining
import ConfigLexer.Proofs.Session.Neighbours

/-!
# Line comments, told from the line and from its tokens

A line is a line comment if a mark stands behind its spaces and tabs.  The same lines are scanned as
spaces and tabs, if there are any, and one line comment up to the end.  Commenting in takes the mark
and one space from the text of that comment.
-/

namespace ConfigLexer

open Text Lexeme

namespace Line

variable {vocabulary : Vocabulary} {mark rest text : List Char} {line : Line}
variable {lexemes : List Lexeme}

/-! ## Lines -/

theorem head_of_mem_marks {test : Char → Bool} (member : mark ∈ marks)
    (refused : test '/' = false ∧ test '#' = false) (rest : List Char) :
    (mark ++ rest).head?.any test = false := by
  simp only [marks, List.mem_cons, List.not_mem_nil, or_false] at member
  rcases member with rfl | rfl
  · exact refused.1
  · exact refused.2

/-- What is commented in keeps its indentation and loses its mark with one space. -/
theorem exists_uncomment? (commented : line.isComment = true) :
    ∃ mark ∈ marks, ∃ rest, (line.body = mark ++ ' ' :: rest ∨
        line.body = mark ++ rest ∧ rest.head? ≠ some ' ') ∧
      line.uncomment? = some (line.indent ++ rest) := by
  rw [← isSome_uncomment?, Option.isSome_iff_exists] at commented
  obtain ⟨shorter, found⟩ := commented
  obtain ⟨rest, behind, rfl⟩ := Option.map_eq_some_iff.mp found
  obtain ⟨mark, member, shape⟩ := afterMarker?_eq_some_iff.mp behind
  exact ⟨mark, member, rest, shape, found⟩

/-! ## Lexemes -/

theorem lex_mark (vocabulary : Vocabulary) (member : mark ∈ marks) (inside : '\n' ∉ rest) :
    lex vocabulary (mark ++ rest) = [⟨.lineComment, mark ++ rest⟩] := by
  simp only [marks, List.mem_cons, List.not_mem_nil, or_false] at member
  rcases member with rfl | rfl
  · have alone : lex vocabulary ('/' :: '/' :: rest ++ []) = _ := lex_slashes inside rfl
    rwa [List.append_nil, lex_nil] at alone
  · have alone : lex vocabulary ('#' :: rest ++ []) = _ := lex_hash inside rfl
    rwa [List.append_nil, lex_nil] at alone

/-- The lexemes of spaces and tabs in front of something else. -/
def indentation (gap : List Char) : List Lexeme := if gap = [] then [] else [⟨.whitespace, gap⟩]

/-- A line comment is scanned as its indentation and one comment. -/
theorem lex_of_isComment (vocabulary : Vocabulary) (whole : '\n' ∉ line)
    (commented : line.isComment = true) :
    lex vocabulary line = indentation line.indent ++ [⟨.lineComment, line.body⟩] := by
  obtain ⟨mark, member, rest, split⟩ := isComment_iff.mp commented
  have inside : '\n' ∉ rest := fun break_member => whole <| by
    rw [← indent_append_body line, ← split]
    exact List.mem_append_right _ (List.mem_append_right _ break_member)
  have comment := lex_mark vocabulary member inside
  have stops : line.body.head?.any isBlank = false := by
    rw [← split]
    exact head_of_mem_marks member (by decide) rest
  have blank := isBlankText_indent line
  rw [split] at comment
  rw [indentation, ← comment]
  conv => lhs; rw [← indent_append_body line]
  split
  · rename_i none_there
    rw [none_there]
    rfl
  · rename_i some_there
    obtain ⟨first, others, shape⟩ := List.exists_cons_of_ne_nil some_there
    rw [shape] at blank ⊢
    exact lex_blanks blank stops

/-- What is scanned as an indentation and one comment is a line comment. -/
theorem isComment_of_lex (lexed : lex vocabulary line = lexemes ++ [⟨.lineComment, text⟩])
    (indents : ∀ c ∈ textOf lexemes, isIndent c = true) :
    line.isComment = true ∧ line.indent = textOf lexemes ∧ line.body = text := by
  have split : line = textOf lexemes ++ text := by
    rw [← textOf_of_lex lexed, textOf_append, textOf_cons, textOf_nil, List.append_nil]
  obtain ⟨mark, member, rest, rfl⟩ : ∃ mark ∈ marks, ∃ rest, text = mark ++ rest := by
    have formed := formed_of_lex lexed
    cases formed with
    | line member inside stops => exact ⟨_, member, _, rfl⟩
  have stops : (mark ++ rest).head?.any isIndent = false :=
    head_of_mem_marks member (by decide) rest
  have body_eq : line.body = mark ++ rest := by
    rw [split]
    exact dropWhile_run indents stops
  refine ⟨isComment_iff.mpr ⟨mark, member, rest, body_eq.symm⟩, ?_, body_eq⟩
  rw [split]
  exact takeWhile_run indents stops

end Line

/-! ## Tokens -/

/-- A line is scanned as spaces and tabs, if there are any, and a line comment to its end.  The
texts of both are given. -/
inductive CommentScan (line : String) : List Token → String → String → Prop
  /-- There is nothing in front of the comment. -/
  | bare {comment : Token} : comment.tag = .lineComment →
      comment.stop.toNat = line.utf8ByteSize →
      CommentScan line [comment] "" (comment.text line)
  /-- There are spaces and tabs in front of the comment. -/
  | indented {gap comment : Token} : gap.tag = .whitespace →
      (∀ c ∈ (gap.text line).toList, c = ' ' ∨ c = '\t') → comment.tag = .lineComment →
      comment.stop.toNat = line.utf8ByteSize →
      CommentScan line [gap, comment] (gap.text line) (comment.text line)

variable {vocabulary : Vocabulary} {line gap text : String} {scanned : List Token}

namespace CommentScan

theorem fits (scan : CommentScan line scanned gap text) : line.utf8ByteSize < UInt32.size := by
  cases scan with
  | @bare comment _ stop => exact stop ▸ comment.stop.toNat_lt_size
  | @indented _ comment _ _ _ stop => exact stop ▸ comment.stop.toNat_lt_size

theorem lexemes (scan : CommentScan line scanned gap text) :
    ∃ lexemes, scanned.map (Token.lexeme line) = lexemes ++ [⟨.lineComment, text.toList⟩] ∧
      textOf lexemes = gap.toList ∧ ∀ c ∈ gap.toList, Line.isIndent c = true := by
  cases scan with
  | bare comment =>
      refine ⟨[], ?_, rfl, by simp⟩
      rw [List.map_singleton, Token.lexeme, comment]
      rfl
  | @indented blank _ blanks indents comment =>
      refine ⟨[⟨.whitespace, (blank.text line).toList⟩], ?_, by simp, fun c member => ?_⟩
      · rw [List.map_cons, List.map_singleton, Token.lexeme, Token.lexeme, blanks, comment]
        rfl
      · simpa [Line.isIndent] using indents c member

end CommentScan

theorem map_lexeme_tokens (fits : line.utf8ByteSize < UInt32.size) :
    (tokens vocabulary line).map (Token.lexeme line) = lex vocabulary line.toList := by
  rw [tokens_of_size fits]
  exact map_lexeme_of_spells ((Window.whole_cuts_all fits).lex_spells vocabulary)

theorem tokens_tiles (fits : line.utf8ByteSize < UInt32.size) :
    Token.Tiles 0 (tokens vocabulary line) line.utf8ByteSize := by
  have bound : 0 + byteCount line.toList < UInt32.size := by
    rwa [Nat.zero_add, byteCount_toList]
  have tiles := lex_tiles vocabulary bound
  rwa [Nat.zero_add, byteCount_toList, ← tokens_of_size fits] at tiles

/-- What is scanned as a line comment is one, with the same indentation and the same text. -/
theorem CommentScan.isComment (scan : CommentScan line (tokens vocabulary line) gap text) :
    isLineComment line = true ∧ Line.indent line.toList = gap.toList ∧
      Line.body line.toList = text.toList := by
  obtain ⟨lexemes, lexed, gap_text, indents⟩ := scan.lexemes
  rw [map_lexeme_tokens scan.fits] at lexed
  rw [← gap_text] at indents ⊢
  exact Line.isComment_of_lex lexed indents

theorem exists_commentScan (vocabulary : Vocabulary) (whole : '\n' ∉ line.toList)
    (commented : isLineComment line = true) (fits : line.utf8ByteSize < UInt32.size) :
    ∃ gap text, CommentScan line (tokens vocabulary line) gap text := by
  have lexed := Line.lex_of_isComment vocabulary whole commented
  have tiles : Token.Tiles 0 (tokens vocabulary line) line.utf8ByteSize := tokens_tiles fits
  rw [← map_lexeme_tokens fits, Line.indentation] at lexed
  generalize tokens vocabulary line = scanned at lexed tiles ⊢
  split at lexed
  · obtain ⟨comment, rfl, spelled⟩ := List.map_eq_singleton_iff.mp lexed
    have stop : comment.stop.toNat = line.utf8ByteSize := by
      rw [← List.nil_append [comment]] at tiles
      exact tiles.stop_of_concat
    exact ⟨_, _, .bare (congrArg Lexeme.tag spelled) stop⟩
  · obtain ⟨blank, others, rfl, blank_spelled, others_eq⟩ := List.map_eq_cons_iff.mp lexed
    obtain ⟨comment, rfl, spelled⟩ := List.map_eq_singleton_iff.mp others_eq
    have stop : comment.stop.toNat = line.utf8ByteSize := by
      rw [← List.singleton_append] at tiles
      exact tiles.stop_of_concat
    have indent : (blank.text line).toList = Line.indent line.toList :=
      congrArg Lexeme.text blank_spelled
    refine ⟨_, _, .indented (congrArg Lexeme.tag blank_spelled) (fun c member => ?_)
      (congrArg Lexeme.tag spelled) stop⟩
    rw [indent] at member
    simpa [Line.isIndent] using Line.isIndent_of_mem_indent member

/-- A line comment can be told from the line and, unless 32-bit offsets do not reach its end, from
its tokens.  Commenting in takes its mark and one space. -/
theorem isLineComment_iff_scan (vocabulary : Vocabulary) (line : String)
    (whole : '\n' ∉ line.toList) :
    ((uncommentLine? line).isSome = true ↔ isLineComment line = true) ∧
      ((∃ gap text, CommentScan line (tokens vocabulary line) gap text) ↔
        isLineComment line = true ∧ line.utf8ByteSize < UInt32.size) ∧
      ∀ gap text, CommentScan line (tokens vocabulary line) gap text →
        ∃ mark ∈ ["//", "#"], ∃ rest, (text = mark ++ " " ++ rest ∨
            text = mark ++ rest ∧ rest.toList.head? ≠ some ' ') ∧
          uncommentLine? line = some (gap ++ rest) := by
  refine ⟨?_, ⟨fun ⟨gap, text, scan⟩ => ⟨scan.isComment.1, scan.fits⟩, fun ⟨commented, fits⟩ =>
    exists_commentScan vocabulary whole commented fits⟩, fun gap text scan => ?_⟩
  · rw [uncommentLine?, Option.isSome_map, Line.isSome_uncomment?, isLineComment]
  · obtain ⟨commented, indent, body⟩ := scan.isComment
    obtain ⟨mark, member, rest, shape, found⟩ := Line.exists_uncomment? commented
    rw [indent] at found
    rw [body] at shape
    refine ⟨.ofList mark, ?_, .ofList rest, ?_, ?_⟩
    · simp only [Line.marks, List.mem_cons, List.not_mem_nil, or_false] at member
      rcases member with rfl | rfl
      · exact .head _
      · exact .tail _ (.head _)
    · simpa [← String.toList_inj] using shape
    · rw [uncommentLine?, found, Option.map_some, String.ofList_append, String.ofList_toList]

/-- A line comment that is too long for 32-bit offsets is not scanned up to its end. -/
theorem isLineComment_out_of_reach :
    let line := String.ofList ('#' :: filler UInt32.size)
    '\n' ∉ line.toList ∧ isLineComment line = true ∧ (uncommentLine? line).isSome = true ∧
      ¬∃ gap text, CommentScan line (tokenize line) gap text := by
  intro line
  have line_eq : line.toList = '#' :: filler UInt32.size := String.toList_ofList
  have commented : isLineComment line = true := by
    rw [isLineComment, line_eq, Line.isComment_iff]
    exact ⟨['#'], .tail _ (.head _), filler UInt32.size, rfl⟩
  have uncommented : (uncommentLine? line).isSome = true := by
    rw [uncommentLine?, Option.isSome_map, Line.isSome_uncomment?]
    exact commented
  have size : UInt32.size < line.utf8ByteSize := by
    have mark := Char.utf8Size_pos '#'
    rw [← byteCount_toList, line_eq, byteCount_cons, byteCount_filler]
    exact Nat.lt_add_of_pos_left mark
  refine ⟨?_, commented, uncommented, ?_⟩
  · rw [line_eq, List.mem_cons, not_or]
    refine ⟨by decide, fun member => ?_⟩
    cases eq_of_mem_filler member
  · rintro ⟨gap, text, scan⟩
    exact Nat.lt_asymm size scan.fits

/-- A comment with a wide character behind a tab and a space, and one behind a wide blank, which is
no indentation. -/
theorem isLineComment_iff_scan_wide :
    '\n' ∉ "\t //  é/*".toList ∧ '\n' ∉ "\u3000# a".toList ∧
      (∃ gap text, CommentScan "\t //  é/*" (tokenize "\t //  é/*") gap text) ∧
      ¬∃ gap text, CommentScan "\u3000# a" (tokenize "\u3000# a") gap text := by
  have whole : '\n' ∉ "\t //  é/*".toList := by decide +kernel
  have wide_whole : '\n' ∉ "\u3000# a".toList := by decide +kernel
  have scans := (isLineComment_iff_scan .builtin _ whole).2.1.mpr (by decide +kernel)
  have wide_scans := (isLineComment_iff_scan .builtin _ wide_whole).2.1.not.mpr (by decide +kernel)
  exact ⟨whole, wide_whole, scans, wide_scans⟩

end ConfigLexer
