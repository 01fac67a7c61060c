import ConfigLexer.Fold
import ConfigLexer.Proofs.Comment.Marking
import ConfigLexer.Proofs.Lexeme.Trivia
import ConfigLexer.Proofs.Matching.Nesting
import ConfigLexer.Proofs.Session.Partition

/-!
# Lines that are commented out

Commented out, lines hold no code: whatever is in them, they are scanned as blanks and as one line
comment for each line that is not blank, from its mark to the end of the line.  So there is nothing
in them to match and nothing to fold.
-/

namespace ConfigLexer

open Text Lexeme

variable {vocabulary : Vocabulary} {rest body gap : List Char} {line : Line} {lines : List Line}
variable {offset : Nat} {spans : List (Nat × Nat)}

namespace Lexeme

/-- The text is muted, and these are the places of its comments if it stands at an offset. -/
structure Mutes (vocabulary : Vocabulary) (offset : Nat) (text : List Char)
    (spans : List (Nat × Nat)) : Prop where
  /-- All lexemes of the text are muted. -/
  muted : ∀ lexeme ∈ lex vocabulary text, Muted lexeme
  /-- The comments among them are in these places. -/
  spans : commentSpans offset (lex vocabulary text) = spans

namespace Mutes

theorem nil (vocabulary : Vocabulary) (offset : Nat) : Mutes vocabulary offset [] [] := by
  constructor <;> rw [lex_nil]
  · simp
  · rfl

theorem blanks (blank : isBlankText gap = true) (stops : rest.head?.any isBlank = false)
    (mutes : Mutes vocabulary (offset + byteCount gap) rest spans) :
    Mutes vocabulary offset (gap ++ rest) spans := by
  cases gap with
  | nil => exact mutes
  | cons first gap =>
      constructor <;> rw [lex_blanks blank stops]
      · exact List.forall_mem_cons.mpr ⟨.blanks (List.cons_ne_nil _ _) blank, mutes.muted⟩
      · exact mutes.spans

theorem hash (inside : '\n' ∉ body) (stops : rest.head?.any (· ≠ '\n') = false)
    (mutes : Mutes vocabulary (offset + byteCount ('#' :: body)) rest spans) :
    Mutes vocabulary offset ('#' :: body ++ rest)
      ((offset, offset + byteCount ('#' :: body)) :: spans) := by
  constructor <;> rw [lex_hash inside stops]
  · exact List.forall_mem_cons.mpr ⟨.hash inside, mutes.muted⟩
  · rw [commentSpans, mutes.spans]
    rfl

end Mutes
end Lexeme

namespace Line

/-- The places of the comments in lines that are commented out and joined from an offset on, each
from behind its indentation to its end. -/
def commentSpans : Nat → List Line → List (Nat × Nat)
  | _, [] => []
  | offset, line :: lines =>
      let stop := offset + byteCount line.comment
      if isBlankText line then commentSpans (stop + 1) lines
      else (offset + byteCount line.indent, stop) :: commentSpans (stop + 1) lines

/-- Lines that are commented out and joined by line breaks. -/
def commentedOut (lines : List Line) : List Char := ['\n'].intercalate (lines.map comment)

theorem commentedOut_singleton (line : Line) : commentedOut [line] = line.comment :=
  List.intercalate_singleton

theorem commentedOut_cons_cons (line next : Line) (lines : List Line) :
    commentedOut (line :: next :: lines) =
      line.comment ++ '\n' :: commentedOut (next :: lines) := by
  rw [commentedOut, List.map_cons, List.map_cons, List.intercalate_cons_cons, List.append_assoc]
  rfl

/-- A line that is commented out between blanks and a line break is muted, if what follows is. -/
theorem mutes_comment (written : isBlankText line = false) (whole : '\n' ∉ line)
    (blank : isBlankText gap = true) (stops : rest.head?.any (· ≠ '\n') = false)
    (mutes : Mutes vocabulary (offset + byteCount gap + byteCount line.comment) rest spans) :
    Mutes vocabulary offset (gap ++ (line.comment ++ rest))
      ((offset + byteCount gap + byteCount line.indent,
        offset + byteCount gap + byteCount line.comment) :: spans) := by
  have inside : '\n' ∉ ' ' :: line.body := by
    rw [List.mem_cons, not_or]
    refine ⟨by decide, fun member => whole ?_⟩
    rw [← indent_append_body line]
    exact List.mem_append_right _ member
  have all_blank : isBlankText (gap ++ line.indent) = true := by
    rw [isBlankText, List.all_append, Bool.and_eq_true_iff]
    exact ⟨blank, isBlankText_indent line⟩
  have size : offset + byteCount gap + byteCount line.comment =
      offset + byteCount (gap ++ line.indent) + byteCount ('#' :: ' ' :: line.body) := by
    rw [comment_of_not_blank written, byteCount_append, byteCount_append]
    omega
  have text : gap ++ (line.comment ++ rest) =
      (gap ++ line.indent) ++ ('#' :: (' ' :: line.body) ++ rest) := by
    simp [comment_of_not_blank written]
  have start : offset + byteCount gap + byteCount line.indent =
      offset + byteCount (gap ++ line.indent) := by
    rw [byteCount_append, Nat.add_assoc]
  rw [size] at mutes ⊢
  rw [text, start]
  exact (mutes.hash inside stops).blanks all_blank rfl

/-- Lines that are commented out are muted, also behind blanks. -/
theorem mutes_commentedOut (vocabulary : Vocabulary)
    (whole : ∀ other ∈ line :: lines, '\n' ∉ other) (blank : isBlankText gap = true)
    (offset : Nat) :
    Mutes vocabulary offset (gap ++ commentedOut (line :: lines))
      (commentSpans (offset + byteCount gap) (line :: lines)) := by
  induction lines generalizing line gap offset with
  | nil =>
      rw [commentedOut_singleton, commentSpans]
      cases written : isBlankText line with
      | true =>
          have all_blank : isBlankText (gap ++ line) = true := by
            rw [isBlankText, List.all_append, Bool.and_eq_true_iff]
            exact ⟨blank, written⟩
          have muted : Mutes vocabulary offset (gap ++ line ++ []) [] :=
            (Mutes.nil vocabulary _).blanks all_blank rfl
          rw [comment_of_blank written]
          rwa [List.append_nil] at muted
      | false =>
          have muted : Mutes vocabulary offset (gap ++ (line.comment ++ [])) _ :=
            mutes_comment written (whole line List.mem_cons_self) blank rfl
              (Mutes.nil vocabulary _)
          rwa [List.append_nil] at muted
  | cons next lines ih =>
      have others := fun other member => whole other (List.mem_cons_of_mem _ member)
      rw [commentedOut_cons_cons, commentSpans]
      cases written : isBlankText line with
      | true =>
          have all_blank : isBlankText (gap ++ line ++ ['\n']) = true := by
            rw [isBlankText, List.all_append, List.all_append, Bool.and_eq_true_iff,
              Bool.and_eq_true_iff]
            exact ⟨⟨blank, written⟩, rfl⟩
          have muted := ih others all_blank offset
          have text : gap ++ line ++ ['\n'] ++ commentedOut (next :: lines) =
              gap ++ (line.comment ++ '\n' :: commentedOut (next :: lines)) := by
            simp [comment_of_blank written]
          have start : offset + byteCount (gap ++ line ++ ['\n']) =
              offset + byteCount gap + byteCount line.comment + 1 := by
            rw [byteCount_append, byteCount_append, comment_of_blank written, Nat.add_assoc,
              Nat.add_assoc, Nat.add_assoc]
            rfl
          rwa [text, start] at muted
      | false =>
          have muted : Mutes vocabulary _ (['\n'] ++ commentedOut (next :: lines)) _ :=
            ih others rfl (offset + byteCount gap + byteCount line.comment)
          exact mutes_comment written (whole line List.mem_cons_self) blank rfl muted

theorem mutes_commentedOut_all (vocabulary : Vocabulary) (whole : ∀ line ∈ lines, '\n' ∉ line) :
    Mutes vocabulary 0 (commentedOut lines) (commentSpans 0 lines) := by
  cases lines with
  | nil => exact .nil vocabulary 0
  | cons line lines =>
      have muted : Mutes vocabulary 0 ([] ++ commentedOut (line :: lines)) _ :=
        mutes_commentedOut vocabulary whole rfl 0
      exact muted

end Line

/-! ## Tokens -/

namespace Token

/-- The offsets of a token. -/
def bounds (token : Token) : Nat × Nat := (token.start.toNat, token.stop.toNat)

end Token

/-- The line comments among tokens. -/
def lineComments (tokens : List Token) : List Token :=
  tokens.filter fun token => token.tag = .lineComment

theorem bounds_lineComments_layOut {lexemes : List Lexeme}
    (fits : offset + byteCount (textOf lexemes) < UInt32.size) :
    (lineComments (layOut offset lexemes)).map Token.bounds =
      Lexeme.commentSpans offset lexemes := by
  induction lexemes generalizing offset with
  | nil => rfl
  | cons lexeme lexemes ih =>
      rw [textOf_cons, byteCount_append, ← Nat.add_assoc] at fits
      rw [lineComments, layOut, Lexeme.commentSpans, List.filter_cons, ← lineComments]
      dsimp only
      split
      · rename_i comment
        rw [if_pos (of_decide_eq_true comment), List.map_cons, ih fits, Token.bounds,
          toNat_toUInt32 (by omega), toNat_toUInt32 (by omega)]
      · rename_i other
        rw [if_neg (of_decide_eq_false (eq_false_of_ne_true other)), ih fits]

namespace Matching

theorem ofTags_of_plain {tags : List Tag} (plain : ∀ tag ∈ tags, tag.delimiter? = none) :
    ofTags tags = ⟨[], [], []⟩ := by
  have none_there : delimitersFrom 0 tags = [] := by
    rw [delimitersFrom, List.filter_eq_nil_iff]
    intro found member
    rw [plain found.1 (List.fst_mem_of_mem_zipIdx member)]
    exact Bool.false_ne_true
  rw [ofTags, Progress.run_eq_read, none_there]
  simp [Progress.read, Progress.start, Progress.finish]

end Matching

namespace Lexeme.Mutes

variable {source : String}

theorem visible {visible hidden : List Char} (mutes : Mutes vocabulary 0 source.toList spans)
    (cuts : (Window.whole source).Cuts source [] visible hidden) :
    Mutes vocabulary 0 visible (clip (Window.whole source).stop.toNat spans) := by
  have begins : visible <+: textOf (lex vocabulary source.toList) := by
    rw [textOf_lex]
    exact ⟨hidden, cuts.text.symm⟩
  obtain ⟨muted, seen⟩ := muted_of_begin (by rw [textOf_lex]) mutes.muted begins 0
  rw [mutes.spans, Nat.zero_add] at seen
  rw [cuts.stop]
  exact ⟨muted, seen⟩

theorem tag_of_mem (mutes : Mutes vocabulary 0 source.toList spans) {token : Token}
    (member : token ∈ tokens vocabulary source) :
    token.tag = .whitespace ∨ token.tag = .lineComment := by
  obtain ⟨visible, hidden, cuts⟩ := Window.whole_cuts source
  rw [Session.tokens_of_cuts vocabulary cuts] at member
  obtain ⟨lexeme, lexeme_member, spelled⟩ := exists_spelled (cuts.lex_spells vocabulary) member
  rw [spelled.tag]
  exact ((mutes.visible cuts).muted lexeme lexeme_member).tag

/-- The comments of a muted source are seen up to where its window ends. -/
theorem bounds_lineComments (mutes : Mutes vocabulary 0 source.toList spans) :
    (lineComments (tokens vocabulary source)).map Token.bounds =
      clip (Window.whole source).stop.toNat spans := by
  obtain ⟨visible, hidden, cuts⟩ := Window.whole_cuts source
  have fits := (Window.whole source).stop.toNat_lt_size
  have stop : (Window.whole source).stop.toNat = byteCount visible := cuts.stop
  rw [Session.tokens_of_cuts vocabulary cuts, ← (mutes.visible cuts).spans]
  exact bounds_lineComments_layOut (by rwa [textOf_lex, Nat.zero_add, ← stop])

theorem bounds_lineComments_of_size (mutes : Mutes vocabulary 0 source.toList spans)
    (fits : source.utf8ByteSize < UInt32.size) :
    (lineComments (tokens vocabulary source)).map Token.bounds = spans := by
  rw [Session.tokens_of_cuts vocabulary (Window.whole_cuts_all fits), ← mutes.spans]
  exact bounds_lineComments_layOut (by rwa [textOf_lex, Nat.zero_add, byteCount_toList])

theorem ofTags_eq (mutes : Mutes vocabulary 0 source.toList spans) :
    Matching.ofTags ((tokens vocabulary source).map Token.tag) = ⟨[], [], []⟩ := by
  apply Matching.ofTags_of_plain
  intro tag member
  obtain ⟨token, token_member, rfl⟩ := List.mem_map.mp member
  rcases mutes.tag_of_mem token_member with blank | comment
  · rw [blank]
    rfl
  · rw [comment]
    rfl

end Lexeme.Mutes

/-- Lines that are commented out and joined by line breaks. -/
def commentedOut (lines : List String) : String := "\n".intercalate (lines.map commentLine)

theorem toList_commentedOut (lines : List String) :
    (commentedOut lines).toList = Line.commentedOut (lines.map String.toList) := by
  rw [commentedOut, String.toList_intercalate, Line.commentedOut, List.map_map, List.map_map]
  apply congrArg
  apply List.map_congr_left
  intro line _
  exact String.toList_ofList

/-- Lines that are commented out are scanned as blanks and, as far as 32-bit offsets reach, as one
comment for each line with text.  Nothing is matched or folds. -/
theorem tokens_commentedOut (vocabulary : Vocabulary) (lines : List String)
    (whole : ∀ line ∈ lines, '\n' ∉ line.toList) :
    let scanned := tokens vocabulary (commentedOut lines)
    let spans := Line.commentSpans 0 (lines.map String.toList)
    (∀ token ∈ scanned, token.tag = .whitespace ∨ token.tag = .lineComment) ∧
      (lineComments scanned).map Token.bounds =
        clip (Window.whole (commentedOut lines)).stop.toNat spans ∧
      ((commentedOut lines).utf8ByteSize < UInt32.size →
        (lineComments scanned).map Token.bounds = spans) ∧
      Matching.ofTags (scanned.map Token.tag) = ⟨[], [], []⟩ ∧
      folds vocabulary (commentedOut lines) = [] := by
  intro scanned spans
  have mutes : Mutes vocabulary 0 (commentedOut lines).toList spans := by
    rw [toList_commentedOut]
    apply Line.mutes_commentedOut_all
    intro line member
    obtain ⟨text, text_member, rfl⟩ := List.mem_map.mp member
    exact whole text text_member
  refine ⟨fun token => mutes.tag_of_mem, mutes.bounds_lineComments,
    mutes.bounds_lineComments_of_size, mutes.ofTags_eq, ?_⟩
  rw [folds, mutes.ofTags_eq]
  rfl

/-- A line that is too long for 32-bit offsets is not commented out to its end. -/
theorem tokens_commentedOut_out_of_reach :
    let line := String.ofList (filler UInt32.size)
    '\n' ∉ line.toList ∧
      Line.commentSpans 0 [line.toList] = [(0, UInt32.size + 2)] ∧
      (lineComments (tokenize (commentedOut [line]))).map Token.bounds ≠
        [(0, UInt32.size + 2)] := by
  intro line
  have line_eq : line.toList = filler UInt32.size := String.toList_ofList
  have written : isBlankText (filler UInt32.size) = false := rfl
  have no_indent : Line.indent (filler UInt32.size) = [] := rfl
  have size : byteCount (Line.comment (filler UInt32.size)) = UInt32.size + 2 := by
    rw [Line.byteCount_comment written, byteCount_filler]
  refine ⟨fun member => ?_, ?_, fun same => ?_⟩
  · rw [line_eq] at member
    cases eq_of_mem_filler member
  · rw [line_eq, Line.commentSpans, Line.commentSpans, written, no_indent, size]
    simp
  · obtain ⟨token, -, bounds⟩ : ∃ token ∈ lineComments (tokenize (commentedOut [line])),
        token.bounds = (0, UInt32.size + 2) := by
      rw [← List.mem_map, same]
      exact List.mem_singleton_self _
    have stop : token.stop.toNat = UInt32.size + 2 := congrArg Prod.snd bounds
    have bound := token.stop.toNat_lt_size
    omega

/-- A brace before a carriage return, a line of blanks, and an open block comment and string. -/
theorem tokens_commentedOut_open :
    (∀ line ∈ ["  a = \x7b\r", " \u3000", "\t/* \"é"], '\n' ∉ line.toList) ∧
      commentedOut ["  a = \x7b\r", " \u3000", "\t/* \"é"] =
        "  # a = \x7b\r\n \u3000\n\t# /* \"é" ∧
      (lineComments (tokenize "  # a = \x7b\r\n \u3000\n\t# /* \"é")).map Token.bounds =
        [(2, 10), (17, 25)] := by
  have whole : ∀ line ∈ ["  a = \x7b\r", " \u3000", "\t/* \"é"], '\n' ∉ line.toList := by
    decide +kernel
  have text : commentedOut ["  a = \x7b\r", " \u3000", "\t/* \"é"] =
      "  # a = \x7b\r\n \u3000\n\t# /* \"é" := by decide +kernel
  obtain ⟨-, -, spans, -⟩ := tokens_commentedOut .builtin _ whole
  rw [text] at spans
  exact ⟨whole, text, (spans (by decide +kernel)).trans (by decide +kernel)⟩

end ConfigLexer
