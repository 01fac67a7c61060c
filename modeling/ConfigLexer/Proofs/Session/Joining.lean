import ConfigLexer.Proofs.Lexeme.Trivia
import ConfigLexer.Proofs.Session.Partition
import Mathlib.Data.List.Chain

/-!
# Joining texts into a source

Texts that are joined into one source come back as its tokens if and only if this holds for every
two neighbours on their own.  A token looks at most one character ahead, so whether a joint is seen
depends on the text before it and on the first character behind it; and a token does not look back,
so it does not depend on anything else.
-/

namespace ConfigLexer

open Text Lexeme

namespace Lexeme

variable {vocabulary : Vocabulary} {lexeme : Lexeme} {text : List Char}
variable {first second : List Char} {rest : List (List Char)}

/-- The texts are the texts of the lexemes of what they make up together. -/
def Separates (vocabulary : Vocabulary) (pieces : List (List Char)) : Prop :=
  (lex vocabulary pieces.flatten).map Lexeme.text = pieces

/-- Texts that are separated are separated without what is before and behind them. -/
theorem Separates.inside {left pieces right : List (List Char)}
    (separated : Separates vocabulary (left ++ (pieces ++ right))) :
    Separates vocabulary pieces := by
  obtain ⟨before, others, lexed, -, others_eq⟩ := List.map_eq_append_iff.mp separated
  obtain ⟨lexemes, behind, rfl, rfl, -⟩ := List.map_eq_append_iff.mp others_eq
  have alone := lex_left (lex_right lexed)
  rw [Separates, ← textOf_eq_flatten, alone]

/-- A text that is separated from the next one is separated from all that follow. -/
theorem Separates.cons (joint : Separates vocabulary [first, second])
    (others : Separates vocabulary (second :: rest)) :
    Separates vocabulary (first :: second :: rest) := by
  obtain ⟨lexeme, next, lexed, rfl, next_eq⟩ := List.map_eq_cons_iff.mp joint
  obtain ⟨following, none_left, rfl, rfl, no_more⟩ := List.map_eq_cons_iff.mp next_eq
  obtain rfl := List.map_eq_nil_iff.mp no_more
  have member : following ∈ lex vocabulary [lexeme.text, following.text].flatten := by
    rw [lexed]
    exact .tail _ (.head _)
  have starts : StartsAs (following.text :: rest).flatten (textOf [following]) := by
    obtain ⟨c, body, shape⟩ := List.exists_cons_of_ne_nil (text_ne_nil_of_mem_lex member)
    right
    rw [List.flatten_cons, textOf_cons, shape]
    rfl
  have replaced : lex vocabulary (textOf [lexeme] ++ (following.text :: rest).flatten) =
      [lexeme] ++ lex vocabulary (following.text :: rest).flatten := lex_replace lexed starts
  rw [textOf_cons, textOf_nil, List.append_nil] at replaced
  rw [Separates, List.flatten_cons, replaced, List.map_append, others]
  rfl

theorem separates_of_isChain (first second : List Char) (rest : List (List Char))
    (joints : (first :: second :: rest).IsChain fun left right =>
      Separates vocabulary [left, right]) :
    Separates vocabulary (first :: second :: rest) := by
  induction rest generalizing first second with
  | nil => exact (List.isChain_cons_cons.mp joints).1
  | cons third rest ih =>
      obtain ⟨joint, others⟩ := List.isChain_cons_cons.mp joints
      exact joint.cons (ih second third others)

end Lexeme

variable {vocabulary : Vocabulary} {source : String} {pieces : List String}

/-- The texts are the texts of the tokens of what they make up together. -/
def Recovers (vocabulary : Vocabulary) (pieces : List String) : Prop :=
  (tokens vocabulary (String.join pieces)).map (Token.text (String.join pieces)) = pieces

instance (vocabulary : Vocabulary) (pieces : List String) :
    Decidable (Recovers vocabulary pieces) :=
  inferInstanceAs (Decidable (_ = _))

theorem flatten_map_toList (pieces : List String) :
    (pieces.map String.toList).flatten = (String.join pieces).toList := by
  rw [String.toList_join, List.flatMap_def]

theorem tokens_of_size (fits : source.utf8ByteSize < UInt32.size) :
    tokens vocabulary source = layOut 0 (lex vocabulary source.toList) :=
  Session.tokens_of_cuts vocabulary (Window.whole_cuts_all fits)

theorem map_text_tokens (fits : source.utf8ByteSize < UInt32.size) :
    (tokens vocabulary source).map (Token.text source) =
      ((lex vocabulary source.toList).map Lexeme.text).map String.ofList := by
  rw [tokens_of_size fits]
  exact map_text_of_spells ((Window.whole_cuts_all fits).lex_spells vocabulary)

theorem Recovers.fits (recovered : Recovers vocabulary pieces) :
    (String.join pieces).utf8ByteSize < UInt32.size := by
  obtain ⟨visible, hidden, cuts⟩ := Window.whole_cuts (String.join pieces)
  have text := join_map_text (cuts.lex_spells vocabulary)
  have laid := Session.tokens_of_cuts vocabulary cuts
  rw [textOf_lex] at text
  rw [Recovers, laid] at recovered
  have all : String.join pieces = String.ofList visible := by
    rw [← text]
    exact congrArg String.join recovered.symm
  have bound := (Window.whole (String.join pieces)).stop.toNat_lt_size
  rwa [cuts.stop, List.nil_append, ← String.toList_ofList (l := visible), ← all,
    byteCount_toList] at bound

theorem recovers_iff_separates (fits : (String.join pieces).utf8ByteSize < UInt32.size) :
    Recovers vocabulary pieces ↔ Separates vocabulary (pieces.map String.toList) := by
  rw [Recovers, map_text_tokens fits, Separates, flatten_map_toList]
  constructor
  · intro same
    have characters := congrArg (List.map String.toList) same
    simpa [Function.comp_def] using characters
  · intro same
    rw [same]
    simp [Function.comp_def]

theorem Recovers.inside {left right : List String}
    (recovered : Recovers vocabulary (left ++ (pieces ++ right))) :
    Recovers vocabulary pieces := by
  have fits := recovered.fits
  have separated := (recovers_iff_separates fits).mp recovered
  rw [← byteCount_toList, ← flatten_map_toList] at fits
  simp only [List.map_append, List.flatten_append, byteCount_append] at fits separated
  have pieces_fit : (String.join pieces).utf8ByteSize < UInt32.size := by
    rw [← byteCount_toList, ← flatten_map_toList]
    omega
  exact (recovers_iff_separates pieces_fit).mpr separated.inside

theorem recovers_of_isChain (first second : String) (rest : List String)
    (joints : (first :: second :: rest).IsChain fun left right => Recovers vocabulary [left, right])
    (fits : (String.join (first :: second :: rest)).utf8ByteSize < UInt32.size) :
    Recovers vocabulary (first :: second :: rest) := by
  rw [recovers_iff_separates fits]
  apply separates_of_isChain
  rw [← List.map_cons, ← List.map_cons, List.isChain_map]
  exact joints.imp fun left right joint => (recovers_iff_separates joint.fits).mp joint

theorem layOut_alone {lexemes : List Lexeme} (offset : Nat)
    (alone : ∀ lexeme ∈ lexemes, lex vocabulary lexeme.text = [lexeme] ∧
      byteCount lexeme.text < UInt32.size) :
    List.Forall₂
      (fun token piece => ∃ single, tokens vocabulary piece = [single] ∧ single.tag = token.tag)
      (layOut offset lexemes) ((lexemes.map Lexeme.text).map String.ofList) := by
  induction lexemes generalizing offset with
  | nil => exact .nil
  | cons lexeme lexemes ih =>
      obtain ⟨lexed, small⟩ := alone lexeme List.mem_cons_self
      have fits : (String.ofList lexeme.text).utf8ByteSize < UInt32.size := by
        rwa [← byteCount_toList, String.toList_ofList]
      have single : tokens vocabulary (String.ofList lexeme.text) = layOut 0 [lexeme] := by
        rw [tokens_of_size fits, String.toList_ofList, lexed]
      exact .cons ⟨_, single, rfl⟩
        (ih _ fun other member => alone other (List.mem_cons_of_mem _ member))

theorem Recovers.tags (recovered : Recovers vocabulary pieces) :
    List.Forall₂
      (fun token piece => ∃ single, tokens vocabulary piece = [single] ∧ single.tag = token.tag)
      (tokens vocabulary (String.join pieces)) pieces := by
  have fits := recovered.fits
  rw [Recovers, map_text_tokens fits] at recovered
  rw [tokens_of_size fits]
  conv => arg 3; rw [← recovered]
  apply layOut_alone
  intro lexeme member
  refine ⟨lex_alone member, ?_⟩
  obtain ⟨before, behind, lexed⟩ := List.append_of_mem member
  have size := congrArg byteCount (textOf_of_lex lexed)
  rw [textOf_append, textOf_cons, byteCount_append, byteCount_append, byteCount_toList] at size
  omega

/-- Two or more texts come back as tokens if and only if every two neighbours do and 32-bit offsets
reach the end.  Each has its own tag. -/
theorem recovers_iff_isChain (vocabulary : Vocabulary) (pieces : List String)
    (several : 2 ≤ pieces.length) :
    (Recovers vocabulary pieces ↔
        (pieces.IsChain fun left right => Recovers vocabulary [left, right]) ∧
          (String.join pieces).utf8ByteSize < UInt32.size) ∧
      (Recovers vocabulary pieces →
        List.Forall₂
          (fun token piece => ∃ single, tokens vocabulary piece = [single] ∧
            single.tag = token.tag)
          (tokens vocabulary (String.join pieces)) pieces) := by
  refine ⟨⟨fun recovered => ⟨?_, recovered.fits⟩, ?_⟩, Recovers.tags⟩
  · rw [List.isChain_iff_forall_rel_of_append_cons_cons]
    intro piece next before behind split
    have around : pieces = before ++ ([piece, next] ++ behind) := split
    rw [around] at recovered
    exact recovered.inside
  · rintro ⟨joints, fits⟩
    match pieces, several with
    | first :: second :: rest, _ => exact recovers_of_isChain first second rest joints fits

theorem separates_comment_break {body : List Char} (inside : '\n' ∉ body) :
    Separates vocabulary ['#' :: body, ['\n']] := by
  have break_alone : lex vocabulary (['\n'] ++ []) = _ := lex_blanks (by decide) rfl
  have commented : lex vocabulary ('#' :: body ++ ['\n']) = _ := lex_hash inside rfl
  rw [List.append_nil] at break_alone
  rw [Separates, List.flatten_cons, List.flatten_singleton, commented, break_alone, lex_nil]
  rfl

theorem separates_break_comment {body : List Char} (inside : '\n' ∉ body) :
    Separates vocabulary [['\n'], '#' :: body] := by
  have alone : lex vocabulary ('#' :: body ++ []) = _ := lex_hash inside rfl
  have broken : lex vocabulary (['\n'] ++ '#' :: body) = _ := lex_blanks (by decide) rfl
  rw [List.append_nil] at alone
  rw [Separates, List.flatten_cons, List.flatten_singleton, broken, alone, lex_nil]
  rfl

theorem isChain_comments {body : List Char} (inside : '\n' ∉ body)
    (fits : byteCount ('#' :: body) + 1 < UInt32.size) :
    [String.ofList ('#' :: body), "\n", String.ofList ('#' :: body)].IsChain
      fun left right => Recovers vocabulary [left, right] := by
  have break_size : byteCount "\n".toList = 1 := rfl
  have comment_eq : (String.ofList ('#' :: body)).toList = '#' :: body := String.toList_ofList
  have joins (left right : String) (small : byteCount left.toList + byteCount right.toList <
      UInt32.size) (separated : Separates vocabulary [left.toList, right.toList]) :
      Recovers vocabulary [left, right] := by
    refine (recovers_iff_separates ?_).mpr separated
    rw [← byteCount_toList, ← flatten_map_toList]
    simpa using small
  refine .cons_cons (joins _ "\n" ?_ ?_) (.cons_cons (joins "\n" _ ?_ ?_) (.singleton _))
  · rwa [comment_eq, break_size]
  · rw [comment_eq]
    exact separates_comment_break inside
  · rwa [comment_eq, break_size, Nat.add_comm]
  · rw [comment_eq]
    exact separates_break_comment inside

/-- Two comments that 32-bit offsets reach one by one are out of their reach together. -/
theorem recovers_iff_isChain_out_of_reach :
    let comment := String.ofList ('#' :: filler 0x80000000)
    2 ≤ [comment, "\n", comment].length ∧
      (∀ piece ∈ [comment, "\n", comment], piece ≠ "") ∧
      ([comment, "\n", comment].IsChain fun left right => Recovers .builtin [left, right]) ∧
      ¬Recovers .builtin [comment, "\n", comment] := by
  intro comment
  have mark : '#'.utf8Size = 1 := rfl
  have text_size : byteCount ('#' :: filler 0x80000000) = 0x80000001 := by
    rw [byteCount_cons, byteCount_filler, mark, Nat.add_comm]
  have size : comment.utf8ByteSize = 0x80000001 := text_size
  have nonempty : comment ≠ "" := by
    intro empty
    rw [empty] at size
    cases size
  have break_nonempty : "\n" ≠ "" := by decide
  refine ⟨Nat.le_succ 2, ?_, isChain_comments (fun member => ?_) ?_, fun recovered => ?_⟩
  · rw [List.forall_mem_cons, List.forall_mem_cons, List.forall_mem_singleton]
    exact ⟨nonempty, break_nonempty, nonempty⟩
  · cases eq_of_mem_filler member
  · rw [text_size]
    decide
  · have fits := recovered.fits
    rw [String.join_cons, String.join_cons, String.join_cons, String.utf8ByteSize_append,
      String.utf8ByteSize_append, String.utf8ByteSize_append, size] at fits
    exact absurd fits (by decide)

/-- A keyword, a blank and an open comment with a wide character. -/
theorem recovers_iff_isChain_open_comment :
    2 ≤ ["if", " ", "/*é"].length ∧ Recovers .builtin ["if", " ", "/*é"] ∧
      List.Forall₂
        (fun token piece => ∃ single, tokenize piece = [single] ∧ single.tag = token.tag)
        (tokenize "if /*é") ["if", " ", "/*é"] := by
  have several : 2 ≤ ["if", " ", "/*é"].length := by decide
  obtain ⟨recovers_iff, tags⟩ := recovers_iff_isChain .builtin _ several
  have recovered := recovers_iff.mpr (by decide +kernel)
  exact ⟨several, recovered, tags recovered⟩

end ConfigLexer
