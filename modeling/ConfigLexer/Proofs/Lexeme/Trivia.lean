import ConfigLexer.Proofs.Lexeme.Cutting
import ConfigLexer.Proofs.Text.Runs

/-!
# Blanks and comments after a hash

A text that consists of runs of blanks and of comments after a hash is muted: none of it is code.
It stays so when the end of it is cut off, and the comments that are left are those that start
before the cut, the last of them as short as the cut makes it.
-/

namespace ConfigLexer
namespace Lexeme

open Text

variable {vocabulary : Vocabulary} {first : Char} {blanks body rest begin : List Char}
variable {lexeme : Lexeme} {lexemes : List Lexeme} {offset limit : Nat}

/-- A run of blanks ends before the first character that is not blank. -/
theorem lex_blanks (blank : isBlankText (first :: blanks) = true)
    (stops : rest.head?.any isBlank = false) :
    lex vocabulary (first :: blanks ++ rest) =
      ⟨.whitespace, first :: blanks⟩ :: lex vocabulary rest := by
  obtain ⟨first_blank, others⟩ := Bool.and_eq_true_iff.mp blank
  apply lex_of_reach
  rw [reach, if_pos first_blank, takeWhile_run (List.all_eq_true.mp others) stops]

theorem lineReach_append (inside : '\n' ∉ body) (stops : rest.head?.any (· ≠ '\n') = false) :
    lineReach (body ++ rest) = body.length := by
  have passes : ∀ c ∈ body, decide (c ≠ '\n') = true := by
    intro c member
    rw [decide_eq_true_eq]
    rintro rfl
    exact inside member
  rw [lineReach, takeWhile_run passes stops]

theorem lex_hash (inside : '\n' ∉ body) (stops : rest.head?.any (· ≠ '\n') = false) :
    lex vocabulary ('#' :: body ++ rest) =
      ⟨.lineComment, '#' :: body⟩ :: lex vocabulary rest := by
  apply lex_of_reach
  rw [reach, if_neg (by decide), if_pos (.inl rfl), lineReach_append inside stops]

theorem lex_slashes (inside : '\n' ∉ body) (stops : rest.head?.any (· ≠ '\n') = false) :
    lex vocabulary ('/' :: '/' :: body ++ rest) =
      ⟨.lineComment, '/' :: '/' :: body⟩ :: lex vocabulary rest := by
  have behind : '\n' ∉ '/' :: body := List.not_mem_cons_of_ne_of_not_mem (by decide) inside
  apply lex_of_reach
  rw [reach, if_neg (by decide), if_pos (.inr rfl), lineReach_append behind stops]

/-- The lexeme is a run of blanks or a comment after a hash. -/
inductive Muted : Lexeme → Prop
  | blanks {text : List Char} : text ≠ [] → isBlankText text = true → Muted ⟨.whitespace, text⟩
  | hash {body : List Char} : '\n' ∉ body → Muted ⟨.lineComment, '#' :: body⟩

namespace Muted

theorem tag (muted : Muted lexeme) : lexeme.tag = .whitespace ∨ lexeme.tag = .lineComment := by
  cases muted with
  | blanks => exact .inl rfl
  | hash => exact .inr rfl

theorem text_ne_nil (muted : Muted lexeme) : lexeme.text ≠ [] := by
  cases muted with
  | blanks nonempty _ => exact nonempty
  | hash => exact List.cons_ne_nil _ _

theorem of_begin (muted : Muted lexeme) (begins : begin <+: lexeme.text) (nonempty : begin ≠ []) :
    Muted ⟨lexeme.tag, begin⟩ := by
  obtain ⟨behind, whole⟩ := begins
  cases muted with
  | @blanks text _ blank =>
      have blank : (begin ++ behind).all isBlank = true := whole ▸ blank
      rw [List.all_append, Bool.and_eq_true_iff] at blank
      exact .blanks nonempty blank.1
  | @hash body inside =>
      cases begin with
      | nil => exact absurd rfl nonempty
      | cons first begin =>
          obtain ⟨rfl, rfl⟩ := List.cons.inj whole
          exact .hash fun member => inside (List.mem_append_left behind member)

theorem lex_eq (vocabulary : Vocabulary) (muted : Muted lexeme) :
    lex vocabulary lexeme.text = [lexeme] := by
  cases muted with
  | @blanks text nonempty blank =>
      obtain ⟨first, others, rfl⟩ := List.exists_cons_of_ne_nil nonempty
      have alone : lex vocabulary (first :: others ++ []) = _ := lex_blanks blank rfl
      rwa [List.append_nil, lex_nil] at alone
  | @hash body inside =>
      have alone : lex vocabulary ('#' :: body ++ []) = _ := lex_hash inside rfl
      rwa [List.append_nil, lex_nil] at alone

end Muted

/-- The places of the line comments among lexemes that are laid out from an offset. -/
def commentSpans : Nat → List Lexeme → List (Nat × Nat)
  | _, [] => []
  | offset, lexeme :: lexemes =>
      let stop := offset + byteCount lexeme.text
      if lexeme.tag = .lineComment then (offset, stop) :: commentSpans stop lexemes
      else commentSpans stop lexemes

theorem le_of_mem_commentSpans {span : Nat × Nat} (member : span ∈ commentSpans offset lexemes) :
    offset ≤ span.1 := by
  fun_induction commentSpans offset lexemes with
  | case1 => cases member
  | case2 offset lexeme lexemes stop comment ih =>
      rcases List.mem_cons.mp member with rfl | member
      · exact Nat.le_refl _
      · exact Nat.le_trans (Nat.le_add_right _ _) (ih member)
  | case3 offset lexeme lexemes stop other ih =>
      exact Nat.le_trans (Nat.le_add_right _ _) (ih member)

/-- The parts of spans that are in front of a limit. -/
def clip (limit : Nat) (spans : List (Nat × Nat)) : List (Nat × Nat) :=
  (spans.filter fun span => span.1 < limit).map fun span => (span.1, min span.2 limit)

theorem clip_cons_of_lt {start stop : Nat} (inside : start < limit) (spans : List (Nat × Nat)) :
    clip limit ((start, stop) :: spans) = (start, min stop limit) :: clip limit spans := by
  rw [clip, List.filter_cons_of_pos (by simpa using inside), List.map_cons, ← clip]

theorem clip_commentSpans_of_le (behind : limit ≤ offset) :
    clip limit (commentSpans offset lexemes) = [] := by
  have none_before : (commentSpans offset lexemes).filter (fun span => span.1 < limit) = [] := by
    rw [List.filter_eq_nil_iff]
    intro span member
    have after := le_of_mem_commentSpans member
    simp only [decide_eq_true_eq]
    omega
  rw [clip, none_before, List.map_nil]

/-- The beginning of a muted text is muted, and its comments are those of the text up to there. -/
theorem muted_of_begin (lexed : lex vocabulary (textOf lexemes) = lexemes)
    (muted : ∀ lexeme ∈ lexemes, Muted lexeme) (begins : begin <+: textOf lexemes)
    (offset : Nat) :
    (∀ lexeme ∈ lex vocabulary begin, Muted lexeme) ∧
      commentSpans offset (lex vocabulary begin) =
        clip (offset + byteCount begin) (commentSpans offset lexemes) := by
  induction lexemes generalizing begin offset with
  | nil =>
      obtain rfl : begin = [] := List.prefix_nil.mp begins
      rw [lex_nil]
      exact ⟨by simp, rfl⟩
  | cons lexeme lexemes ih =>
      obtain ⟨here, others⟩ := List.forall_mem_cons.mp muted
      have width : 0 < byteCount lexeme.text :=
        Nat.pos_of_ne_zero (byteCount_eq_zero_iff.not.mpr here.text_ne_nil)
      rcases List.prefix_or_prefix_of_prefix (List.prefix_append lexeme.text (textOf lexemes))
          begins with passes | inside
      · obtain ⟨begin, rfl⟩ := passes
        have begins : begin <+: textOf lexemes := (List.prefix_append_right_inj _).mp begins
        have starts : StartsAs begin (textOf lexemes) := by
          obtain ⟨behind, whole⟩ := begins
          cases begin with
          | nil => exact .inl rfl
          | cons c begin => exact .inr (whole ▸ rfl)
        have split : lex vocabulary (textOf [lexeme] ++ begin) = [lexeme] ++ lex vocabulary begin :=
          lex_replace lexed starts
        rw [textOf_cons, textOf_nil, List.append_nil, List.singleton_append] at split
        obtain ⟨rest_muted, rest_spans⟩ :=
          ih (lex_tail lexed) others begins (offset + byteCount lexeme.text)
        rw [split, byteCount_append, ← Nat.add_assoc]
        simp only [commentSpans, rest_spans]
        refine ⟨List.forall_mem_cons.mpr ⟨here, rest_muted⟩, ?_⟩
        split
        · rw [clip_cons_of_lt (by omega), Nat.min_eq_left (by omega)]
        · rfl
      · rcases eq_or_ne begin [] with rfl | nonempty
        · rw [lex_nil, byteCount_nil, Nat.add_zero, clip_commentSpans_of_le (Nat.le_refl _)]
          exact ⟨by simp, rfl⟩
        · have cut := here.of_begin inside nonempty
          have alone : lex vocabulary begin = [⟨lexeme.tag, begin⟩] := cut.lex_eq vocabulary
          have shorter : byteCount begin ≤ byteCount lexeme.text := by
            obtain ⟨behind, whole⟩ := inside
            rw [← whole, byteCount_append]
            exact Nat.le_add_right _ _
          have begin_width : 0 < byteCount begin :=
            Nat.pos_of_ne_zero (byteCount_eq_zero_iff.not.mpr nonempty)
          rw [alone]
          simp only [commentSpans]
          refine ⟨by simpa using cut, ?_⟩
          split
          · rw [clip_cons_of_lt (by omega), Nat.min_eq_right (by omega),
              clip_commentSpans_of_le (by omega)]
          · rw [clip_commentSpans_of_le (by omega)]

end Lexeme
end ConfigLexer
