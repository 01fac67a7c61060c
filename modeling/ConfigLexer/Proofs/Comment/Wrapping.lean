import ConfigLexer.Comment
import ConfigLexer.Proofs.Lexeme.Truncation
import ConfigLexer.Proofs.Session.Joining
import Mathlib.Data.List.Infix

/-!
# Texts in a block comment

A block comment ends with the first closing mark behind its opener.  The marks that are put around a
text make up no other closing mark with it, neither with a slash at its start nor with a star at its
end.  So a text that holds no closing mark is commented out as a whole, and any other one as far as
its first closing mark; what is behind that is code.
-/

namespace ConfigLexer

open Text Lexeme Token

variable {vocabulary : Vocabulary} {source : String} {text inner rest : List Char}

namespace Lexeme

/-! ## The first closing mark -/

/-- A text that holds closing marks is split at the first of them. -/
theorem exists_first_mark (held : ['*', '/'] <:+: text) :
    ∃ inner rest, text = inner ++ '*' :: '/' :: rest ∧ ¬['*', '/'] <:+: inner ++ ['*'] := by
  induction text with
  | nil => simp at held
  | cons c text ih =>
      by_cases here : ['*', '/'] <+: c :: text
      · obtain ⟨rest, split⟩ := here
        exact ⟨[], rest, split.symm, by decide⟩
      · obtain ⟨inner, rest, rfl, none_earlier⟩ :=
          ih ((List.infix_cons_iff.mp held).resolve_left here)
        refine ⟨c :: inner, rest, rfl, fun earlier => ?_⟩
        have begins : c :: (inner ++ ['*']) <+: c :: (inner ++ '*' :: '/' :: rest) :=
          ⟨'/' :: rest, by simp⟩
        rcases List.infix_cons_iff.mp earlier with starts | later
        · exact here (starts.trans begins)
        · exact none_earlier later

theorem not_infix_concat_star (free : ¬['*', '/'] <:+: text) : ¬['*', '/'] <:+: text ++ ['*'] := by
  intro held
  rcases List.infix_concat_iff.mp held with ends | inside
  · obtain ⟨before, split⟩ := ends
    have last := congrArg List.getLast? split
    simp at last
  · exact free inside

/-- A block comment reaches through the first closing mark. -/
theorem blockReach_first (none_earlier : ¬['*', '/'] <:+: inner ++ ['*']) (rest : List Char) :
    blockReach (inner ++ '*' :: '/' :: rest) = inner.length + 2 := by
  induction inner with
  | nil => rfl
  | cons c inner ih =>
      have no_mark : ¬(c = '*' ∧ (inner ++ '*' :: '/' :: rest).head? = some '/') := by
        rintro ⟨rfl, head⟩
        cases inner with
        | nil => simp at head
        | cons d inner =>
            obtain rfl : d = '/' := by simpa using head
            exact none_earlier ⟨[], inner ++ ['*'], rfl⟩
      have later : ¬['*', '/'] <:+: inner ++ ['*'] := fun held =>
        none_earlier (held.trans (List.suffix_cons c _).isInfix)
      rw [List.cons_append, blockReach_cons, if_neg no_mark, ih later, List.length_cons]

theorem lex_opened (vocabulary : Vocabulary) (text : List Char) :
    lex vocabulary ('/' :: '*' :: text) =
      ⟨.blockComment, '/' :: '*' :: text.take (blockReach text)⟩ ::
        lex vocabulary (text.drop (blockReach text)) := by
  have reached : reach vocabulary '/' ('*' :: text) = (.blockComment, blockReach text + 1) := by
    have rule : ruleOf '/' = .slash := by decide
    rw [reach_eq, rule]
    rfl
  rw [lex_cons, reached, List.take_succ_cons, List.drop_succ_cons]

theorem byteCount_take_blockReach {shown : List Char}
    (none_earlier : ¬['*', '/'] <:+: inner ++ ['*'])
    (begins : shown <+: inner ++ '*' :: '/' :: rest) :
    byteCount (shown.take (blockReach shown)) =
      min (byteCount (inner ++ ['*', '/'])) (byteCount shown) := by
  have closed_begins : inner ++ ['*', '/'] <+: inner ++ '*' :: '/' :: rest := ⟨rest, by simp⟩
  rcases List.prefix_or_prefix_of_prefix closed_begins begins with ⟨behind, rfl⟩ | inside
  · have reach : blockReach (inner ++ ['*', '/'] ++ behind) = (inner ++ ['*', '/']).length := by
      have first := blockReach_first none_earlier behind
      simpa using first
    rw [reach, List.take_left, Nat.min_eq_left]
    rw [byteCount_append _ behind]
    exact Nat.le_add_right _ _
  · obtain ⟨hidden, split⟩ := begins
    have reach : blockReach shown = shown.length := by
      have all : shown.length ≤ blockReach (shown ++ hidden) := by
        rw [split, blockReach_first none_earlier]
        exact inside.length_le.trans_eq (by simp)
      exact blockReach_truncates.of_le all
    rw [reach, List.take_length, Nat.min_eq_right]
    obtain ⟨missing, whole⟩ := inside
    rw [← whole, byteCount_append]
    exact Nat.le_add_right _ _

end Lexeme

/-! ## Tokens -/

/-- A source that starts with an opener has a block comment as its first token, as far as its first
closing mark or as 32-bit offsets reach. -/
theorem exists_comment (vocabulary : Vocabulary)
    (split : source.toList = '/' :: '*' :: (inner ++ '*' :: '/' :: rest))
    (none_earlier : ¬['*', '/'] <:+: inner ++ ['*']) :
    ∃ comment others, tokens vocabulary source = comment :: others ∧
      comment.tag = .blockComment ∧ comment.start = 0 ∧
      comment.stop.toNat =
        min (byteCount ('/' :: '*' :: inner ++ ['*', '/'])) (Window.whole source).stop.toNat := by
  obtain ⟨visible, hidden, cuts⟩ := Window.whole_cuts source
  have opener_begins : ['/', '*'] <+: source.toList := ⟨_, split.symm⟩
  obtain ⟨shown, rfl⟩ := Window.begins_visible cuts opener_begins (by decide)
  have shown_begins : shown <+: inner ++ '*' :: '/' :: rest := by
    have text := cuts.text
    rw [split] at text
    exact ⟨hidden, by simpa using text.symm⟩
  have size := byteCount_take_blockReach none_earlier shown_begins
  have stop := cuts.stop
  have bound := (Window.whole source).stop.toNat_lt_size
  rw [List.nil_append, List.cons_append, List.cons_append, List.nil_append] at stop
  rw [Session.tokens_of_cuts vocabulary cuts]
  refine ⟨_, _, by rw [List.cons_append, List.cons_append, List.nil_append, lex_opened, layOut],
    rfl, rfl, ?_⟩
  simp only [byteCount_cons, List.cons_append, size] at stop ⊢
  rw [toNat_toUInt32 (by omega)]
  omega

theorem tokens_of_closed (vocabulary : Vocabulary)
    (split : source.toList = '/' :: '*' :: (inner ++ '*' :: '/' :: rest))
    (none_earlier : ¬['*', '/'] <:+: inner ++ ['*'])
    (fits : source.utf8ByteSize < UInt32.size) :
    tokens vocabulary source =
      ⟨.blockComment, 0, (byteCount ('/' :: '*' :: inner ++ ['*', '/'])).toUInt32⟩ ::
        layOut (byteCount ('/' :: '*' :: inner ++ ['*', '/'])) (lex vocabulary rest) := by
  have closed : inner ++ '*' :: '/' :: rest = inner ++ ['*', '/'] ++ rest := by simp
  have reach : blockReach (inner ++ ['*', '/'] ++ rest) = (inner ++ ['*', '/']).length := by
    have first := blockReach_first none_earlier rest
    simpa using first
  rw [tokens_of_size fits, split, closed, lex_opened, reach, List.take_left, List.drop_left, layOut]
  simp

theorem toList_commentBlock (text : String) :
    (commentBlock text).toList = '/' :: '*' :: (text.toList ++ ['*', '/']) := by
  rw [commentBlock, String.toList_ofList]
  rfl

theorem toList_commentBlock_of_split {text : String}
    (split : text.toList = inner ++ '*' :: '/' :: rest) :
    (commentBlock text).toList = '/' :: '*' :: (inner ++ '*' :: '/' :: (rest ++ ['*', '/'])) := by
  rw [toList_commentBlock, split]
  simp

theorem mark_lt_commentBlock {text : String} (split : text.toList = inner ++ '*' :: '/' :: rest) :
    byteCount ('/' :: '*' :: inner ++ ['*', '/']) < (commentBlock text).utf8ByteSize := by
  have star := Char.utf8Size_pos '*'
  rw [← byteCount_toList, toList_commentBlock_of_split split]
  simp only [byteCount_nil, byteCount_cons, byteCount_append, List.cons_append]
  omega

theorem tokens_commentBlock_of_free (vocabulary : Vocabulary) {text : String}
    (free : ¬['*', '/'] <:+: text.toList)
    (fits : (commentBlock text).utf8ByteSize < UInt32.size) :
    tokens vocabulary (commentBlock text) =
      [⟨.blockComment, 0, (commentBlock text).utf8ByteSize.toUInt32⟩] := by
  have closed := tokens_of_closed vocabulary (toList_commentBlock text)
    (not_infix_concat_star free) fits
  rw [closed, lex_nil, layOut, ← byteCount_toList, toList_commentBlock]
  rfl

theorem utf8ByteSize_marked (inner : List Char) :
    ("/*" ++ String.ofList inner ++ "*/").utf8ByteSize =
      byteCount ('/' :: '*' :: inner ++ ['*', '/']) := by
  rw [← byteCount_toList]
  simp

/-- What is behind a beginning is laid out as if it stood alone. -/
theorem moved_of_split (vocabulary : Vocabulary) {front : List Char}
    (split : source.toList = front ++ rest) (fits : source.utf8ByteSize < UInt32.size) :
    List.Forall₂ (Moved 0 (byteCount front)) (tokens vocabulary (String.ofList rest))
      (layOut (byteCount front) (lex vocabulary rest)) := by
  have size := congrArg byteCount split
  rw [byteCount_toList, byteCount_append] at size
  have rest_fits : (String.ofList rest).utf8ByteSize < UInt32.size := by
    rw [← byteCount_toList, String.toList_ofList]
    omega
  rw [tokens_of_size rest_fits, String.toList_ofList]
  apply layOut_moved (Nat.add_comm _ _)
  · rw [textOf_lex]
    omega
  · rw [textOf_lex]
    omega

theorem moved_of_exposed {text : String} {comment : Token} {others : List Token}
    (split : text.toList = inner ++ '*' :: '/' :: rest)
    (none_earlier : ¬['*', '/'] <:+: inner ++ ['*'])
    (fits : (commentBlock text).utf8ByteSize < UInt32.size)
    (scanned : tokens vocabulary (commentBlock text) = comment :: others) :
    List.Forall₂ (Moved 0 ("/*" ++ String.ofList inner ++ "*/").utf8ByteSize)
      (tokens vocabulary (String.ofList rest ++ "*/")) others := by
  have block_split := toList_commentBlock_of_split split
  rw [tokens_of_closed vocabulary block_split none_earlier fits] at scanned
  obtain ⟨-, rfl⟩ := List.cons.inj scanned
  have exposed : String.ofList rest ++ "*/" = String.ofList (rest ++ ['*', '/']) := by
    rw [String.ofList_append]
  rw [utf8ByteSize_marked, exposed]
  apply moved_of_split vocabulary _ fits
  rw [block_split]
  simp

/-- A text without closing marks is one comment if 32-bit offsets reach its end.  The comment of any
other text ends with its first mark. -/
theorem tokens_commentBlock (vocabulary : Vocabulary) (text : String) :
    ((∃ comment, tokens vocabulary (commentBlock text) = [comment] ∧
        comment.tag = .blockComment ∧ comment.start = 0 ∧
        comment.stop.toNat = (commentBlock text).utf8ByteSize) ↔
      ¬"*/".toList <:+: text.toList ∧ (commentBlock text).utf8ByteSize < UInt32.size) ∧
    ("*/".toList <:+: text.toList →
      ∃ inner rest, text = inner ++ "*/" ++ rest ∧ ¬"*/".toList <:+: (inner ++ "*").toList ∧
        ∃ comment others, tokens vocabulary (commentBlock text) = comment :: others ∧
          comment.tag = .blockComment ∧ comment.start = 0 ∧
          comment.stop.toNat = min ("/*" ++ inner ++ "*/").utf8ByteSize
            (Window.whole (commentBlock text)).stop.toNat ∧
          ((commentBlock text).utf8ByteSize < UInt32.size →
            List.Forall₂ (Moved 0 ("/*" ++ inner ++ "*/").utf8ByteSize)
              (tokens vocabulary (rest ++ "*/")) others)) := by
  have mark : "*/".toList = ['*', '/'] := rfl
  rw [mark]
  refine ⟨⟨fun ⟨comment, alone, _, _, stop⟩ => ?_, fun ⟨free, fits⟩ => ?_⟩, fun held => ?_⟩
  · refine ⟨fun held => ?_, stop ▸ comment.stop.toNat_lt_size⟩
    obtain ⟨inner, rest, split, none_earlier⟩ := exists_first_mark held
    obtain ⟨first, others, scanned, -, -, first_stop⟩ :=
      exists_comment vocabulary (toList_commentBlock_of_split split) none_earlier
    obtain ⟨rfl, -⟩ := List.cons.inj (alone.symm.trans scanned)
    have before_last := mark_lt_commentBlock split
    omega
  · exact ⟨_, tokens_commentBlock_of_free vocabulary free fits, rfl, rfl, toNat_toUInt32 fits⟩
  · obtain ⟨inner, rest, split, none_earlier⟩ := exists_first_mark held
    have block_split := toList_commentBlock_of_split split
    obtain ⟨comment, others, scanned, tag, start, stop⟩ :=
      exists_comment vocabulary block_split none_earlier
    have text_eq : text = String.ofList inner ++ "*/" ++ String.ofList rest := by
      rw [← String.toList_inj, split]
      simp
    exact ⟨.ofList inner, .ofList rest, text_eq, by simpa using none_earlier, comment, others,
      scanned, tag, start, by rw [utf8ByteSize_marked, stop],
      fun fits => moved_of_exposed split none_earlier fits scanned⟩

/-- A text without closing marks that is too long for 32-bit offsets is not covered by a comment. -/
theorem tokens_commentBlock_out_of_reach :
    let text := String.ofList (filler UInt32.size)
    ¬"*/".toList <:+: text.toList ∧
      ¬∃ comment, tokenize (commentBlock text) = [comment] ∧ comment.tag = .blockComment ∧
        comment.start = 0 ∧ comment.stop.toNat = (commentBlock text).utf8ByteSize := by
  intro text
  have text_eq : text.toList = filler UInt32.size := String.toList_ofList
  constructor
  · intro held
    have star : '*' ∈ filler UInt32.size := text_eq ▸ held.subset (.head _)
    cases eq_of_mem_filler star
  · rintro ⟨comment, -, -, -, stop⟩
    have bound := comment.stop.toNat_lt_size
    rw [stop, ← byteCount_toList, toList_commentBlock, text_eq] at bound
    simp only [byteCount_cons, byteCount_append, byteCount_filler] at bound
    omega

/-- A text whose slash and star are next to the marks, and one whose first closing mark is behind a
slash. -/
theorem tokens_commentBlock_seams :
    (∃ comment, tokenize (commentBlock "/é*") = [comment] ∧ comment.tag = .blockComment ∧
        comment.start = 0 ∧ comment.stop.toNat = (commentBlock "/é*").utf8ByteSize) ∧
      "*/".toList <:+: "/*/é".toList ∧
      tokenize (commentBlock "/*/é") = [⟨.blockComment, 0, 5⟩, ⟨.identifier, 5, 7⟩,
        ⟨.operator, 7, 8⟩, ⟨.operator, 8, 9⟩] ∧
      ∃ inner rest, "/*/é" = inner ++ "*/" ++ rest ∧
        List.Forall₂ (Moved 0 ("/*" ++ inner ++ "*/").utf8ByteSize) (tokenize (rest ++ "*/"))
          [⟨.identifier, 5, 7⟩, ⟨.operator, 7, 8⟩, ⟨.operator, 8, 9⟩] := by
  have held : "*/".toList <:+: "/*/é".toList := by decide +kernel
  have known : tokenize (commentBlock "/*/é") = [⟨.blockComment, 0, 5⟩, ⟨.identifier, 5, 7⟩,
      ⟨.operator, 7, 8⟩, ⟨.operator, 8, 9⟩] := by decide +kernel
  have alone := (tokens_commentBlock .builtin "/é*").1.mpr (by decide +kernel)
  obtain ⟨inner, rest, split, -, comment, others, scanned, -, -, -, moved⟩ :=
    (tokens_commentBlock .builtin "/*/é").2 held
  obtain ⟨-, rfl⟩ := List.cons.inj (known.symm.trans scanned)
  exact ⟨alone, held, known, inner, rest, split, moved (by decide +kernel)⟩

end ConfigLexer
