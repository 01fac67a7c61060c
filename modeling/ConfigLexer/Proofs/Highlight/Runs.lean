import ConfigLexer.Highlight
import ConfigLexer.Proofs.Lexeme.Truncation
import ConfigLexer.Proofs.Session.Joining
import ConfigLexer.Proofs.Session.Neighbours
import ConfigLexer.Proofs.Session.Vocabularies
import ConfigLexer.Proofs.Token.Holding

/-!
# Highlighted runs

A run is a token that has a key.  So the runs of a source stand one behind another, and they leave
out the characters of white space and of names that are not reserved, and no others.  A run is the
same when its text stands alone.  A larger vocabulary keeps all runs and adds those of the names
that it reserves.
-/

namespace ConfigLexer

open Text Lexeme

variable {vocabulary other : Vocabulary} {source : String} {token : Token} {run : HighlightRun}

namespace HighlightRun

/-- The text that a run covers. -/
def text (source : String) (run : HighlightRun) : String :=
  slice source run.start.toNat run.stop.toNat

theorem ofToken?_eq_some_iff :
    ofToken? token = some run ↔
      HighlightKey.ofTag? token.tag = some run.key ∧ run.start = token.start ∧
        run.stop = token.stop := by
  obtain ⟨key, start, stop⟩ := run
  simp only [ofToken?, Option.map_eq_some_iff, HighlightRun.mk.injEq]
  constructor
  · rintro ⟨_, found, rfl, rfl, rfl⟩
    exact ⟨found, rfl, rfl⟩
  · rintro ⟨found, rfl, rfl⟩
    exact ⟨key, found, rfl, rfl, rfl⟩

end HighlightRun

theorem HighlightKey.ofTag?_eq_none_iff {tag : Tag} :
    ofTag? tag = none ↔ tag = .whitespace ∨ tag = .identifier ∨ tag = .endOfInput := by
  cases tag <;> simp [ofTag?]

theorem mem_highlight_iff :
    run ∈ highlight vocabulary source ↔
      ∃ token ∈ tokens vocabulary source, HighlightKey.ofTag? token.tag = some run.key ∧
        run.start = token.start ∧ run.stop = token.stop := by
  simp only [highlight, List.mem_filterMap, HighlightRun.ofToken?_eq_some_iff]

/-! ## The runs of one vocabulary -/

/-- The runs style a source. -/
structure HighlightRun.Style (vocabulary : Vocabulary) (source : String)
    (runs : List HighlightRun) : Prop where
  /-- No run is empty. -/
  nonempty : ∀ run ∈ runs, run.start < run.stop
  /-- No run starts or ends inside a character. -/
  boundaries : ∀ run ∈ runs, isBoundary source run.start.toNat = true ∧
    isBoundary source run.stop.toNat = true
  /-- Runs stand in the order of their starts. -/
  ascend : runs.Pairwise fun first second => first.start < second.start
  /-- No two runs overlap. -/
  apart : runs.Pairwise fun first second => first.stop ≤ second.start
  /-- The characters outside of all runs are those of white space and of names, and those that
  32-bit offsets do not reach. -/
  plain : ∀ before c after, source.toList = before ++ c :: after →
    ((∀ run ∈ runs, ¬run.span.Holds before c) ↔
      (∃ token ∈ tokens vocabulary source, token.span.Holds before c ∧
        (token.tag = .whitespace ∨ token.tag = .identifier)) ∨
      UInt32.size ≤ byteCount (before ++ [c]))
  /-- The text of a run, on its own, is one run with the same key. -/
  alone : ∀ run ∈ runs, ∃ single, highlight vocabulary (run.text source) = [single] ∧
    single.key = run.key ∧ single.start = 0 ∧
    single.stop.toNat = (run.text source).utf8ByteSize

theorem highlight_pairwise (vocabulary : Vocabulary) (source : String) :
    (highlight vocabulary source).Pairwise fun first second => first.stop ≤ second.start := by
  rw [highlight, List.pairwise_filterMap]
  refine (tokens_partition vocabulary source).tiles.pairwise.imp ?_
  intro token next behind run made later later_made
  obtain ⟨-, -, stop⟩ := HighlightRun.ofToken?_eq_some_iff.mp made
  obtain ⟨-, start, -⟩ := HighlightRun.ofToken?_eq_some_iff.mp later_made
  rw [stop, start]
  exact behind

/-- A character is in no run exactly if its token has no key. -/
theorem not_holds_iff {before after : List Char} {c : Char} (vocabulary : Vocabulary)
    (split : source.toList = before ++ c :: after)
    (reached : byteCount (before ++ [c]) < UInt32.size) :
    (∀ run ∈ highlight vocabulary source, ¬run.span.Holds before c) ↔
      ∃ token ∈ tokens vocabulary source, token.span.Holds before c ∧
        (token.tag = .whitespace ∨ token.tag = .identifier) := by
  obtain ⟨token, ⟨member, holds⟩, unique⟩ := existsUnique_holds vocabulary split reached
  constructor
  · intro outside
    refine ⟨token, member, holds, ?_⟩
    have no_end := (tokens_partition vocabulary source).tag_ne token member
    cases keyed : HighlightKey.ofTag? token.tag with
    | none => simpa [no_end] using HighlightKey.ofTag?_eq_none_iff.mp keyed
    | some key =>
        have run_member : ⟨key, token.start, token.stop⟩ ∈ highlight vocabulary source :=
          mem_highlight_iff.mpr ⟨token, member, keyed, rfl, rfl⟩
        exact absurd holds (outside _ run_member)
  · rintro ⟨plain, plain_member, plain_holds, tag⟩ run run_member inside
    obtain ⟨styled, styled_member, keyed, start, stop⟩ := mem_highlight_iff.mp run_member
    rw [HighlightRun.span, start, stop] at inside
    obtain rfl := (unique styled ⟨styled_member, inside⟩).trans
      (unique plain ⟨plain_member, plain_holds⟩).symm
    cases (HighlightKey.ofTag?_eq_none_iff.mpr (tag.imp_right .inl)).symm.trans keyed

theorem exists_alone (member : token ∈ tokens vocabulary source) :
    ∃ lexeme, Spells source token lexeme ∧ lex vocabulary lexeme.text = [lexeme] := by
  obtain ⟨_, lexeme, lexeme_member, spelled⟩ := exists_lexeme member
  exact ⟨lexeme, spelled, lex_alone lexeme_member⟩

theorem highlight_text (member : run ∈ highlight vocabulary source) :
    ∃ single, highlight vocabulary (run.text source) = [single] ∧ single.key = run.key ∧
      single.start = 0 ∧ single.stop.toNat = (run.text source).utf8ByteSize := by
  obtain ⟨token, token_member, key, start, stop⟩ := mem_highlight_iff.mp member
  obtain ⟨lexeme, spelled, lexed⟩ := exists_alone token_member
  have text : run.text source = String.ofList lexeme.text := by
    rw [HighlightRun.text, start, stop]
    exact spelled.text
  have size := spelled.size
  have fits : (String.ofList lexeme.text).utf8ByteSize < UInt32.size := by
    rw [← spelled.text, ← size]
    exact token.size.toNat_lt_size
  have scanned : tokens vocabulary (String.ofList lexeme.text) =
      [⟨lexeme.tag, 0, (byteCount lexeme.text).toUInt32⟩] := by
    rw [tokens_of_size fits, String.toList_ofList, lexed, layOut, layOut, Nat.zero_add]
    rfl
  rw [spelled.tag] at key
  refine ⟨⟨run.key, 0, (byteCount lexeme.text).toUInt32⟩, ?_, rfl, rfl, ?_⟩
  · rw [text, highlight, scanned]
    simp [HighlightRun.ofToken?, key]
  · rw [text]
    exact toNat_toUInt32 fits

/-! ## Larger vocabularies -/

/-- A result that is kept where there is one is kept in its place. -/
theorem filterMap_sublist_of_kept {α β : Type} {first second : α → Option β} {items : List α}
    (kept : ∀ item ∈ items, first item = none ∨ first item = second item) :
    (items.filterMap first).Sublist (items.filterMap second) := by
  induction items with
  | nil => exact .slnil
  | cons item items ih =>
      obtain ⟨here, later⟩ := List.forall_mem_cons.mp kept
      rcases here with missing | same
      · rw [List.filterMap_cons_none missing]
        cases made : second item with
        | none => rw [List.filterMap_cons_none made]; exact ih later
        | some result => rw [List.filterMap_cons_some made]; exact (ih later).cons _
      · rw [List.filterMap_cons, List.filterMap_cons, same]
        cases second item with
        | none => exact ih later
        | some result => exact (ih later).cons_cons _

theorem isName_of_identifier (member : token ∈ tokens vocabulary source)
    (tag : token.tag = .identifier) : isName (token.text source).toList = true := by
  obtain ⟨lexeme, spelled, lexed⟩ := exists_alone member
  have lexed : lex vocabulary lexeme.text = [] ++ lexeme :: [] := lexed
  have formed := formed_of_lex lexed
  rw [spelled.text, String.toList_ofList]
  rw [spelled.tag] at tag
  cases formed with
  | identifier is_name => exact is_name
  | _ => cases tag

/-- Under a larger vocabulary a token has the run that it had, unless it is a name that has not been
reserved before. -/
theorem ofToken?_retag (member : token ∈ tokens vocabulary source)
    (wider : ∀ word ∈ vocabulary.words, word ∈ other.words) :
    HighlightRun.ofToken? (token.retag source other) =
      if token.tag = .identifier ∧ token.text source ∈ other.words then
        some ⟨.keyword, token.start, token.stop⟩
      else HighlightRun.ofToken? token := by
  have found := retag_of_mem_tokens member
  cases name : isName (token.text source).toList with
  | false =>
      have not_identifier : token.tag ≠ .identifier := by
        intro tag
        rw [isName_of_identifier member tag] at name
        cases name
      rw [Token.retag, name, if_neg (by simp), if_neg fun both => not_identifier both.1]
  | true =>
      rw [Token.retag, if_pos name, nameTag_eq, String.ofList_toList] at found ⊢
      by_cases held : token.text source ∈ vocabulary.words
      · rw [if_pos held] at found
        have tag : token.tag = .keyword := (congrArg Token.tag found).symm
        rw [if_pos (wider _ held), found, if_neg fun both => by cases tag.symm.trans both.1]
      · rw [if_neg held] at found
        have tag : token.tag = .identifier := (congrArg Token.tag found).symm
        by_cases taken : token.text source ∈ other.words
        · rw [if_pos taken, if_pos ⟨tag, taken⟩]
          rfl
        · rw [if_neg taken, found, if_neg fun both => taken both.2]

theorem highlight_eq (vocabulary other : Vocabulary) (source : String) :
    highlight other source = (tokens vocabulary source).filterMap fun token =>
      HighlightRun.ofToken? (token.retag source other) := by
  rw [highlight, tokens_eq_map_retag vocabulary other, List.filterMap_map]
  rfl

theorem highlight_sublist (wider : ∀ word ∈ vocabulary.words, word ∈ other.words) :
    (highlight vocabulary source).Sublist (highlight other source) := by
  rw [highlight_eq vocabulary other]
  apply filterMap_sublist_of_kept
  intro token member
  rw [ofToken?_retag member wider]
  split
  · rename_i added
    rw [HighlightRun.ofToken?, HighlightKey.ofTag?_eq_none_iff.mpr (.inr (.inl added.1))]
    exact .inl rfl
  · exact .inr rfl

/-- The runs that a larger vocabulary adds are those of the names that it reserves. -/
theorem mem_highlight_added_iff (wider : ∀ word ∈ vocabulary.words, word ∈ other.words) :
    run ∈ highlight other source ∧ run ∉ highlight vocabulary source ↔
      ∃ token ∈ tokens vocabulary source, token.tag = .identifier ∧
        token.text source ∈ other.words ∧ run = ⟨.keyword, token.start, token.stop⟩ := by
  rw [highlight_eq vocabulary other, List.mem_filterMap]
  constructor
  · rintro ⟨⟨token, member, made⟩, missing⟩
    rw [ofToken?_retag member wider] at made
    split at made
    · rename_i added
      exact ⟨token, member, added.1, added.2, (Option.some.inj made).symm⟩
    · exact absurd (List.mem_filterMap.mpr ⟨token, member, made⟩) missing
  · rintro ⟨token, member, tag, taken, rfl⟩
    refine ⟨⟨token, member, ?_⟩, fun present => ?_⟩
    · rw [ofToken?_retag member wider, if_pos ⟨tag, taken⟩]
    · obtain ⟨styled, styled_member, keyed, start, stop⟩ := mem_highlight_iff.mp present
      dsimp only at start stop
      have partition := tokens_partition vocabulary source
      have width := UInt32.lt_iff_toNat_lt.mp (partition.inside token member).1
      obtain rfl := partition.tiles.eq_of_around member styled_member ⟨Nat.le_refl _, width⟩
        ⟨by rw [start], by rwa [← stop]⟩
      cases (HighlightKey.ofTag?_eq_none_iff.mpr (.inr (.inl tag))).symm.trans keyed

theorem start_lt_stop (member : run ∈ highlight vocabulary source) : run.start < run.stop := by
  obtain ⟨token, token_member, -, start, stop⟩ := mem_highlight_iff.mp member
  rw [start, stop]
  exact ((tokens_partition vocabulary source).inside token token_member).1

theorem highlight_style (vocabulary : Vocabulary) (source : String) :
    HighlightRun.Style vocabulary source (highlight vocabulary source) where
  nonempty := fun _ => start_lt_stop
  ascend := (highlight_pairwise vocabulary source).imp_of_mem fun member _ behind =>
    UInt32.lt_of_lt_of_le (start_lt_stop member) behind
  boundaries := by
    intro run member
    obtain ⟨token, token_member, -, start, stop⟩ := mem_highlight_iff.mp member
    rw [start, stop]
    exact (tokens_partition vocabulary source).boundaries token token_member
  apart := highlight_pairwise vocabulary source
  plain := by
    intro before c after split
    rcases Nat.lt_or_ge (byteCount (before ++ [c])) UInt32.size with reached | far
    · rw [not_holds_iff vocabulary split reached, or_iff_left (Nat.not_le.mpr reached)]
    · exact iff_of_true (fun _ _ => Window.not_holds_of_size_le far) (.inr far)
  alone := fun _ => highlight_text

/-- The runs of a source leave out white space and names that are not reserved, and each is a run of
its own text.  Larger vocabularies only add names. -/
theorem highlight_runs (vocabulary : Vocabulary) (source : String) :
    HighlightRun.Style vocabulary source (highlight vocabulary source) ∧
      ∀ other : Vocabulary, (∀ word ∈ vocabulary.words, word ∈ other.words) →
        (highlight vocabulary source).Sublist (highlight other source) ∧
        ∀ run, run ∈ highlight other source ∧ run ∉ highlight vocabulary source ↔
          ∃ token ∈ tokens vocabulary source, token.tag = .identifier ∧
            token.text source ∈ other.words ∧ run = ⟨.keyword, token.start, token.stop⟩ :=
  ⟨highlight_style vocabulary source, fun _ wider =>
    ⟨highlight_sublist wider, fun _ => mem_highlight_added_iff wider⟩⟩

/-- The last letter of a name that is too long for 32-bit offsets is outside of all runs and in no
token. -/
theorem highlight_runs_out_of_reach :
    let before := filler UInt32.size
    let source := String.ofList (before ++ ['x'])
    source.toList = before ++ ['x'] ∧
      (∀ run ∈ highlight .builtin source, ¬run.span.Holds before 'x') ∧
      ¬∃ token ∈ tokenize source, token.span.Holds before 'x' ∧
        (token.tag = .whitespace ∨ token.tag = .identifier) := by
  intro before source
  have far : UInt32.size ≤ byteCount (before ++ ['x']) := by
    rw [byteCount_append, byteCount_filler]
    exact Nat.le_add_right _ _
  refine ⟨String.toList_ofList, fun _ _ => Window.not_holds_of_size_le far, ?_⟩
  rintro ⟨token, -, holds, -⟩
  exact Window.not_holds_of_size_le far holds

/-- A name with a wide letter and a hyphen that only the larger vocabulary reserves. -/
theorem highlight_runs_hyphened :
    (∀ word ∈ Vocabulary.builtin.words, word ∈ (Vocabulary.builtin.insertMany ["é-1"]).words) ∧
      (highlight .builtin "if é-1 = \"x\"").Sublist
        (highlight (Vocabulary.builtin.insertMany ["é-1"]) "if é-1 = \"x\"") ∧
      ⟨.keyword, 3, 7⟩ ∈ highlight (Vocabulary.builtin.insertMany ["é-1"]) "if é-1 = \"x\"" ∧
      (∀ run ∈ highlight .builtin "if é-1 = \"x\"", ¬run.span.Holds "if ".toList 'é') ∧
      ∃ single, highlight .builtin "\"x\"" = [single] ∧ single.key = .string := by
  have wider : ∀ word ∈ Vocabulary.builtin.words,
      word ∈ (Vocabulary.builtin.insertMany ["é-1"]).words :=
    fun _ held => Vocabulary.mem_words_insertMany.mpr (.inl held)
  have scanned : tokens .builtin "if é-1 = \"x\"" = [⟨.keyword, 0, 2⟩, ⟨.whitespace, 2, 3⟩,
      ⟨.identifier, 3, 7⟩, ⟨.whitespace, 7, 8⟩, ⟨.operator, 8, 9⟩, ⟨.whitespace, 9, 10⟩,
      ⟨.string, 10, 13⟩] := by decide +kernel
  obtain ⟨style, extended⟩ := highlight_runs .builtin "if é-1 = \"x\""
  obtain ⟨kept, added⟩ := extended _ wider
  have name : (⟨.keyword, 3, 7⟩ : HighlightRun) ∈
      highlight (Vocabulary.builtin.insertMany ["é-1"]) "if é-1 = \"x\"" := by
    refine ((added _).mpr ⟨⟨.identifier, 3, 7⟩, ?_, rfl, by decide +kernel, rfl⟩).1
    rw [scanned]
    decide
  have plain := (style.plain "if ".toList 'é' "-1 = \"x\"".toList (by decide +kernel)).mpr
    (.inl ⟨⟨.identifier, 3, 7⟩, by rw [scanned]; decide, by decide +kernel, .inr rfl⟩)
  have string : (⟨.string, 10, 13⟩ : HighlightRun) ∈ highlight .builtin "if é-1 = \"x\"" := by
    rw [highlight, scanned]
    decide
  obtain ⟨single, alone, key, -⟩ := style.alone _ string
  have text : (⟨.string, 10, 13⟩ : HighlightRun).text "if é-1 = \"x\"" = "\"x\"" := by
    decide +kernel
  rw [text] at alone
  exact ⟨wider, kept, name, plain, single, alone, key⟩

end ConfigLexer
