import ConfigLexer.Fold
import ConfigLexer.Proofs.Lexeme.Names
import ConfigLexer.Proofs.Matching.Stepping
import ConfigLexer.Proofs.Session.Partition

/-!
# What a vocabulary decides

Two scans of one window under different vocabularies find the same spans.  Their tags differ at
those names alone that one of the vocabularies holds and the other does not, and they differ as
keyword and identifier.  So delimiters are matched and blocks are folded without a vocabulary, and a
word that has not the shape of a name may be put into one without any effect.
-/

namespace ConfigLexer

open Text Lexeme Token

variable {vocabulary other : Vocabulary} {source : String} {window : Window} {token : Token}

/-! ## Tokens looked up anew -/

namespace Token

/-- The token with its tag looked up in a vocabulary, if its text is a name. -/
def retag (source : String) (vocabulary : Vocabulary) (token : Token) : Token :=
  if isName (token.text source).toList then
    { token with tag := nameTag vocabulary (token.text source).toList }
  else
    token

@[simp]
theorem start_retag : (token.retag source vocabulary).start = token.start := by
  rw [retag]
  split <;> rfl

@[simp]
theorem stop_retag : (token.retag source vocabulary).stop = token.stop := by
  rw [retag]
  split <;> rfl

/-- Two tokens that different vocabularies find in one place of a source. -/
structure Reread (source : String) (vocabulary other : Vocabulary) (token twin : Token) : Prop where
  /-- Both start at one offset. -/
  start : token.start = twin.start
  /-- Both end at one offset. -/
  stop : token.stop = twin.stop
  /-- If their tags differ, one is that of a keyword and one is that of an identifier. -/
  tags : token.tag ≠ twin.tag →
    token.tag = .keyword ∧ twin.tag = .identifier ∨ token.tag = .identifier ∧ twin.tag = .keyword
  /-- The tags differ exactly if the text is a name that only one of the vocabularies holds. -/
  differ : token.tag ≠ twin.tag ↔
    isName (token.text source).toList = true ∧
      ¬(token.text source ∈ vocabulary.words ↔ token.text source ∈ other.words)

theorem reread_retag (other : Vocabulary) (found : token.retag source vocabulary = token) :
    Reread source vocabulary other token (token.retag source other) := by
  rw [retag] at found
  cases name : isName (token.text source).toList with
  | false =>
      have same : token.retag source other = token := by
        rw [retag, name]
        rfl
      rw [same]
      exact ⟨rfl, rfl, fun differ => absurd rfl differ, by simp [name]⟩
  | true =>
      rw [if_pos name] at found
      have tag : token.tag = nameTag vocabulary (token.text source).toList :=
        (congrArg Token.tag found).symm
      have twin : (token.retag source other).tag = nameTag other (token.text source).toList := by
        rw [retag, if_pos name]
      refine ⟨start_retag.symm, stop_retag.symm, ?_, ?_⟩
      · rw [tag, twin, nameTag, nameTag, String.ofList_toList]
        cases vocabulary.contains (token.text source) <;>
          cases other.contains (token.text source) <;> simp
      · rw [tag, twin, nameTag, nameTag, String.ofList_toList, ← vocabulary.contains_iff,
          ← other.contains_iff]
        cases vocabulary.contains (token.text source) <;>
          cases other.contains (token.text source) <;> simp [name]

theorem delimiter?_of_isName (name : isName (token.text source).toList = true)
    (found : token.retag source vocabulary = token) : token.tag.delimiter? = none := by
  rw [retag, if_pos name, nameTag] at found
  rw [← found]
  dsimp only
  split <;> rfl

end Token

/-! ## Matching and folding -/

/-- The two tags are one, or neither is a delimiter. -/
def Tag.SameDelimiter (tag other : Tag) : Prop :=
  tag = other ∨ tag.delimiter? = none ∧ other.delimiter? = none

namespace Matching

theorem Progress.step_of_plain (progress : Progress) (place : Nat) {tag : Tag}
    (plain : tag.delimiter? = none) : progress.step place tag = progress := by
  cases tag with
  | opening | closing => simp [Tag.delimiter?] at plain
  | _ => rfl

theorem Progress.run_congr {tags others : List Tag}
    (same : List.Forall₂ Tag.SameDelimiter tags others) (progress : Progress) (place : Nat) :
    progress.run place tags = progress.run place others := by
  induction same generalizing progress place with
  | nil => rfl
  | cons first _ ih =>
      rw [run, run, ih]
      rcases first with rfl | ⟨plain, other_plain⟩
      · rfl
      · rw [step_of_plain _ _ plain, step_of_plain _ _ other_plain]

theorem ofTags_congr {tags others : List Tag}
    (same : List.Forall₂ Tag.SameDelimiter tags others) : ofTags tags = ofTags others := by
  rw [ofTags, ofTags, Progress.run_congr same]

end Matching

namespace Token

theorem sameDelimiter_retag (other : Vocabulary) (found : token.retag source vocabulary = token) :
    Tag.SameDelimiter (token.retag source other).tag token.tag := by
  cases name : isName (token.text source).toList with
  | false =>
      rw [retag, name]
      exact .inl rfl
  | true =>
      refine .inr ⟨?_, delimiter?_of_isName name found⟩
      rw [retag, if_pos name, nameTag]
      dsimp only
      split <;> rfl

variable {tokens : List Token}

theorem ofTags_map_retag (other : Vocabulary)
    (found : ∀ token ∈ tokens, token.retag source vocabulary = token) :
    Matching.ofTags ((tokens.map (retag source other)).map Token.tag) =
      Matching.ofTags (tokens.map Token.tag) := by
  apply Matching.ofTags_congr
  rw [List.forall₂_map_left_iff, List.forall₂_map_left_iff, List.forall₂_map_right_iff,
    List.forall₂_same]
  exact fun token member => sameDelimiter_retag other (found token member)

theorem ofPair?_retag {opener closer : Token} (other : Vocabulary)
    (opener_found : opener.retag source vocabulary = opener) :
    Fold.ofPair? source (opener.retag source other) (closer.retag source other) =
      Fold.ofPair? source opener closer := by
  have brace : ((opener.retag source other).tag == .opening .brace) =
      (opener.tag == .opening .brace) := by
    rcases sameDelimiter_retag other opener_found with same | ⟨plain, opener_plain⟩
    · rw [same]
    · cases first : (opener.retag source other).tag <;> cases second : opener.tag <;>
        simp_all [Tag.delimiter?]
  have between : Fold.hasBreakBetween source (opener.retag source other)
      (closer.retag source other) = Fold.hasBreakBetween source opener closer := by
    rw [Fold.hasBreakBetween, Fold.hasBreakBetween, stop_retag, start_retag]
  rw [Fold.ofPair?, Fold.ofPair?, brace, between, start_retag, stop_retag]

end Token

/-! ## Scans -/

theorem layOut_map_retag {offset : Nat} {lexemes : List Lexeme}
    (spells : List.Forall₂ (Spells source) (layOut offset lexemes) lexemes) :
    layOut offset (lexemes.map (Lexeme.retag vocabulary)) =
      (layOut offset lexemes).map (Token.retag source vocabulary) := by
  induction lexemes generalizing offset with
  | nil => rfl
  | cons lexeme lexemes ih =>
      obtain ⟨first, others⟩ := List.forall₂_cons.mp spells
      rw [List.map_cons, layOut, layOut, List.map_cons, text_retag, ih others, Token.retag,
        first.text, String.toList_ofList, Lexeme.retag]
      split <;> rfl

namespace Window.Cuts

variable {before middle after : List Char}

/-- One vocabulary finds the tokens that any other one finds, and looks up the names anew. -/
theorem layOut_lex_eq_map_retag (cuts : window.Cuts source before middle after)
    (vocabulary other : Vocabulary) :
    layOut window.start.toNat (lex other middle) =
      (layOut window.start.toNat (lex vocabulary middle)).map (Token.retag source other) := by
  rw [lex_eq_map_retag vocabulary other, layOut_map_retag (cuts.lex_spells vocabulary)]

theorem retag_of_mem (cuts : window.Cuts source before middle after)
    (member : token ∈ layOut window.start.toNat (lex vocabulary middle)) :
    token.retag source vocabulary = token := by
  have same : (layOut window.start.toNat (lex vocabulary middle)).map
        (Token.retag source vocabulary) =
      (layOut window.start.toNat (lex vocabulary middle)).map id := by
    rw [← cuts.layOut_lex_eq_map_retag, List.map_id]
  exact List.map_inj_left.mp same token member

end Window.Cuts

theorem tokens_eq_map_retag (vocabulary other : Vocabulary) (source : String) :
    tokens other source = (tokens vocabulary source).map (Token.retag source other) := by
  obtain ⟨visible, hidden, cuts⟩ := Window.whole_cuts source
  rw [Session.tokens_of_cuts vocabulary cuts, Session.tokens_of_cuts other cuts]
  exact cuts.layOut_lex_eq_map_retag vocabulary other

theorem retag_of_mem_tokens (member : token ∈ tokens vocabulary source) :
    token.retag source vocabulary = token := by
  obtain ⟨visible, hidden, cuts⟩ := Window.whole_cuts source
  rw [Session.tokens_of_cuts vocabulary cuts] at member
  exact cuts.retag_of_mem member

theorem folds_eq (vocabulary other : Vocabulary) (source : String) :
    folds vocabulary source = folds other source := by
  rw [folds, folds, tokens_eq_map_retag vocabulary other,
    ofTags_map_retag other fun token => retag_of_mem_tokens]
  apply List.filterMap_congr
  rintro ⟨opener, closer⟩ -
  rw [List.getElem?_map, List.getElem?_map]
  cases opened : (tokens vocabulary source)[opener]? with
  | none => rfl
  | some first =>
      cases (tokens vocabulary source)[closer]? with
      | none => rfl
      | some last =>
          have found := retag_of_mem_tokens (List.mem_of_getElem? opened)
          exact (ofPair?_retag other found).symm

theorem tokensIn_congr (source : String) (window : Window)
    (same : ∀ word : String, isName word.toList = true →
      (word ∈ vocabulary.words ↔ word ∈ other.words)) :
    tokensIn vocabulary source window = tokensIn other source window := by
  cases refused : window.error? source with
  | some error =>
      rw [tokensIn, tokensIn, Session.ofWindow, Session.ofWindow, refused]
  | none =>
      obtain ⟨before, middle, after, cuts⟩ := (Window.error?_eq_none_iff.mp refused).cuts
      rw [Session.tokensIn_of_cuts vocabulary cuts, Session.tokensIn_of_cuts other cuts,
        lex_congr same]

/-- Two vocabularies find the same tokens, pairs and folds, up to the tags of names that only one
holds.  Only words with the shape of names count. -/
theorem tokensIn_reread (vocabulary other : Vocabulary) (source : String) (window : Window)
    (fits : window.Fits source) :
    ∃ scanned rescanned,
      tokensIn vocabulary source window = .ok scanned ∧
      tokensIn other source window = .ok rescanned ∧
      List.Forall₂ (Reread source vocabulary other) scanned rescanned ∧
      Matching.ofTags (scanned.map Token.tag) = Matching.ofTags (rescanned.map Token.tag) ∧
      folds vocabulary source = folds other source ∧
      ∀ words, tokensIn (vocabulary.insertMany words) source window =
        tokensIn (vocabulary.insertMany (words.filter fun word => isName word.toList)) source
          window := by
  obtain ⟨before, middle, after, cuts⟩ := fits.cuts
  have found : ∀ token ∈ layOut window.start.toNat (lex vocabulary middle),
      token.retag source vocabulary = token := fun _ => cuts.retag_of_mem
  refine ⟨_, _, Session.tokensIn_of_cuts vocabulary cuts, Session.tokensIn_of_cuts other cuts, ?_,
    ?_, folds_eq vocabulary other source, ?_⟩
  · rw [cuts.layOut_lex_eq_map_retag vocabulary other, List.forall₂_map_right_iff,
      List.forall₂_same]
    exact fun token member => reread_retag other (found token member)
  · rw [cuts.layOut_lex_eq_map_retag vocabulary other, ofTags_map_retag other found]
  · intro words
    apply tokensIn_congr
    intro word name
    rw [Vocabulary.mem_words_insertMany, Vocabulary.mem_words_insertMany, List.mem_filter,
      and_iff_left name]

/-- A window with a name that only the second vocabulary holds.  The other words of its extension
are no names, though they occur in the source. -/
theorem tokensIn_reread_hyphened :
    (⟨2, 17⟩ : Window).Fits "x if é-1 = \"a b\" 1" ∧
      ∃ scanned rescanned,
        tokensIn .builtin "x if é-1 = \"a b\" 1" ⟨2, 17⟩ = .ok scanned ∧
        tokensIn (Vocabulary.builtin.insertMany ["é-1", "\"a b\"", "="]) "x if é-1 = \"a b\" 1"
          ⟨2, 17⟩ = .ok rescanned ∧
        List.Forall₂
          (Reread "x if é-1 = \"a b\" 1" .builtin
            (Vocabulary.builtin.insertMany ["é-1", "\"a b\"", "="])) scanned rescanned := by
  have fits : (⟨2, 17⟩ : Window).Fits "x if é-1 = \"a b\" 1" := by decide +kernel
  obtain ⟨scanned, rescanned, found, found_again, reread, -⟩ :=
    tokensIn_reread .builtin (Vocabulary.builtin.insertMany ["é-1", "\"a b\"", "="]) _ _ fits
  exact ⟨fits, scanned, rescanned, found, found_again, reread⟩

end ConfigLexer
