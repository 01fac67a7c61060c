import ConfigLexer.Proofs.Session.Run
import ConfigLexer.Session.Request
import Mathlib.Data.List.Forall2

/-!
# The tokens of a window partition it

Every scan of a window ends.  Its tokens follow one another from the start of the window to its
end, none of them is empty or ends inside a character, and together they spell the text of the
window.  After them the session stays as it is, whatever is asked of it short of another window.
-/

namespace ConfigLexer

open Text Lexeme Token

/-- The tokens are a partition of the text in a window. -/
structure Window.Partition (window : Window) (source : String) (tokens : List Token) : Prop where
  /-- Each token starts where the one before it ends, the first one at the start of the window, and
  the last one ends at the end of the window. -/
  tiles : Tiles window.start.toNat tokens window.stop.toNat
  /-- No token is empty or leaves the window. -/
  inside : ∀ token ∈ tokens, token.start < token.stop ∧ token.stop ≤ window.stop
  /-- No token starts or ends inside a character. -/
  boundaries : ∀ token ∈ tokens,
    isBoundary source token.start.toNat = true ∧ isBoundary source token.stop.toNat = true
  /-- No token is the end of the input. -/
  tag_ne : ∀ token ∈ tokens, token.tag ≠ .endOfInput
  /-- The texts of the tokens make up the text in the window. -/
  text : String.join (tokens.map (Token.text source)) =
    slice source window.start.toNat window.stop.toNat
  /-- There are no more tokens than characters. -/
  length_le : tokens.length ≤ (slice source window.start.toNat window.stop.toNat).length

theorem Lexeme.Spells.text {source : String} {token : Token} {lexeme : Lexeme}
    (spells : Spells source token lexeme) : token.text source = String.ofList lexeme.text := by
  obtain ⟨before, after, cuts⟩ := spells.cuts
  exact cuts.slice

theorem map_text_of_spells {source : String} {tokens : List Token} {lexemes : List Lexeme}
    (spells : List.Forall₂ (Spells source) tokens lexemes) :
    tokens.map (Token.text source) = (lexemes.map Lexeme.text).map String.ofList := by
  induction spells with
  | nil => rfl
  | cons first _ ih => rw [List.map_cons, first.text, ih, List.map_cons, List.map_cons]

theorem join_map_text {source : String} {tokens : List Token} {lexemes : List Lexeme}
    (spells : List.Forall₂ (Spells source) tokens lexemes) :
    String.join (tokens.map (Token.text source)) = String.ofList (textOf lexemes) := by
  rw [map_text_of_spells spells, textOf_eq_flatten, ← String.toList_inj, String.toList_join]
  simp [List.flatMap_def, Function.comp_def]

theorem exists_spelled {source : String} {tokens : List Token} {lexemes : List Lexeme}
    (spells : List.Forall₂ (Spells source) tokens lexemes) {token : Token}
    (member : token ∈ tokens) : ∃ lexeme ∈ lexemes, Spells source token lexeme := by
  induction spells with
  | nil => simp at member
  | cons first _ ih =>
      rcases List.mem_cons.mp member with rfl | member
      · exact ⟨_, List.mem_cons_self, first⟩
      · obtain ⟨lexeme, lexeme_member, spelled⟩ := ih member
        exact ⟨lexeme, List.mem_cons_of_mem _ lexeme_member, spelled⟩

namespace Window.Cuts

variable {source : String} {window : Window} {before middle after : List Char}

theorem partition (vocabulary : Vocabulary) (cuts : window.Cuts source before middle after) :
    window.Partition source (layOut window.start.toNat (lex vocabulary middle)) where
  tiles := cuts.lex_tiles vocabulary
  inside := by
    intro token member
    have bounds := (cuts.lex_tiles vocabulary).bounds member
    exact ⟨UInt32.lt_iff_toNat_lt.mpr bounds.2.1, UInt32.le_iff_toNat_le.mpr bounds.2.2⟩
  boundaries := by
    intro token member
    obtain ⟨lexeme, -, spelled⟩ := exists_spelled (cuts.lex_spells vocabulary) member
    obtain ⟨left, right, token_cuts⟩ := spelled.cuts
    exact ⟨token_cuts.fits.start, token_cuts.fits.stop⟩
  tag_ne := by
    intro token member
    obtain ⟨lexeme, lexeme_member, spelled⟩ := exists_spelled (cuts.lex_spells vocabulary) member
    rw [spelled.tag]
    exact tag_ne_of_mem_lex lexeme_member
  text := by rw [join_map_text (cuts.lex_spells vocabulary), textOf_lex, cuts.slice]
  length_le := by
    rw [length_layOut, cuts.slice, String.length_ofList]
    exact length_lex_le vocabulary middle

end Window.Cuts

section Whole

variable {vocabulary : Vocabulary} {source : String} {token : Token}

/-- The tokens of a whole source partition what 32-bit offsets reach. -/
theorem tokens_partition (vocabulary : Vocabulary) (source : String) :
    (Window.whole source).Partition source (tokens vocabulary source) := by
  obtain ⟨visible, hidden, cuts⟩ := Window.whole_cuts source
  rw [Session.tokens_of_cuts vocabulary cuts]
  exact cuts.partition vocabulary

theorem exists_lexeme (member : token ∈ tokens vocabulary source) :
    ∃ visible, ∃ lexeme ∈ lex vocabulary visible, Spells source token lexeme := by
  obtain ⟨visible, hidden, cuts⟩ := Window.whole_cuts source
  rw [Session.tokens_of_cuts vocabulary cuts] at member
  exact ⟨visible, exists_spelled (cuts.lex_spells vocabulary) member⟩

end Whole

namespace Session

/-- What a request that reads on answers when nothing is left to read. -/
def Request.replyAtEnd? : Request → Option Reply
  | advance => some .done
  | next => some (.handed none)
  | take _ => some (.handedAll [])
  | collect => some (.handedAll [])
  | _ => none

/-- Carry out requests one after another. -/
def performAll : Session → List Request → Session × List Reply
  | session, [] => (session, [])
  | session, request :: requests =>
      let (next, reply) := session.perform request
      let (last, replies) := performAll next requests
      (last, reply :: replies)

variable {vocabulary : Vocabulary} {place : Cursor}

/-- A finished session answers every request that reads on without changing. -/
theorem perform_finished (at_end : place.atEnd = true) {request : Request} {reply : Reply}
    (asked : request.replyAtEnd? = some reply) :
    (finished vocabulary place).perform request = (finished vocabulary place, reply) := by
  have no_next : (finished vocabulary place).next? = none := rfl
  have no_tokens (count : Nat) :
      (finished vocabulary place).take count = ([], finished vocabulary place) := by
    cases count <;> rfl
  have still : (finished vocabulary place).advance = finished vocabulary place := if_pos at_end
  cases request with
  | advance =>
      obtain rfl := Option.some.inj asked
      rw [perform, still]
  | next =>
      obtain rfl := Option.some.inj asked
      rw [perform, no_next]
  | take count =>
      obtain rfl := Option.some.inj asked
      rw [perform, no_tokens]
  | collect =>
      obtain rfl := Option.some.inj asked
      rw [perform, collect, no_tokens]
  | scan | scanWindow | reset => simp [Request.replyAtEnd?] at asked

theorem performAll_finished (at_end : place.atEnd = true) (requests : List Request)
    (asked : ∀ request ∈ requests, request.replyAtEnd?.isSome) :
    performAll (finished vocabulary place) requests =
      (finished vocabulary place, requests.filterMap Request.replyAtEnd?) := by
  induction requests with
  | nil => rfl
  | cons request requests ih =>
      obtain ⟨reply, answer⟩ := Option.isSome_iff_exists.mp (asked request List.mem_cons_self)
      have others := ih fun other member => asked other (List.mem_cons_of_mem _ member)
      rw [performAll, perform_finished at_end answer, List.filterMap_cons_some answer]
      dsimp only
      rw [others]

/-- Iterating over a window that fits ends with tokens that partition it.  The session that is left
answers from then on that nothing is left. -/
theorem collect_partition (vocabulary : Vocabulary) (source : String) (window : Window)
    (fits : window.Fits source) :
    ∃ session tokens last,
      ofWindow vocabulary source window = .ok session ∧
      session.collect = (tokens, last) ∧
      (∀ count, tokens.length ≤ count → session.take count = (tokens, last)) ∧
      window.Partition source tokens ∧
      last.token = ⟨.endOfInput, window.stop, window.stop⟩ ∧
      last.next? = none ∧
      ∀ requests : List Request, (∀ request ∈ requests, request.replyAtEnd?.isSome) →
        performAll last requests = (last, requests.filterMap Request.replyAtEnd?) := by
  obtain ⟨before, middle, after, cuts⟩ := fits.cuts
  have at_end : (Cursor.ofWindow source window).toEnd.atEnd = true :=
    decide_eq_true (UInt32.le_refl _)
  refine ⟨_, _, _, ofWindow_of_fits fits, collect_ofCursor cuts, ?_, cuts.partition vocabulary, rfl,
    rfl, performAll_finished at_end⟩
  intro count enough
  rw [length_layOut] at enough
  exact take_ofCursor cuts enough

/-- A window with a NUL, a wide character and a string that ends in a backslash. -/
theorem collect_partition_open_string :
    (⟨1, 7⟩ : Window).Fits "a\x00 é\"\\b" ∧
      ∃ session tokens last,
        ofWindow .builtin "a\x00 é\"\\b" ⟨1, 7⟩ = .ok session ∧
        session.collect = (tokens, last) ∧
        Tiles 1 tokens 7 ∧
        performAll last [.next, .advance, .collect] =
          (last, [.handed none, .done, .handedAll []]) := by
  have fits : (⟨1, 7⟩ : Window).Fits "a\x00 é\"\\b" := by decide +kernel
  obtain ⟨session, tokens, last, scanned, collected, -, partition, -, -, stays⟩ :=
    collect_partition .builtin _ _ fits
  exact ⟨fits, session, tokens, last, scanned, collected, partition.tiles, stays _ (by decide)⟩

end Session
end ConfigLexer
