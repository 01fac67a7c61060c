import ConfigLexer.Proofs.Session.Run

/-!
# Scanning again from a border

A token depends on nothing before its start, and a window that ends right behind it ends it in the
same way as what follows it did.  So scanning between two borders of an earlier scan finds the
tokens between these borders, and a host that keeps only an offset can go on from there.
-/

namespace ConfigLexer

open Text Lexeme Token

namespace Window.Cuts

variable {vocabulary : Vocabulary} {source : String} {window : Window}
variable {before middle after : List Char} {offset : UInt32}

theorem at_border (cuts : window.Cuts source before middle after)
    (border : Border window.start.toNat (layOut window.start.toNat (lex vocabulary middle))
      offset.toNat) :
    ∃ first second, lex vocabulary middle = first ++ second ∧
      Window.Cuts ⟨window.start, offset⟩ source before (textOf first) (textOf second ++ after) ∧
      Window.Cuts ⟨offset, window.stop⟩ source (before ++ textOf first) (textOf second) after := by
  have fits := window.stop.toNat_lt_size
  rw [cuts.stop_eq] at fits
  obtain ⟨first, second, lexed, rfl, place⟩ := cut_at_border fits border
  exact ⟨first, second, lexed, cuts.split place⟩

end Window.Cuts

variable {vocabulary : Vocabulary} {source : String} {window : Window} {tokens : List Token}

/-- Cutting a window at a border cuts the list of its tokens. -/
theorem tokensIn_cut {offset : UInt32} (scanned : tokensIn vocabulary source window = .ok tokens)
    (border : Border window.start.toNat tokens offset.toNat) :
    ∃ left right, tokens = left ++ right ∧
      tokensIn vocabulary source ⟨window.start, offset⟩ = .ok left ∧
      tokensIn vocabulary source ⟨offset, window.stop⟩ = .ok right ∧
      Tiles window.start.toNat left offset.toNat ∧ Tiles offset.toNat right window.stop.toNat := by
  obtain ⟨before, middle, after, cuts⟩ := (Session.fits_of_tokensIn scanned).cuts
  rw [Session.tokensIn_of_cuts vocabulary cuts] at scanned
  obtain rfl := Except.ok.inj scanned
  obtain ⟨first, second, lexed, first_cuts, second_cuts⟩ := cuts.at_border border
  have left_scan : tokensIn vocabulary source ⟨window.start, offset⟩ = _ :=
    Session.tokensIn_of_cuts vocabulary first_cuts
  have right_scan : tokensIn vocabulary source ⟨offset, window.stop⟩ = _ :=
    Session.tokensIn_of_cuts vocabulary second_cuts
  have left_tiles := first_cuts.lex_tiles vocabulary
  have right_tiles := second_cuts.lex_tiles vocabulary
  rw [lex_left lexed] at left_scan left_tiles
  rw [lex_right lexed] at right_scan right_tiles
  refine ⟨_, _, ?_, left_scan, right_scan, left_tiles, right_tiles⟩
  rw [lexed, layOut_append, ← first_cuts.stop_eq]

/-- Between two borders of a scan are the tokens that lie between them. -/
theorem tokensIn_between {first last : UInt32}
    (scanned : tokensIn vocabulary source window = .ok tokens) (ordered : first ≤ last)
    (first_border : Border window.start.toNat tokens first.toNat)
    (last_border : Border window.start.toNat tokens last.toNat) :
    ∃ left between right, tokens = left ++ (between ++ right) ∧
      tokensIn vocabulary source ⟨first, last⟩ = .ok between ∧
      tokens.filter (fun token =>
        first.toNat ≤ token.start.toNat && token.stop.toNat ≤ last.toNat) = between := by
  obtain ⟨left, rest, rfl, -, rest_scan, left_tiles, -⟩ := tokensIn_cut scanned first_border
  have rest_border :=
    left_tiles.border_of_append last_border (UInt32.le_iff_toNat_le.mp ordered)
  obtain ⟨between, right, rfl, between_scan, -, between_tiles, right_tiles⟩ :=
    tokensIn_cut rest_scan rest_border
  exact ⟨left, between, right, rfl, between_scan,
    left_tiles.filter_between between_tiles right_tiles⟩

theorem tokensIn_span {token : Token} (scanned : tokensIn vocabulary source window = .ok tokens)
    (tiles : Tiles window.start.toNat tokens window.stop.toNat) (member : token ∈ tokens) :
    tokensIn vocabulary source token.span = .ok [token] := by
  obtain ⟨left, right, rfl, left_tiles, token_tiles, right_tiles⟩ := tiles.around member
  have start_border := left_tiles.border ([token] ++ right)
  have stop_border := (left_tiles.append token_tiles).border right
  rw [List.append_assoc] at stop_border
  obtain ⟨-, between, -, -, between_scan, filtered⟩ :=
    tokensIn_between scanned (UInt32.le_iff_toNat_le.mpr token_tiles.le) start_border stop_border
  rw [left_tiles.filter_between token_tiles right_tiles] at filtered
  rw [Token.span, between_scan, filtered]

/-- The tokens that are found by scanning for one token at a time, each from the end of the one
before it, until there is none left. -/
inductive Chained (vocabulary : Vocabulary) (source : String) (stop : UInt32) :
    UInt32 → List Token → Prop
  | done {pos : UInt32} {token : Token} :
      tokenAt vocabulary source stop pos = .ok token →
      token.tag = .endOfInput →
      Chained vocabulary source stop pos []
  | step {pos : UInt32} {token : Token} {tokens : List Token} :
      tokenAt vocabulary source stop pos = .ok token →
      token.tag ≠ .endOfInput →
      Chained vocabulary source stop token.stop tokens →
      Chained vocabulary source stop pos (token :: tokens)

theorem Chained.unique {vocabulary : Vocabulary} {source : String} {stop pos : UInt32}
    {tokens others : List Token} (chain : Chained vocabulary source stop pos tokens)
    (other : Chained vocabulary source stop pos others) : tokens = others := by
  induction chain generalizing others with
  | done found ended =>
      cases other with
      | done => rfl
      | step other_found not_ended _ =>
          rw [found] at other_found
          obtain rfl := Except.ok.inj other_found
          exact absurd ended not_ended
  | step found not_ended _ ih =>
      cases other with
      | done other_found ended =>
          rw [found] at other_found
          obtain rfl := Except.ok.inj other_found
          exact absurd ended not_ended
      | step other_found _ rest =>
          rw [found] at other_found
          obtain rfl := Except.ok.inj other_found
          rw [ih rest]

/-- The lexemes of a window are found one by one, each where the one before it ends. -/
theorem chained_of_cuts {vocabulary : Vocabulary} {source : String} {window : Window}
    {before after : List Char} {lexemes : List Lexeme}
    (lexed : lex vocabulary (textOf lexemes) = lexemes)
    (cuts : window.Cuts source before (textOf lexemes) after) :
    Chained vocabulary source window.stop window.start
      (layOut window.start.toNat lexemes) := by
  induction lexemes generalizing window before with
  | nil =>
      have found := Session.tokenAt_of_cuts vocabulary cuts
      rw [textOf_nil, lex_nil] at found
      exact .done found rfl
  | cons lexeme lexemes ih =>
      have found := Session.tokenAt_of_cuts vocabulary cuts
      rw [lexed] at found
      have tag_ne : lexeme.tag ≠ .endOfInput :=
        tag_ne_of_mem_lex (lexed ▸ List.mem_cons_self)
      have place : (window.start.toNat + byteCount lexeme.text).toUInt32.toNat =
          window.start.toNat + byteCount lexeme.text := by
        have bound := window.stop.toNat_lt_size
        rw [cuts.stop_eq, textOf_cons, byteCount_append] at bound
        exact toNat_toUInt32 (by omega)
      have others := ih (lex_tail lexed) (cuts.split place).2
      dsimp only at others
      rw [place] at others
      exact .step found tag_ne others

/-- Scanning between two borders of a scan gives the tokens between them. -/
theorem tokensIn_between_borders (vocabulary : Vocabulary) (source : String) (window : Window)
    (fits : window.Fits source) :
    ∃ tokens, tokensIn vocabulary source window = .ok tokens ∧
      (∀ first last : UInt32, first ≤ last →
        Border window.start.toNat tokens first.toNat →
        Border window.start.toNat tokens last.toNat →
        ∃ between, tokensIn vocabulary source ⟨first, last⟩ = .ok between ∧
          between <:+: tokens ∧
          between = tokens.filter fun token => first ≤ token.start && token.stop ≤ last) ∧
      (∀ border : UInt32, Border window.start.toNat tokens border.toNat →
        ∃ left right,
          tokensIn vocabulary source ⟨window.start, border⟩ = .ok left ∧
          tokensIn vocabulary source ⟨border, window.stop⟩ = .ok right ∧
          left ++ right = tokens) ∧
      (∀ token ∈ tokens, tokensIn vocabulary source token.span = .ok [token]) ∧
      ∀ found, Chained vocabulary source window.stop window.start found ↔ found = tokens := by
  obtain ⟨before, middle, after, cuts⟩ := fits.cuts
  have scanned := Session.tokensIn_of_cuts vocabulary cuts
  have tiles := cuts.lex_tiles vocabulary
  have lexed : lex vocabulary (textOf (lex vocabulary middle)) = lex vocabulary middle := by
    rw [textOf_lex]
  have chain := chained_of_cuts lexed (by rwa [textOf_lex])
  refine ⟨_, scanned, ?_, ?_, fun token => tokensIn_span scanned tiles, ?_⟩
  · intro first last ordered first_border last_border
    obtain ⟨left, between, right, split, between_scan, filtered⟩ :=
      tokensIn_between scanned ordered first_border last_border
    refine ⟨between, between_scan, ⟨left, right, ?_⟩, ?_⟩
    · rw [split, List.append_assoc]
    · simp only [UInt32.le_iff_toNat_le]
      exact filtered.symm
  · intro border is_border
    obtain ⟨left, right, split, left_scan, right_scan, -⟩ := tokensIn_cut scanned is_border
    exact ⟨left, right, left_scan, right_scan, split.symm⟩
  · intro found
    constructor
    · intro other
      exact other.unique chain
    · rintro rfl
      exact chain

/-- Between the first and the last border of a keyword, a blank and an open string. -/
theorem tokensIn_between_borders_open_string :
    (⟨0, 5⟩ : Window).Fits "if \"ax" ∧
      tokensIn .builtin "if \"ax" ⟨2, 5⟩ = .ok [⟨.whitespace, 2, 3⟩, ⟨.string, 3, 5⟩] ∧
      Chained .builtin "if \"ax" 5 0 [⟨.keyword, 0, 2⟩, ⟨.whitespace, 2, 3⟩, ⟨.string, 3, 5⟩] := by
  have cuts : (⟨0, 5⟩ : Window).Cuts "if \"ax" [] ['i', 'f', ' ', '"', 'a'] ['x'] :=
    ⟨by decide +kernel, by decide +kernel, by decide +kernel⟩
  have known : tokensIn .builtin "if \"ax" ⟨0, 5⟩ =
      .ok [⟨.keyword, 0, 2⟩, ⟨.whitespace, 2, 3⟩, ⟨.string, 3, 5⟩] :=
    (Session.tokensIn_of_cuts .builtin cuts).trans (congrArg Except.ok (by decide +kernel))
  obtain ⟨tokens, scanned, between, -, -, chained⟩ :=
    tokensIn_between_borders .builtin _ _ cuts.fits
  obtain rfl := Except.ok.inj (known.symm.trans scanned)
  obtain ⟨found, found_scan, -, rfl⟩ := between 2 5 (by decide) (.inr ⟨_, .head _, rfl⟩)
    (.inr ⟨⟨.string, 3, 5⟩, by decide, rfl⟩)
  exact ⟨cuts.fits, found_scan, (chained _).mpr rfl⟩

end ConfigLexer
