import ConfigLexer.Proofs.Session.Partition
import ConfigLexer.Proofs.Text.Quoting
import ConfigLexer.Proofs.Window.Text
import ConfigLexer.Report

/-!
# Lexical reports are read back

A report holds as many line breaks as tokens, since no line break is left in a quoted text.  The
name of a tag and the offsets of a span hold no blank, so a line is cut at its first two spaces, and
the quotes of the text behind them are undone.  Hence a report tells every token and every text.
-/

namespace ConfigLexer

open Text Lexeme

variable {source : String} {window : Option Window}

namespace Tag

theorem ofName?_name (tag : Tag) : ofName? tag.name = some tag := by
  have checked : ∀ tag ∈ all, ofName? tag.name = some tag := by decide +kernel
  exact checked tag tag.mem_all

theorem isBlank_of_mem_name (tag : Tag) : ∀ c ∈ tag.name.toList, isBlank c = false := by
  have checked : ∀ tag ∈ all, tag.name.toList.all (fun c => !isBlank c) = true := by
    decide +kernel
  simpa using checked tag tag.mem_all

end Tag

namespace Report

/-! ## Lines -/

/-- What a line of a lexical report says. -/
structure Entry where
  /-- The category of a token. -/
  tag : Tag
  /-- The offsets of the token. -/
  span : Window
  /-- The text of the token. -/
  text : String
deriving DecidableEq, Repr

namespace Entry

/-- What there is to say about a token of a source. -/
def ofToken (source : String) (token : Token) : Entry :=
  ⟨token.tag, token.span, token.text source⟩

/-- The token that an entry is about. -/
def token (entry : Entry) : Token := ⟨entry.tag, entry.span.start, entry.span.stop⟩

theorem map_token_ofToken (source : String) (scanned : List Token) :
    (scanned.map (ofToken source)).map Entry.token = scanned := by
  rw [List.map_map]
  exact List.map_id scanned

theorem map_text_ofToken (source : String) (scanned : List Token) :
    (scanned.map (ofToken source)).map Entry.text = scanned.map (Token.text source) := by
  rw [List.map_map]
  rfl

/-- What stands before and after the first space. -/
def cutAtSpace (line : List Char) : List Char × List Char :=
  (line.takeWhile (· ≠ ' '), (line.dropWhile (· ≠ ' ')).drop 1)

/-- Read a line: the name of a tag up to the first space, offsets up to the second one, and quoted
text. -/
def ofLine? (line : List Char) : Option Entry := do
  let (name, rest) := cutAtSpace line
  let (span, quoted) := cutAtSpace rest
  some ⟨← Tag.ofName? (.ofList name), ← Window.ofText? (.ofList span),
    .ofList (← Quoted.decode? quoted)⟩

theorem cutAtSpace_append {word : List Char} (written : ∀ c ∈ word, isBlank c = false)
    (rest : List Char) : cutAtSpace (word ++ ' ' :: rest) = (word, rest) := by
  have no_space : ∀ c ∈ word, decide (c ≠ ' ') = true := by
    intro c member
    rw [decide_eq_true_eq]
    rintro rfl
    cases written ' ' member
  rw [cutAtSpace, takeWhile_run no_space rfl, dropWhile_run no_space rfl]
  rfl

end Entry

theorem toList_tokenLine (source : String) (token : Token) :
    (tokenLine source token).toList = token.tag.name.toList ++ ' ' ::
      (token.span.text.toList ++ ' ' :: Quoted.encode (token.text source).toList) := by
  simp [tokenLine, spanLine, quote, Token.text, Token.span]

theorem ofLine?_tokenLine (source : String) (token : Token) :
    Entry.ofLine? (tokenLine source token).toList = some (.ofToken source token) := by
  rw [toList_tokenLine, Entry.ofLine?, Entry.cutAtSpace_append token.tag.isBlank_of_mem_name]
  dsimp only
  rw [Entry.cutAtSpace_append fun c member => Window.isBlank_of_mem_text member]
  simp only [String.ofList_toList, Tag.ofName?_name, Window.ofText?_text, Quoted.decode?_encode,
    Option.bind_eq_bind, Option.bind_some, Entry.ofToken]

theorem newline_notMem_tokenLine (source : String) (token : Token) :
    '\n' ∉ (tokenLine source token).toList := by
  have no_name : '\n' ∉ token.tag.name.toList := by
    intro member
    cases token.tag.isBlank_of_mem_name '\n' member
  have no_span : '\n' ∉ token.span.text.toList := by
    intro member
    cases Window.isBlank_of_mem_text member
  simp [toList_tokenLine, no_name, no_span, Quoted.newline_notMem_encode]

/-! ## Reports -/

/-- Read the lines of a report.  Each of them has its end. -/
def entries? (report : String) : Option (List Entry) :=
  (report.toList.splitOn '\n').dropLast.mapM Entry.ofLine?

theorem toList_ofLines (lines : List String) :
    (ofLines lines).toList = ['\n'].intercalate (lines.map String.toList ++ [[]]) := by
  rw [ofLines, String.toList_join]
  induction lines with
  | nil => rfl
  | cons line lines ih =>
      have more : lines.map String.toList ++ [[]] ≠ [] := by simp
      rw [List.map_cons, List.flatMap_cons, ih, List.map_cons, List.cons_append,
        List.intercalate_cons_of_ne_nil more, String.toList_append]
      rfl

theorem splitOn_ofLines {lines : List String} (unbroken : ∀ line ∈ lines, '\n' ∉ line.toList) :
    (ofLines lines).toList.splitOn '\n' = lines.map String.toList ++ [[]] := by
  rw [toList_ofLines]
  apply List.splitOn_intercalate
  · intro line member
    rcases List.mem_append.mp member with member | member
    · obtain ⟨text, text_member, rfl⟩ := List.mem_map.mp member
      exact unbroken text text_member
    · obtain rfl := List.mem_singleton.mp member
      exact List.not_mem_nil
  · simp

theorem entries?_ofLines (source : String) (scanned : List Token) :
    entries? (ofLines (scanned.map (tokenLine source))) =
      some (scanned.map (Entry.ofToken source)) := by
  have unbroken : ∀ line ∈ scanned.map (tokenLine source), '\n' ∉ line.toList := by
    intro line member
    obtain ⟨token, -, rfl⟩ := List.mem_map.mp member
    exact newline_notMem_tokenLine source token
  have read : Entry.ofLine? ∘ String.toList ∘ tokenLine source =
      fun token => pure (Entry.ofToken source token) :=
    funext fun token => ofLine?_tokenLine source token
  rw [entries?, splitOn_ofLines unbroken, List.dropLast_concat, List.map_map, List.mapM_map, read,
    List.mapM_pure]
  rfl

/-! ## Lexical reports -/

/-- The tokens of a source, or of a window of it. -/
def scan (vocabulary : Vocabulary) (source : String) :
    Option Window → Except WindowError (List Token)
  | some window => tokensIn vocabulary source window
  | none => .ok (tokens vocabulary source)

theorem lexical_eq (vocabulary : Vocabulary) (source : String) (window : Option Window) :
    lexical vocabulary source window = (scan vocabulary source window).map fun scanned =>
      ofLines (scanned.map (tokenLine source)) := by
  cases window <;> rfl

/-- Reports of two scans are the same only if their tokens and the texts of these are. -/
theorem eq_of_ofLines_eq {target : String} {scanned others : List Token}
    (same : ofLines (others.map (tokenLine target)) = ofLines (scanned.map (tokenLine source))) :
    others = scanned ∧ others.map (Token.text target) = scanned.map (Token.text source) := by
  have read := entries?_ofLines target others
  rw [same, entries?_ofLines, Option.some_inj] at read
  constructor
  · rw [← Entry.map_token_ofToken target others, ← read, Entry.map_token_ofToken]
  · rw [← Entry.map_text_ofToken, ← read, Entry.map_text_ofToken]

/-- The report tells everything about the tokens of a span of a source. -/
structure Lossless (report source : String) (span : Window) (scanned : List Token) : Prop where
  /-- There is one line for each token, and every line has its end. -/
  lines : report = ofLines (scanned.map (tokenLine source))
  /-- No other line break is in the report. -/
  unbroken : ∀ token ∈ scanned, '\n' ∉ (tokenLine source token).toList
  /-- Each line tells its token, with the text in the source. -/
  line : ∀ token ∈ scanned, ∃ text, slice? source token.start.toNat token.stop.toNat = some text ∧
    Entry.ofLine? (tokenLine source token).toList = some ⟨token.tag, token.span, text⟩
  /-- The report tells the tokens in their order. -/
  entries : entries? report = some (scanned.map (Entry.ofToken source))
  /-- The texts that the report tells make up the text of the span. -/
  text : (entries? report).map (fun entries => String.join (entries.map Entry.text)) =
    some (slice source span.start.toNat span.stop.toNat)

/-- The report of a span tells everything about the tokens that the span is cut into. -/
theorem lossless_of_cuts {span : Window} {before middle after : List Char}
    (vocabulary : Vocabulary) (cuts : span.Cuts source before middle after) :
    Lossless (ofLines ((layOut span.start.toNat (lex vocabulary middle)).map (tokenLine source)))
      source span (layOut span.start.toNat (lex vocabulary middle)) where
  lines := rfl
  unbroken := fun token _ => newline_notMem_tokenLine source token
  line := by
    intro token member
    obtain ⟨lexeme, -, spelled⟩ := exists_spelled (cuts.lex_spells vocabulary) member
    obtain ⟨left, right, token_cuts⟩ := spelled.cuts
    have found : slice? source token.span.start.toNat token.span.stop.toNat =
        some (String.ofList lexeme.text) := by
      rw [token_cuts.start, token_cuts.stop]
      exact slice?_of_split token_cuts.text
    refine ⟨String.ofList lexeme.text, found, ?_⟩
    rw [ofLine?_tokenLine, Entry.ofToken, spelled.text]
  entries := entries?_ofLines source _
  text := by
    rw [entries?_ofLines, Option.map_some, Entry.map_text_ofToken, (cuts.partition vocabulary).text]

theorem scan_of_fits (vocabulary : Vocabulary) (fits : ∀ chosen ∈ window, chosen.Fits source) :
    ∃ before middle after, (window.getD (.whole source)).Cuts source before middle after ∧
      scan vocabulary source window =
        .ok (layOut (window.getD (.whole source)).start.toNat (lex vocabulary middle)) := by
  cases window with
  | none =>
      obtain ⟨visible, hidden, cuts⟩ := Window.whole_cuts source
      exact ⟨[], visible, hidden, cuts, congrArg Except.ok (Session.tokens_of_cuts vocabulary cuts)⟩
  | some window =>
      obtain ⟨before, middle, after, cuts⟩ := (fits window rfl).cuts
      exact ⟨before, middle, after, cuts, Session.tokensIn_of_cuts vocabulary cuts⟩

/-- A lexical report is read back.  Its texts make up what was scanned, and no other tokens and
texts have the same report. -/
theorem lexical_lossless (vocabulary : Vocabulary) (source : String) (window : Option Window)
    (fits : ∀ chosen ∈ window, chosen.Fits source) :
    ∃ scanned report, scan vocabulary source window = .ok scanned ∧
      lexical vocabulary source window = .ok report ∧
      Lossless report source (window.getD (.whole source)) scanned ∧
      (window = none → source.utf8ByteSize < UInt32.size →
        (entries? report).map (fun entries => String.join (entries.map Entry.text)) =
          some source) ∧
      ∀ other target frame others, scan other target frame = .ok others →
        lexical other target frame = .ok report →
          others = scanned ∧ others.map (Token.text target) = scanned.map (Token.text source) := by
  obtain ⟨before, middle, after, cuts, found⟩ := scan_of_fits vocabulary fits
  have lossless := lossless_of_cuts vocabulary cuts
  refine ⟨_, _, found, by rw [lexical_eq, found]; rfl, lossless, ?_, ?_⟩
  · rintro rfl fits_all
    have all := (Window.whole_cuts_all fits_all).slice
    rw [String.ofList_toList] at all
    rw [lossless.text]
    exact congrArg some all
  · intro other target frame others scanned reported
    rw [lexical_eq, scanned] at reported
    exact eq_of_ofLines_eq (Except.ok.inj reported)

/-- A string with a quote, a line break and hidden characters in it, and a backslash that escapes
nothing. -/
theorem lexical_lossless_escapes :
    (⟨2, 12⟩ : Window).Fits "é\"\\\"\n\x00\u0301\"\\n#" ∧
      lexical .builtin "é\"\\\"\n\x00\u0301\"\\n#" (some ⟨2, 12⟩) =
        .ok (ofLines ["STRING 2..10 \"\\\"\\\\\\\"\\n\\0\\u\x7b301\x7d\\\"\"",
          "BAD_CHARACTER 10..11 \"\\\\\"", "IDENTIFIER 11..12 \"n\""]) ∧
      entries? (ofLines ["STRING 2..10 \"\\\"\\\\\\\"\\n\\0\\u\x7b301\x7d\\\"\"",
          "BAD_CHARACTER 10..11 \"\\\\\"", "IDENTIFIER 11..12 \"n\""]) =
        some [⟨.string, ⟨2, 10⟩, "\"\\\"\n\x00\u0301\""⟩, ⟨.badCharacter, ⟨10, 11⟩, "\\"⟩,
          ⟨.identifier, ⟨11, 12⟩, "n"⟩] := by
  have cuts : (⟨2, 12⟩ : Window).Cuts "é\"\\\"\n\x00\u0301\"\\n#" ['é']
      ['"', '\\', '"', '\n', '\x00', '\u0301', '"', '\\', 'n'] ['#'] :=
    ⟨by decide +kernel, by decide +kernel, by decide +kernel⟩
  have known : scan .builtin "é\"\\\"\n\x00\u0301\"\\n#" (some ⟨2, 12⟩) =
      .ok [⟨.string, 2, 10⟩, ⟨.badCharacter, 10, 11⟩, ⟨.identifier, 11, 12⟩] :=
    (Session.tokensIn_of_cuts .builtin cuts).trans (congrArg Except.ok (by decide +kernel))
  obtain ⟨scanned, report, found, reported, lossless, -⟩ :=
    lexical_lossless .builtin "é\"\\\"\n\x00\u0301\"\\n#" (some ⟨2, 12⟩) (by
      rintro _ ⟨⟩
      exact cuts.fits)
  obtain rfl := Except.ok.inj (known.symm.trans found)
  obtain rfl := lossless.lines
  have lines : [⟨.string, 2, 10⟩, ⟨.badCharacter, 10, 11⟩, ⟨.identifier, 11, 12⟩].map
      (tokenLine "é\"\\\"\n\x00\u0301\"\\n#") =
        ["STRING 2..10 \"\\\"\\\\\\\"\\n\\0\\u\x7b301\x7d\\\"\"",
          "BAD_CHARACTER 10..11 \"\\\\\"", "IDENTIFIER 11..12 \"n\""] := by
    decide +kernel
  have read := lossless.entries
  rw [lines] at reported read
  exact ⟨cuts.fits, reported, read.trans (congrArg some (by decide +kernel))⟩

end Report
end ConfigLexer
