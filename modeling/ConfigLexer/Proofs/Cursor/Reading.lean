import ConfigLexer.Cursor.Token
import ConfigLexer.Proofs.Cursor.Eating
import ConfigLexer.Proofs.Cursor.Seeking
import ConfigLexer.Proofs.Lexeme.Reach

/-!
# Reading a token is reading a lexeme

A cursor that stands before a character reads the token of the lexeme that starts there: the tag is
the tag of the lexeme, and the cursor stops behind its last character.  The reader decides by bytes
and looks at characters only where a byte is not plain, so its dispatch is compared with the rules
of the grammar for plain characters and for the others apart.
-/

namespace ConfigLexer
namespace Lexeme

open Text

/-- No mark starts a name, so names may be told from marks before or after them. -/
theorem no_mark_of_startsName {c : Char} (plain : isPlain c = true) (starts : startsName c = true) :
    delimiterTag? c = none ∧ operatorTail? c = none := by
  rw [← startsName_plainPart.agrees c plain] at starts
  exact forall_plain
    (fun c => Cursor.startsNameByte c.toUInt8 = true →
      delimiterTag? c = none ∧ operatorTail? c = none)
    (by decide +kernel) plain starts

theorem isMark_of_operatorTail? {c : Char} {marks : List Char}
    (found : operatorTail? c = some marks) :
    ∀ mark ∈ marks, isMark mark = true := by
  rw [← List.all_eq_true]
  rw [operatorTail?] at found
  split_ifs at found <;> obtain rfl := Option.some.inj found <;> decide

/-- The rule of a delimiter, of an operator or of a character that starts nothing. -/
def markRule (c : Char) : Rule :=
  match delimiterTag? c, operatorTail? c with
  | some tag, _ => .delimiter tag
  | none, some tail => .operator tail
  | none, none => .other

theorem ruleOf_of_plain {c : Char} (plain : isPlain c = true) :
    ruleOf c =
      if isBlank c then .blanks
      else if c == '#' then .hash
      else if c == '/' then .slash
      else if c == '"' then .quote
      else if isDigit c then .digit
      else if startsName c then .name
      else markRule c := by
  simp only [beq_iff_eq]
  rw [ruleOf, markRule]
  cases starts : startsName c with
  | false => cases delimiterTag? c <;> cases operatorTail? c <;> rfl
  | true =>
      obtain ⟨no_delimiter, no_operator⟩ := no_mark_of_startsName plain starts
      rw [no_delimiter, no_operator]

theorem ruleOf_of_wide {c : Char} (wide : isPlain c = false) :
    ruleOf c =
      if isBlank c then .blanks
      else if isDigit c then .digit
      else if isLetter c then .name
      else .other := by
  have ne (mark : Char) (plain : isPlain mark = true) : c ≠ mark := by
    rintro rfl
    simp [plain] at wide
  have no_delimiter : delimiterTag? c = none := by
    simp (disch := decide) only [delimiterTag?, ne, if_false]
  have no_operator : operatorTail? c = none := by
    simp (disch := decide) only [operatorTail?, ne, if_false, or_false]
  have starts : startsName c = isLetter c := by
    rw [startsName, beq_of_wide wide (by decide), Bool.or_false]
  rw [ruleOf, no_delimiter, no_operator, starts, if_neg (ne _ (by decide)),
    if_neg (ne _ (by decide)), if_neg (ne _ (by decide))]

end Lexeme

namespace Cursor

open Text Lexeme

/-- A move of the cursor over as many characters as a rule counts. -/
structure Passes (move : Cursor → Cursor) (count : List Char → Nat) : Prop where
  /-- The move ends behind the counted characters. -/
  moved : ∀ {cursor before after}, Between cursor before after →
    (move cursor).Between (before ++ after.take (count after)) (after.drop (count after))

namespace Passes

variable {move next : Cursor → Cursor} {count later : List Char → Nat} {kind : Char → Bool}

theorem zero : Passes id fun _ => 0 where
  moved between := by simpa using between

/-- A move over a character that a test accepts, and then over what follows it. -/
theorem guard {accepts : UInt8 → Bool} (part : PlainPart accepts kind)
    (plain : ∀ c, kind c = true → isPlain c = true) (no_nul : kind '\x00' = false)
    (passes : Passes move count) :
    Passes (fun cursor => if accepts cursor.current then move cursor.advance else cursor)
      (OneAhead.guarded kind count) where
  moved := by
    intro cursor before after between
    rcases after with _ | ⟨c, after⟩
    · simpa [between.accepts_nil part no_nul, OneAhead.guarded] using between
    rw [between.accepts_cons part, OneAhead.guarded]
    cases of_kind : kind c with
    | false => simpa using between
    | true =>
        have c_plain := plain c of_kind
        simpa [c_plain] using passes.moved (between.advance c_plain)

theorem guard_mark {mark : Char} (known : isMark mark = true) (passes : Passes move count) :
    Passes (fun cursor => if cursor.current == mark.toUInt8 then move cursor.advance else cursor)
      (OneAhead.guarded (· == mark) count) := by
  obtain ⟨plain, not_nul⟩ := isMark_iff.mp known
  refine passes.guard (beq_plainPart plain) ?_ (beq_false_of_ne not_nul.symm)
  intro c same
  rwa [eq_of_beq same]

theorem guard_either (mark other : Char) (known : isMark mark = true)
    (other_known : isMark other = true) (passes : Passes move count) :
    Passes
      (fun cursor =>
        if cursor.current == mark.toUInt8 || cursor.current == other.toUInt8 then
          move cursor.advance
        else cursor)
      (OneAhead.guarded (fun c => c == mark || c == other) count) := by
  obtain ⟨plain, not_nul⟩ := isMark_iff.mp known
  obtain ⟨other_plain, other_not_nul⟩ := isMark_iff.mp other_known
  refine passes.guard ((beq_plainPart plain).or (beq_plainPart other_plain)) ?_ ?_
  · intro c same
    rcases Bool.or_eq_true_iff.mp same with same | same
    · rwa [eq_of_beq same]
    · rwa [eq_of_beq same]
  · rw [beq_false_of_ne not_nul.symm, beq_false_of_ne other_not_nul.symm, Bool.or_self]

theorem follow (first : Passes move count) (second : Passes next later) :
    Passes (next ∘ move) (OneAhead.followed count later) where
  moved between := (second.moved (first.moved between)).join

theorem of_takeWhile
    (run : ∀ {cursor before after}, Between cursor before after →
      (move cursor).Between (before ++ after.takeWhile kind) (after.dropWhile kind)) :
    Passes move fun text => (text.takeWhile kind).length where
  moved between := by
    rw [take_length_takeWhile, drop_length_takeWhile]
    exact run between

theorem eatBlanks : Passes Cursor.eatBlanks fun text => (text.takeWhile isBlank).length :=
  of_takeWhile Between.eatBlanks

theorem eatName : Passes (fun cursor => eatNameUpTo cursor.ahead cursor) nameReach :=
  of_takeWhile Between.eatName

theorem eatInOrder {marks : List Char} (known : ∀ mark ∈ marks, isMark mark = true) :
    Passes (Cursor.eatInOrder (marks.map Char.toUInt8)) (inOrderReach marks) := by
  induction marks with
  | nil => exact zero
  | cons mark marks ih =>
      have later := ih fun other member => known other (List.mem_cons_of_mem _ member)
      exact later.guard_mark (known mark List.mem_cons_self)

theorem eatDigits (points : Bool) :
    Passes (Cursor.eatDigits points)
      fun text => (text.takeWhile fun c => isDigit c || (points && c == '.')).length :=
  of_takeWhile fun between => between.eatDigits points

theorem eatNumber : Passes Cursor.eatNumber numberReach := by
  have mantissa : Passes (Cursor.eatDigits true) mantissaReach := eatDigits true
  have digits : Passes (Cursor.eatDigits false) digitReach := by
    have passes := eatDigits false
    simp only [Bool.false_and, Bool.or_false] at passes
    exact passes
  have sign := zero.guard_either '+' '-' (by decide) (by decide)
  have exponent := (sign.follow digits).guard_either 'e' 'E' (by decide) (by decide)
  rw [← exponentReach_eq] at exponent
  exact mantissa.follow exponent

end Passes

/-- A reading that gives the tag of a lexeme and stops behind its characters, the first one and a
number of those after it. -/
structure Reads (reading : Tag × Cursor) (before : List Char) (first : Char) (rest : List Char)
    (reached : Tag × Nat) : Prop where
  /-- The tag is that of the lexeme. -/
  tag : reading.1 = reached.1
  /-- The cursor stands behind the lexeme. -/
  place : reading.2.Between (before ++ first :: rest.take reached.2) (rest.drop reached.2)

variable {cursor place : Cursor} {before rest : List Char} {first : Char}
variable {vocabulary : Vocabulary} {tag : Tag} {move : Cursor → Cursor} {count : List Char → Nat}

theorem Passes.reads {number : Nat} (passes : Passes move count)
    (between : cursor.Between before (first :: rest))
    (counted : count (first :: rest) = number + 1) :
    Reads (tag, move cursor) before first rest (tag, number) where
  tag := rfl
  place := by simpa [counted] using passes.moved between

theorem Passes.reads_after (passes : Passes move count)
    (between : place.Between (before ++ [first]) rest) :
    Reads (tag, move place) before first rest (tag, count rest) where
  tag := rfl
  place := by simpa using passes.moved between

theorem seekLineEnd_passes : Passes seekLineEnd lineReach := ⟨Between.seekLineEnd⟩

theorem eatPastBlockEnd_passes : Passes eatPastBlockEnd blockReach := ⟨Between.eatPastBlockEnd⟩

theorem eatString_passes : Passes eatString stringReach := ⟨Between.eatString⟩

namespace Between

theorem readName_reads (between : cursor.Between before (first :: rest)) :
    Reads (cursor.readName vocabulary) before first rest
      (Rule.name.reach vocabulary first rest) := by
  have start : cursor.Between before ((first :: rest.take (nameReach rest)) ++
      rest.drop (nameReach rest)) := by
    rwa [List.cons_append, List.take_append_drop]
  have moved := Passes.eatName.moved between.advanceChar
  rw [List.append_assoc, List.singleton_append] at moved
  refine ⟨?_, moved⟩
  rw [readName, start.sliceFrom moved]
  rfl

theorem readSlash_reads (between : cursor.Between before ('/' :: rest)) :
    Reads cursor.readSlash before '/' rest (Rule.slash.reach vocabulary '/' rest) := by
  have slash := between.advance (by decide)
  rw [readSlash, Rule.reach, slash.current_beq (by decide),
    slash.current_beq (by decide)]
  rcases rest with _ | ⟨second, rest⟩
  · exact Passes.zero.reads_after slash
  by_cases line : second = '/'
  · subst line
    have moved := seekLineEnd_passes.moved (slash.advance (by decide))
    have reached : lineReach ('/' :: rest) = lineReach rest + 1 := rfl
    refine ⟨rfl, ?_⟩
    simpa [reached] using moved
  by_cases block : second = '*'
  · subst block
    have moved := eatPastBlockEnd_passes.moved (slash.advance (by decide))
    refine ⟨rfl, ?_⟩
    simpa using moved
  · have alone : Reads (.operator, cursor.advance) before '/' (second :: rest) (.operator, 0) :=
      Passes.zero.reads_after slash
    simpa [line, block] using alone

end Between

/-! ## The dispatch -/

theorem delimiterTag?_toUInt8 {c : Char} (plain : isPlain c = true) :
    delimiterTag? c.toUInt8 = Lexeme.delimiterTag? c :=
  forall_plain (fun c => delimiterTag? c.toUInt8 = Lexeme.delimiterTag? c) (by decide +kernel) plain

theorem operatorTail?_toUInt8 {c : Char} (plain : isPlain c = true) (not_slash : c ≠ '/') :
    operatorTail? c.toUInt8 = (Lexeme.operatorTail? c).map (·.map Char.toUInt8) :=
  forall_plain
    (fun c => c ≠ '/' → operatorTail? c.toUInt8 = (Lexeme.operatorTail? c).map (·.map Char.toUInt8))
    (by decide +kernel) plain not_slash

namespace Between

theorem eatBlanks_reads (between : cursor.Between before (first :: rest))
    (blank : isBlank first = true) :
    Reads (.whitespace, cursor.eatBlanks) before first rest
      (Rule.blanks.reach vocabulary first rest) :=
  Passes.eatBlanks.reads between (by rw [List.takeWhile_cons_of_pos blank, List.length_cons])

theorem eatNumber_reads (between : cursor.Between before (first :: rest))
    (digit : isDigit first = true) :
    Reads (.number, cursor.eatNumber) before first rest
      (Rule.digit.reach vocabulary first rest) := by
  have mantissa : mantissaReach (first :: rest) = mantissaReach rest + 1 := by
    rw [mantissaReach, List.takeWhile_cons_of_pos (by rw [digit, Bool.true_or]), List.length_cons]
    rfl
  refine Passes.eatNumber.reads between ?_
  rw [numberReach, mantissa, List.drop_succ_cons, Nat.add_right_comm]
  rfl

theorem readWide_reads (between : cursor.Between before (first :: rest))
    (wide : isPlain first = false) :
    Reads (cursor.readWide vocabulary) before first rest
      ((ruleOf first).reach vocabulary first rest) := by
  rw [readWide, between.character_cons, ruleOf_of_wide wide]
  cases blank : isBlank first with
  | true => exact between.eatBlanks_reads blank
  | false =>
      cases digit : isDigit first with
      | true => exact between.eatNumber_reads digit
      | false =>
          cases letter : isLetter first with
          | true => exact between.readName_reads
          | false => exact Passes.zero.reads_after between.advanceChar

theorem readMark_reads (between : cursor.Between before (first :: rest))
    (plain : isPlain first = true) (not_slash : first ≠ '/') :
    Reads cursor.readMark before first rest
      ((markRule first).reach vocabulary first rest) := by
  have past := between.advance plain
  rw [readMark, between.current_cons, firstByte_of_plain plain, delimiterTag?_toUInt8 plain,
    operatorTail?_toUInt8 plain not_slash, markRule]
  cases Lexeme.delimiterTag? first with
  | some tag => exact Passes.zero.reads_after past
  | none =>
      cases tail : Lexeme.operatorTail? first with
      | none => exact Passes.zero.reads_after past
      | some marks => exact (Passes.eatInOrder (isMark_of_operatorTail? tail)).reads_after past

/-- A cursor before a character reads the lexeme that starts with it. -/
theorem readToken (vocabulary : Vocabulary) (between : cursor.Between before (first :: rest)) :
    Reads (cursor.readToken vocabulary) before first rest (reach vocabulary first rest) := by
  have byte_eq (mark : Char) (mark_plain : isPlain mark = true) :
      (cursor.current == mark.toUInt8) = (isPlain first && first == mark) :=
    between.accepts_cons (beq_plainPart mark_plain)
  rw [reach_eq, Cursor.readToken, between.isWideByte_cons, between.accepts_cons isBlank_plainPart,
    between.accepts_cons isDigit_plainPart, between.accepts_cons startsName_plainPart,
    byte_eq _ (by decide), byte_eq _ (by decide), byte_eq _ (by decide)]
  cases plain : isPlain first with
  | false => exact between.readWide_reads plain
  | true =>
      have past := between.advance plain
      simp only [Bool.true_and, Bool.not_true, Bool.false_eq_true, if_false]
      rw [ruleOf_of_plain plain]
      cases blank : isBlank first with
      | true => exact between.eatBlanks_reads blank
      | false =>
      cases hash : first == '#' with
      | true => exact seekLineEnd_passes.reads_after past
      | false =>
      cases slash : first == '/' with
      | true =>
          obtain rfl := eq_of_beq slash
          exact between.readSlash_reads
      | false =>
      cases quote : first == '"' with
      | true => exact eatString_passes.reads_after past
      | false =>
      cases digit : isDigit first with
      | true => exact between.eatNumber_reads digit
      | false =>
      cases starts : startsName first with
      | true => exact between.readName_reads
      | false => exact between.readMark_reads plain (ne_of_beq_false slash)

end Between
end Cursor
end ConfigLexer
