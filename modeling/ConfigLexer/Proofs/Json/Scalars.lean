import ConfigLexer.Proofs.Json.Grammar
import ConfigLexer.Proofs.Text.Bytes

/-!
# Readers of JSON scalars

Each reader of a literal, a string or a number takes exactly the text that the grammar gives to it,
whatever stands behind.  Strings are read with all their escapes, and are read over in the same
places.
-/

namespace ConfigLexer
namespace Json

theorem ok_bind {α β : Type} (read : α) (next : α → Reading β) :
    ((Except.ok read : Reading α) >>= next) = next read :=
  rfl

theorem bind_ok {α β : Type} (reading : Reading α) (next : α → β) :
    (reading >>= fun read => .ok (next read)) = reading.map next := by
  cases reading <;> rfl

/-! ## Spaces and literals -/

theorem skipSpaces_append {before rest : List Char} (spaces : Spaces before) :
    skipSpaces (before ++ rest) = skipSpaces rest :=
  List.dropWhile_append_of_pos spaces

theorem skipSpaces_stop {before rest : List Char} {c : Char} (spaces : Spaces before)
    (stop : isSpace c = false) : skipSpaces (before ++ c :: rest) = c :: rest := by
  rw [skipSpaces_append spaces, skipSpaces, List.dropWhile_cons_of_neg (by simp [stop])]

theorem readLiteral_append (word rest : List Char) :
    readLiteral word (word ++ rest) = .ok rest := by
  induction word with
  | nil => rfl
  | cons c word word_read => rw [List.cons_append, readLiteral, if_pos rfl, word_read]

/-! ## Code units -/

section Unit

variable {unit value : Nat} {c : Char} {digits rest : List Char}

theorem HexDigit.hexDigit_eq (digit : HexDigit value c) :
    Text.hexDigit? c = some value ∧ c.utf8Size = 1 := by
  have lower : ∀ value < 16, Text.hexDigit? value.digitChar = some value ∧
      value.digitChar.utf8Size = 1 := by decide
  have upper : ∀ value < 16, Text.hexDigit? value.digitChar.toUpper = some value ∧
      value.digitChar.toUpper.utf8Size = 1 := by decide
  cases digit with
  | lower below => exact lower value below
  | upper below => exact upper value below

theorem UnitForm.readHexEscape_append (form : UnitForm unit digits) :
    readHexEscape (digits ++ rest) = .ok (unit, rest) := by
  obtain ⟨first, second, third, fourth, rfl⟩ := form
  obtain ⟨first_value, first_size⟩ := first.hexDigit_eq
  obtain ⟨second_value, second_size⟩ := second.hexDigit_eq
  obtain ⟨third_value, third_size⟩ := third.hexDigit_eq
  obtain ⟨fourth_value, fourth_size⟩ := fourth.hexDigit_eq
  simp [readHexEscape, Text.hexValue?, Text.byteCount, first_value, first_size, second_value,
    second_size, third_value, third_size, fourth_value, fourth_size]
  omega

end Unit

theorem not_surrogate (c : Char) :
    isHighSurrogate c.toNat = false ∧ isLowSurrogate c.toNat = false := by
  have valid : c.toNat < 0xD800 ∨ 0xDFFF < c.toNat ∧ c.toNat < 0x110000 := c.valid
  simp only [isHighSurrogate, isLowSurrogate, Bool.and_eq_false_iff, decide_eq_false_iff_not]
  omega

theorem toNat_lt (c : Char) : c.toNat < 0x110000 := by
  have valid : c.toNat < 0xD800 ∨ 0xDFFF < c.toNat ∧ c.toNat < 0x110000 := c.valid
  omega

theorem highUnit_lt {c : Char} (high : 0x10000 ≤ c.toNat) : highUnit c < 0xDC00 := by
  have below := toNat_lt c
  rw [highUnit]
  omega

theorem isHighSurrogate_highUnit {c : Char} (high : 0x10000 ≤ c.toNat) :
    isHighSurrogate (highUnit c) = true := by
  have lower : 0xD800 ≤ highUnit c := Nat.le_add_right _ _
  simp [isHighSurrogate, lower, highUnit_lt high]

theorem isLowSurrogate_highUnit {c : Char} (high : 0x10000 ≤ c.toNat) :
    isLowSurrogate (highUnit c) = false := by
  simp [isLowSurrogate, Nat.not_le.mpr (highUnit_lt high)]

theorem isLowSurrogate_lowUnit (c : Char) : isLowSurrogate (lowUnit c) = true := by
  have lower : 0xDC00 ≤ lowUnit c := Nat.le_add_right _ _
  have upper : lowUnit c < 0xE000 := by
    rw [lowUnit]
    omega
  simp [isLowSurrogate, lower, upper]

/-- A character is the one of its two code units. -/
theorem ofSurrogates_units {c : Char} (high : 0x10000 ≤ c.toNat) :
    ofSurrogates (highUnit c) (lowUnit c) = c := by
  have whole : 0x10000 + (highUnit c - 0xD800) * 0x400 + (lowUnit c - 0xDC00) = c.toNat := by
    rw [highUnit, lowUnit]
    omega
  rw [ofSurrogates, whole, Char.ofNat_toNat]

/-! ## Strings -/

section Strings

variable {c : Char} {chars form forms rest : List Char}

theorem shortEscape_of_mem {letter : Char} (listed : (letter, c) ∈ escapes) :
    shortEscape? letter = some c ∧ letter ≠ 'u' := by
  have all : ∀ pair ∈ escapes, shortEscape? pair.1 = some pair.2 ∧ pair.1 ≠ 'u' := by decide
  exact all _ listed

theorem readEscape_short {letter : Char} (listed : (letter, c) ∈ escapes) :
    readEscape (letter :: rest) = .ok (c, rest) := by
  obtain ⟨stands, not_unit⟩ := shortEscape_of_mem listed
  rw [readEscape, stands]
  exact not_unit

theorem UnitForm.readEscape_append {digits : List Char} (written : UnitForm c.toNat digits) :
    readEscape ('u' :: digits ++ rest) = .ok (c, rest) := by
  obtain ⟨not_high, not_low⟩ := not_surrogate c
  rw [List.cons_append, readEscape, written.readHexEscape_append, ok_bind]
  simp only [not_low, not_high, Char.ofNat_toNat, Bool.false_eq_true, if_false]

theorem readEscape_pair {high low : List Char} (two_units : 0x10000 ≤ c.toNat)
    (first : UnitForm (highUnit c) high) (second : UnitForm (lowUnit c) low) :
    readEscape ('u' :: high ++ '\\' :: 'u' :: low ++ rest) = .ok (c, rest) := by
  rw [List.append_assoc, List.cons_append, readEscape, first.readHexEscape_append, ok_bind]
  simp only [isLowSurrogate_highUnit two_units, isHighSurrogate_highUnit two_units,
    Bool.false_eq_true, if_false, if_true, List.cons_append, readLowSurrogate]
  rw [second.readHexEscape_append, ok_bind]
  simp only [isLowSurrogate_lowUnit, if_true, ofSurrogates_units two_units]

/-- One character is read from any of its forms. -/
theorem CharForm.readStringUpTo_append (written : CharForm c form) (count : Nat)
    (rest : List Char) :
    readStringUpTo (count + 1) (form ++ rest) =
      (readStringUpTo count rest).map fun read => (c :: read.1, read.2) := by
  have escaped {escape : List Char} (read : readEscape (escape ++ rest) = .ok (c, rest)) :
      readStringUpTo (count + 1) ('\\' :: escape ++ rest) =
        (readStringUpTo count rest).map fun read => (c :: read.1, read.2) := by
    rw [List.cons_append, readStringUpTo, read, ok_bind]
    exact bind_ok _ _
  cases written with
  | plain printed not_quote not_escape =>
      rw [List.singleton_append, readStringUpTo, if_neg (by simpa [isControl] using printed)]
      · exact bind_ok _ _
      · exact not_quote
      · exact not_escape
  | short listed => exact escaped (readEscape_short listed)
  | unit digits => exact escaped digits.readEscape_append
  | pair two_units first second => exact escaped (readEscape_pair two_units first second)

/-- A string is read from any of its forms. -/
theorem CharsForm.readStringUpTo_append (written : CharsForm chars forms) {count : Nat}
    (enough : chars.length < count) :
    readStringUpTo count (forms ++ '"' :: rest) = .ok (chars, rest) := by
  induction written generalizing count with
  | nil =>
      obtain _ | count := count
      · contradiction
      · rw [List.nil_append, readStringUpTo]
  | cons first _ others_read =>
      obtain _ | count := count
      · contradiction
      · rw [List.length_cons, Nat.add_lt_add_iff_right] at enough
        rw [List.append_assoc, first.readStringUpTo_append, others_read enough]
        rfl

theorem CharForm.length_pos (written : CharForm c form) : 0 < form.length := by
  cases written <;> simp

theorem CharsForm.length_le (written : CharsForm chars forms) : chars.length ≤ forms.length := by
  induction written with
  | nil => exact Nat.le_refl _
  | cons first _ others_le =>
      have first_pos := first.length_pos
      rw [List.length_cons, List.length_append]
      omega

theorem CharsForm.readString_append (written : CharsForm chars forms) :
    readString (forms ++ '"' :: rest) = .ok (chars, rest) := by
  refine written.readStringUpTo_append ?_
  have shorter := written.length_le
  rw [List.length_append]
  omega

/-- One character is read over in at most as many steps as it is written with. -/
theorem CharForm.skipStringUpTo_append (written : CharForm c form) :
    ∃ steps ≤ form.length, ∀ count rest,
      skipStringUpTo (count + steps) (form ++ rest) = skipStringUpTo count rest := by
  cases written with
  | plain printed not_quote not_escape =>
      refine ⟨1, Nat.le_refl 1, fun count rest => ?_⟩
      rw [List.singleton_append, skipStringUpTo, if_neg (by simp [isControl]; omega)]
      · exact not_quote
      · exact not_escape
  | short listed =>
      obtain ⟨stands, not_unit⟩ := shortEscape_of_mem listed
      refine ⟨1, Nat.le_succ 1, fun count rest => ?_⟩
      rw [List.cons_append, skipStringUpTo, List.singleton_append, skipEscape, stands]
      · rfl
      · exact not_unit
  | unit digits =>
      refine ⟨1, by simp, fun count rest => ?_⟩
      rw [List.cons_append, skipStringUpTo, List.cons_append, skipEscape,
        digits.readHexEscape_append]
      rfl
  | pair high first second =>
      refine ⟨2, by simp, fun count rest => ?_⟩
      rw [List.append_assoc, List.cons_append, skipStringUpTo, List.cons_append, skipEscape,
        first.readHexEscape_append, List.cons_append]
      change skipStringUpTo (count + 1) ('\\' :: _) = _
      rw [skipStringUpTo, List.cons_append, skipEscape, second.readHexEscape_append]
      rfl

theorem CharsForm.skipStringUpTo_append (written : CharsForm chars forms) {count : Nat}
    (enough : forms.length < count) :
    skipStringUpTo count (forms ++ '"' :: rest) = .ok rest := by
  induction written generalizing count with
  | nil =>
      obtain _ | count := count
      · contradiction
      · rw [List.nil_append, skipStringUpTo]
  | cons first _ others_skipped =>
      obtain ⟨steps, steps_le, skip⟩ := first.skipStringUpTo_append
      rw [List.length_append] at enough
      obtain ⟨count, rfl⟩ := Nat.exists_eq_add_of_le' (show steps ≤ count by omega)
      rw [List.append_assoc, skip, others_skipped (by omega)]

/-- A string is read over, whichever of its forms it has. -/
theorem CharsForm.skipString_append (written : CharsForm chars forms) :
    skipString (forms ++ '"' :: rest) = .ok rest := by
  refine written.skipStringUpTo_append ?_
  rw [List.length_append]
  omega

end Strings

/-! ## Numbers -/

section Numbers

variable {form rest : List Char}

/-- What stands behind a number is no part of it. -/
def EndsNumber (rest : List Char) : Prop :=
  ∀ c ∈ rest.head?, isDigit c = false ∧ c ≠ '.' ∧ c ≠ 'e' ∧ c ≠ 'E'

theorem startsWithDigit_append (written : Digits form) (rest : List Char) :
    startsWithDigit (form ++ rest) = true := by
  obtain ⟨not_empty, digits⟩ := written
  cases form with
  | nil => contradiction
  | cons first _ => simpa [startsWithDigit] using digits first List.mem_cons_self

theorem dropWhile_isDigit_append (digits : ∀ c ∈ form, isDigit c = true)
    (stop : startsWithDigit rest = false) : (form ++ rest).dropWhile isDigit = rest := by
  rw [List.dropWhile_append_of_pos digits]
  cases rest with
  | nil => rfl
  | cons next _ => exact List.dropWhile_cons_of_neg (by simpa [startsWithDigit] using stop)

theorem head?_ne_of_startsWithDigit {text : List Char} {mark : Char}
    (starts : startsWithDigit text = true) (no_digit : isDigit mark = false) :
    text.head? ≠ some mark := by
  intro first
  rw [startsWithDigit, first, Option.map_some, Option.getD_some, no_digit] at starts
  contradiction

theorem EndsNumber.startsWithDigit_eq (ends : EndsNumber rest) : startsWithDigit rest = false := by
  cases rest with
  | nil => rfl
  | cons next _ => exact (ends next rfl).1

theorem ExponentForm.startsWithDigit_eq (written : ExponentForm form) (ends : EndsNumber rest) :
    startsWithDigit (form ++ rest) = false := by
  cases written with
  | none => exact ends.startsWithDigit_eq
  | digits mark _ _ => rcases mark with rfl | rfl <;> rfl

theorem FractionForm.startsWithDigit_eq {behind : List Char} (written : FractionForm form)
    (stop : startsWithDigit behind = false) : startsWithDigit (form ++ behind) = false := by
  cases written with
  | none => exact stop
  | digits _ => rfl

theorem ExponentForm.skipExponent_append (written : ExponentForm form) (ends : EndsNumber rest) :
    skipExponent (form ++ rest) = .ok rest := by
  cases written with
  | none =>
      cases rest with
      | nil => rfl
      | cons next _ =>
          obtain ⟨-, -, not_e, not_E⟩ := ends next rfl
          rw [List.nil_append, skipExponent, if_neg (by simp [not_e, not_E])]
  | @digits _ sign digits mark sign_or_none all_digits =>
      have skipped := dropWhile_isDigit_append all_digits.2 ends.startsWithDigit_eq
      have starts := startsWithDigit_append all_digits rest
      rw [List.append_assoc, List.cons_append, skipExponent, if_pos mark]
      generalize digits ++ rest = behind at skipped starts ⊢
      rcases sign_or_none with rfl | rfl | rfl
      · have no_plus : behind.head? ≠ some '+' := head?_ne_of_startsWithDigit starts (by decide)
        have no_minus : behind.head? ≠ some '-' := head?_ne_of_startsWithDigit starts (by decide)
        simp [starts, skipped, no_plus, no_minus]
      · simp [starts, skipped]
      · simp [starts, skipped]

theorem skipFraction_eq (stop : rest.head? ≠ some '.') : skipFraction rest = skipExponent rest := by
  rw [skipFraction]
  rintro text rfl
  exact stop rfl

theorem FractionForm.skipFraction_append {behind : List Char} (written : FractionForm form)
    (exponent : ExponentForm behind) (ends : EndsNumber rest) :
    skipFraction (form ++ behind ++ rest) = .ok rest := by
  have stop := exponent.startsWithDigit_eq ends
  cases written with
  | none =>
      rw [List.nil_append, skipFraction_eq, exponent.skipExponent_append ends]
      cases exponent with
      | none => exact fun point => (ends _ point).2.1 rfl
      | digits mark _ _ => rcases mark with rfl | rfl <;> simp
  | digits digits =>
      rw [List.append_assoc, List.cons_append, skipFraction,
        if_pos (startsWithDigit_append digits _), dropWhile_isDigit_append digits.2 stop,
        exponent.skipExponent_append ends]

theorem IntegerForm.skipMagnitude_append {fraction exponent : List Char}
    (written : IntegerForm form) (point : FractionForm fraction) (mark : ExponentForm exponent)
    (ends : EndsNumber rest) :
    skipMagnitude (form ++ (fraction ++ exponent ++ rest)) = .ok rest := by
  have behind := point.skipFraction_append mark ends
  have stop := point.startsWithDigit_eq (mark.startsWithDigit_eq ends)
  rw [← List.append_assoc] at stop
  cases written with
  | zero =>
      have none_dropped : ([] ++ (fraction ++ exponent ++ rest)).dropWhile isDigit = _ :=
        dropWhile_isDigit_append (by simp) stop
      rw [List.singleton_append, skipMagnitude, if_neg (by decide),
        if_neg (not_and_of_not_right _ (by rw [stop]; decide)), ← List.nil_append (_ ++ _),
        none_dropped, behind]
  | digits not_zero digits =>
      have first_digit := digits.2 _ List.mem_cons_self
      rw [List.cons_append, skipMagnitude, if_neg (by simp [first_digit]),
        if_neg (by simp [not_zero]), dropWhile_isDigit_append
          (fun c inside => digits.2 c (List.mem_cons_of_mem _ inside)) stop, behind]

end Numbers

end Json
end ConfigLexer
