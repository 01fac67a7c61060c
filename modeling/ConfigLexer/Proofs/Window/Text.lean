import ConfigLexer.Proofs.Text.Plain
import ConfigLexer.Window.Text

/-!
# Windows are read back

A window is written without blanks, and its numerals without dots.  So the two dots between them
are the first dots in the text, and both offsets are read back.
-/

namespace ConfigLexer

open Text

variable {c : Char} {number : Nat} {text : List Char}

theorem Text.trim_eq_self (written : ∀ c ∈ text, isBlank c = false) : trim text = text := by
  have kept {text : List Char} (written : ∀ c ∈ text, isBlank c = false) :
      trimStart text = text := by
    cases text with
    | nil => rfl
    | cons c rest =>
        rw [trimStart, List.dropWhile_cons, written c List.mem_cons_self]
        rfl
  rw [trim, kept written, kept fun c member => written c (List.mem_reverse.mp member),
    List.reverse_reverse]

/-! ## Decimal numerals -/

theorem toList_toString (number : Nat) : (toString number).toList = Nat.toDigits 10 number := by
  rw [Nat.toString_eq_ofList_toDigits, String.toList_ofList]

/-- A digit is neither a blank nor one of the signs around the numerals of a window. -/
theorem marks_of_isDigit (digit : c.isDigit = true) : isBlank c = false ∧ c ≠ '.' ∧ c ≠ '+' := by
  have plain : isPlain c = true := by
    rw [isPlain_iff_lt]
    rw [Char.isDigit, Bool.and_eq_true, decide_eq_true_eq, decide_eq_true_eq] at digit
    have upper := UInt32.le_iff_toNat_le.mp digit.2
    exact Nat.lt_of_le_of_lt upper (by decide)
  revert digit
  exact forall_plain (fun c => c.isDigit = true → isBlank c = false ∧ c ≠ '.' ∧ c ≠ '+')
    (by decide +kernel) plain

theorem marks_of_mem_toDigits (member : c ∈ Nat.toDigits 10 number) :
    isBlank c = false ∧ c ≠ '.' ∧ c ≠ '+' :=
  marks_of_isDigit (Nat.isDigit_of_mem_toDigits (by decide) (by decide) member)

namespace Window

theorem dropPlus_eq_self (unsigned : ∀ c ∈ text, c ≠ '+') : dropPlus text = text := by
  cases text with
  | nil => rfl
  | cons c rest =>
      rw [dropPlus]
      rintro _ same
      exact unsigned c List.mem_cons_self (List.cons.inj same).1

theorem readOffset?_toDigits (offset : UInt32) :
    readOffset? (Nat.toDigits 10 offset.toNat) = some offset := by
  have trimmed : trim (Nat.toDigits 10 offset.toNat) = Nat.toDigits 10 offset.toNat :=
    trim_eq_self fun c member => (marks_of_mem_toDigits member).1
  have digits : (Nat.toDigits 10 offset.toNat).all Char.isDigit = true :=
    List.all_eq_true.mpr fun c member => Nat.isDigit_of_mem_toDigits (by decide) (by decide) member
  have unsigned : dropPlus (Nat.toDigits 10 offset.toNat) = Nat.toDigits 10 offset.toNat :=
    dropPlus_eq_self fun c member => (marks_of_mem_toDigits member).2.2
  rw [readOffset?, trimmed, unsigned, Nat.ofDigitChars_ten_toDigits, if_pos
    ⟨Nat.toDigits_ne_nil, digits, offset.toNat_lt_size⟩]
  exact congrArg some (UInt32.ofNat_toNat)

/-- Behind a text without dots, two dots are the first ones. -/
theorem splitAtDots?_append {rest : List Char} (undotted : ∀ c ∈ text, c ≠ '.') :
    splitAtDots? (text ++ '.' :: '.' :: rest) = some (text, rest) := by
  induction text with
  | nil => rfl
  | cons c text ih =>
      rw [List.cons_append, splitAtDots?,
        ih fun c member => undotted c (List.mem_cons_of_mem _ member)]
      · rfl
      · exact fun _ same _ => undotted c List.mem_cons_self same

theorem toList_text (window : Window) :
    window.text.toList =
      Nat.toDigits 10 window.start.toNat ++ '.' :: '.' :: Nat.toDigits 10 window.stop.toNat := by
  rw [Window.text, String.toList_append, String.toList_append, toList_toString, toList_toString]
  simp

theorem ofText?_text (window : Window) : ofText? window.text = some window := by
  rw [ofText?, toList_text, splitAtDots?_append fun c member => (marks_of_mem_toDigits member).2.1]
  simp only [readOffset?_toDigits, Option.bind_eq_bind, Option.bind_some]

theorem isBlank_of_mem_text {window : Window} (member : c ∈ window.text.toList) :
    isBlank c = false := by
  rw [toList_text, List.mem_append, List.mem_cons, List.mem_cons] at member
  rcases member with digit | rfl | rfl | digit
  · exact (marks_of_mem_toDigits digit).1
  · decide
  · decide
  · exact (marks_of_mem_toDigits digit).1

end Window
end ConfigLexer
