import ConfigLexer.CommandLine.Lex
import ConfigLexer.Proofs.Text.Runs
import ConfigLexer.Proofs.Window.Text
import Mathlib.Data.List.Induction
import Mathlib.Data.List.TakeWhile

/-!
# The grammar of windows

A window is written as two offsets with two dots between them.  Blanks may stand around an offset,
one plus sign before its digits, and any number of zeros at their start.  There is no dot in an
offset, so the first two dots in a row are those between the offsets, and it is enough to look for
them.
-/

namespace ConfigLexer

open Text

/-! ## Trimming -/

section Trimming

variable {left middle right : List Char}

theorem Text.trim_padded (left_blank : ∀ c ∈ left, isBlank c = true)
    (right_blank : ∀ c ∈ right, isBlank c = true) (nonempty : middle ≠ [])
    (written : ∀ c ∈ middle, isBlank c = false) : trim (left ++ middle ++ right) = middle := by
  have first_written : (middle ++ right).head?.any isBlank = false := by
    rw [List.head?_append, List.head?_eq_some_head nonempty]
    exact written _ (List.head_mem nonempty)
  have last_written : middle.reverse.head?.any isBlank = false := by
    rw [List.head?_reverse, List.getLast?_eq_some_getLast nonempty]
    exact written _ (List.getLast_mem nonempty)
  have trimmed_start : trimStart (left ++ (middle ++ right)) = middle ++ right :=
    dropWhile_run left_blank first_written
  have trimmed_end : trimStart (right.reverse ++ middle.reverse) = middle.reverse :=
    dropWhile_run (fun c member => right_blank c (List.mem_reverse.mp member)) last_written
  rw [trim, List.append_assoc, trimmed_start, List.reverse_append, trimmed_end,
    List.reverse_reverse]

/-- What is trimmed from a text are blanks around the rest. -/
theorem Text.exists_padding (text : List Char) :
    ∃ left right, text = left ++ trim text ++ right ∧ (∀ c ∈ left, isBlank c = true) ∧
      ∀ c ∈ right, isBlank c = true := by
  refine ⟨text.takeWhile isBlank, ((trimStart text).reverse.takeWhile isBlank).reverse, ?_,
    fun c member => List.mem_takeWhile_imp member, fun c member => ?_⟩
  · have start_eq : trim text ++ ((trimStart text).reverse.takeWhile isBlank).reverse =
        trimStart text := by
      rw [trim, ← List.reverse_append]
      exact List.reverse_eq_iff.mpr List.takeWhile_append_dropWhile
    rw [List.append_assoc, start_eq]
    exact List.takeWhile_append_dropWhile.symm
  · exact List.mem_takeWhile_imp (List.mem_reverse.mp member)

end Trimming

namespace Window

/-! ## Offsets -/

/-- Digits write a number in decimal. -/
inductive WritesNumber : List Char → Nat → Prop
  | digit {c : Char} : c.isDigit = true → WritesNumber [c] (c.toNat - '0'.toNat)
  | snoc {digits : List Char} {c : Char} {number : Nat} : WritesNumber digits number →
      c.isDigit = true → WritesNumber (digits ++ [c]) (10 * number + (c.toNat - '0'.toNat))

/-- A text writes an offset: digits, before them at most one plus sign, and blanks around both. -/
inductive WritesOffset (offset : UInt32) : List Char → Prop
  | padded {left sign digits right : List Char} : (∀ c ∈ left, isBlank c = true) →
      sign = [] ∨ sign = ['+'] → WritesNumber digits offset.toNat →
      (∀ c ∈ right, isBlank c = true) → WritesOffset offset (left ++ (sign ++ digits) ++ right)

/-- A text writes a window: its two offsets, with two dots between them. -/
inductive Writes (window : Window) : List Char → Prop
  | between {start stop : List Char} : WritesOffset window.start start →
      WritesOffset window.stop stop → Writes window (start ++ '.' :: '.' :: stop)

section Offsets

variable {c : Char} {digits sign text side : List Char} {number : Nat} {offset : UInt32}

theorem writesNumber_iff :
    WritesNumber digits number ↔ digits ≠ [] ∧ (∀ c ∈ digits, c.isDigit = true) ∧
      Nat.ofDigitChars 10 digits 0 = number := by
  constructor
  · intro writes
    induction writes with
    | digit digit => simpa [Nat.ofDigitChars] using digit
    | snoc _ digit ih =>
        obtain ⟨-, all_digits, value⟩ := ih
        refine ⟨by simp, ?_, by rw [Nat.ofDigitChars_append, value]; rfl⟩
        rw [List.forall_mem_append, List.forall_mem_singleton]
        exact ⟨all_digits, digit⟩
  · rintro ⟨nonempty, all_digits, rfl⟩
    induction digits using List.reverseRecOn with
    | nil => exact absurd rfl nonempty
    | append_singleton digits c ih =>
        rw [List.forall_mem_append, List.forall_mem_singleton] at all_digits
        rw [Nat.ofDigitChars_append]
        cases digits with
        | nil => simpa [Nat.ofDigitChars] using WritesNumber.digit all_digits.2
        | cons => exact .snoc (ih (List.cons_ne_nil _ _) all_digits.1) all_digits.2

theorem dropPlus_signed (signed : sign = [] ∨ sign = ['+']) (unsigned : ∀ c ∈ text, c ≠ '+') :
    dropPlus (sign ++ text) = text := by
  rcases signed with rfl | rfl
  · exact dropPlus_eq_self unsigned
  · rfl

theorem exists_sign (text : List Char) :
    ∃ sign, (sign = [] ∨ sign = ['+']) ∧ text = sign ++ dropPlus text := by
  rw [dropPlus.eq_def]
  split
  · exact ⟨['+'], .inr rfl, rfl⟩
  · exact ⟨[], .inl rfl, rfl⟩

theorem marks_of_mem_signed (signed : sign = [] ∨ sign = ['+'])
    (writes : WritesNumber digits number) (member : c ∈ sign ++ digits) :
    isBlank c = false ∧ c ≠ '.' := by
  rcases List.mem_append.mp member with of_sign | of_digits
  · rcases signed with rfl | rfl
    · cases of_sign
    · obtain rfl := List.mem_singleton.mp of_sign
      decide
  · have marks := marks_of_isDigit ((writesNumber_iff.mp writes).2.1 c of_digits)
    exact ⟨marks.1, marks.2.1⟩

/-- What writes an offset is a sign and digits, once the blanks around them are trimmed. -/
theorem writesOffset_iff :
    WritesOffset offset side ↔ WritesNumber (dropPlus (trim side)) offset.toNat := by
  constructor
  · rintro ⟨left_blank, signed, writes, right_blank⟩
    obtain ⟨nonempty, all_digits, -⟩ := writesNumber_iff.mp writes
    rw [trim_padded left_blank right_blank (List.append_ne_nil_of_right_ne_nil _ nonempty)
        fun c member => (marks_of_mem_signed signed writes member).1,
      dropPlus_signed signed fun c member => (marks_of_isDigit (all_digits c member)).2.2]
    exact writes
  · intro writes
    obtain ⟨left, right, side_eq, left_blank, right_blank⟩ := exists_padding side
    obtain ⟨sign, signed, trimmed_eq⟩ := exists_sign (trim side)
    rw [side_eq, trimmed_eq]
    exact .padded left_blank signed writes right_blank

theorem readOffset?_eq_some_iff : readOffset? side = some offset ↔ WritesOffset offset side := by
  rw [writesOffset_iff, writesNumber_iff, readOffset?]
  simp only [Option.ite_none_right_eq_some, List.all_eq_true, Option.some.injEq]
  constructor
  · rintro ⟨⟨nonempty, all_digits, fits⟩, rfl⟩
    exact ⟨nonempty, all_digits, (UInt32.toNat_ofNat_of_lt' fits).symm⟩
  · rintro ⟨nonempty, all_digits, value⟩
    rw [value]
    exact ⟨⟨nonempty, all_digits, offset.toNat_lt_size⟩, UInt32.ofNat_toNat⟩

theorem WritesOffset.undotted (writes : WritesOffset offset side) : ∀ c ∈ side, c ≠ '.' := by
  obtain ⟨left_blank, signed, writes, right_blank⟩ := writes
  have blank_undotted {c : Char} (blank : isBlank c = true) : c ≠ '.' := by
    rintro rfl
    exact absurd blank (by decide)
  intro c member
  rw [List.mem_append, List.mem_append] at member
  rcases member with (of_left | of_middle) | of_right
  · exact blank_undotted (left_blank c of_left)
  · exact (marks_of_mem_signed signed writes of_middle).2
  · exact blank_undotted (right_blank c of_right)

end Offsets

/-! ## Windows -/

section Windows

variable {start stop text : List Char} {offset : UInt32} {window : Window}

theorem eq_of_splitAtDots? (found : splitAtDots? text = some (start, stop)) :
    text = start ++ '.' :: '.' :: stop := by
  fun_induction splitAtDots? text generalizing start with
  | case1 rest =>
      obtain ⟨rfl, rfl⟩ := Prod.mk.inj (Option.some.inj found)
      rfl
  | case2 c rest _ ih =>
      obtain ⟨sides, inner, same⟩ := Option.map_eq_some_iff.mp found
      obtain ⟨rfl, rfl⟩ := Prod.mk.inj same
      exact congrArg (c :: ·) (ih inner)
  | case3 => cases found

/-- The two dots between offsets are the first ones. -/
theorem WritesOffset.splitAtDots?_eq (writes : WritesOffset offset start) :
    splitAtDots? (start ++ '.' :: '.' :: stop) = some (start, stop) :=
  splitAtDots?_append writes.undotted

theorem ofText?_eq_some_iff {text : String} :
    ofText? text = some window ↔ Writes window text.toList := by
  simp only [ofText?, Option.bind_eq_bind, Option.bind_eq_some_iff, Prod.exists,
    readOffset?_eq_some_iff, Option.some.injEq]
  constructor
  · rintro ⟨start, stop, split, first, writes_first, second, writes_second, rfl⟩
    rw [eq_of_splitAtDots? split]
    exact .between writes_first writes_second
  · generalize text.toList = text
    rintro ⟨writes_first, writes_second⟩
    exact ⟨_, _, writes_first.splitAtDots?_eq, _, writes_first, _, writes_second, rfl⟩

end Windows
end Window

namespace CommandLine

theorem readWindow_eq_ok_iff {text : String} {window : Window} :
    readWindow text = .ok window ↔ window.Writes text.toList := by
  rw [← Window.ofText?_eq_some_iff, readWindow]
  split <;> simp [*]

/-- A text is refused, and shown as it is, if it writes no window. -/
theorem readWindow_eq_error_iff {text : String} {failure : Failure} :
    readWindow text = .error failure ↔
      failure = .malformedWindow text ∧ ∀ window : Window, ¬window.Writes text.toList := by
  simp only [← Window.ofText?_eq_some_iff, ← Option.eq_none_iff_forall_ne_some]
  rw [readWindow]
  split <;> simp [*, eq_comm]

/-- The window of an option is read from exactly the texts that write it.  Only the first two dots
can stand between its offsets. -/
theorem readWindow_grammar :
    (∀ (text : String) (window : Window),
      readWindow text = .ok window ↔ window.Writes text.toList) ∧
    (∀ (text : String) (failure : Failure), readWindow text = .error failure ↔
      failure = .malformedWindow text ∧ ∀ window : Window, ¬window.Writes text.toList) ∧
    (∀ (start stop : List Char) (first second : UInt32),
      Window.WritesOffset first start → Window.WritesOffset second stop →
      Window.splitAtDots? (start ++ '.' :: '.' :: stop) = some (start, stop)) ∧
    ∀ start stop : UInt32,
      readWindow (toString start.toNat ++ ".." ++ toString stop.toNat) = .ok ⟨start, stop⟩ := by
  refine ⟨fun _ _ => readWindow_eq_ok_iff, fun _ _ => readWindow_eq_error_iff,
    fun _ _ _ _ writes_first _ => writes_first.splitAtDots?_eq, fun start stop => ?_⟩
  rw [readWindow_eq_ok_iff, ← Window.ofText?_eq_some_iff]
  exact Window.ofText?_text ⟨start, stop⟩

/-- A sign, zeros and blanks are read past. -/
theorem readWindow_grammar_padded :
    Window.WritesOffset 7 "\t+007 ".toList ∧ Window.WritesOffset 10 " 10".toList ∧
      Window.splitAtDots? "\t+007 .. 10".toList = some ("\t+007 ".toList, " 10".toList) ∧
      Window.Writes ⟨7, 10⟩ "\t+007 .. 10".toList ∧
      readWindow "\t+007 .. 10" = .ok ⟨7, 10⟩ := by
  have seven : Window.WritesNumber ['0', '0', '7'] 7 := .snoc (.snoc (.digit rfl) rfl) rfl
  have ten : Window.WritesNumber ['1', '0'] 10 := .snoc (.digit rfl) rfl
  have writes_first : Window.WritesOffset 7 (['\t'] ++ (['+'] ++ ['0', '0', '7']) ++ [' ']) :=
    .padded (List.forall_mem_singleton.mpr rfl) (.inr rfl) seven (List.forall_mem_singleton.mpr rfl)
  have writes_second : Window.WritesOffset 10 ([' '] ++ ([] ++ ['1', '0']) ++ []) :=
    .padded (List.forall_mem_singleton.mpr rfl) (.inl rfl) ten (List.forall_mem_nil _)
  have text_eq : "\t+007 .. 10".toList = "\t+007 ".toList ++ '.' :: '.' :: " 10".toList := by decide
  have writes : Window.Writes ⟨7, 10⟩ "\t+007 .. 10".toList := by
    rw [text_eq]
    exact .between writes_first writes_second
  obtain ⟨ok_iff, -, split_eq, -⟩ := readWindow_grammar
  refine ⟨writes_first, writes_second, ?_, writes, (ok_iff _ _).mpr writes⟩
  rw [text_eq]
  exact split_eq _ _ _ _ writes_first writes_second

end CommandLine
end ConfigLexer
