import ConfigLexer.Lexeme

/-!
# How far a lexeme looks ahead

Every rule of the grammar counts characters at the start of a text.  All of these counts are
decided by the counted characters and at most one more: if a text goes on differently after the
counted characters, the count stays the same as long as the new continuation is empty or starts
with the same character.  Counts are built from shorter ones, and so is the proof.
-/

namespace ConfigLexer
namespace Lexeme

theorem take_length_takeWhile (kind : Char → Bool) (text : List Char) :
    text.take (text.takeWhile kind).length = text.takeWhile kind :=
  (List.prefix_iff_eq_take.mp (List.takeWhile_prefix kind)).symm

theorem drop_length_takeWhile (kind : Char → Bool) (text : List Char) :
    text.drop (text.takeWhile kind).length = text.dropWhile kind := by
  calc
    text.drop (text.takeWhile kind).length =
        (text.takeWhile kind ++ text.dropWhile kind).drop (text.takeWhile kind).length := by
      rw [List.takeWhile_append_dropWhile]
    _ = text.dropWhile kind := List.drop_left

/-- A continuation that shows no other first character than a given one does. -/
def StartsAs (other tail : List Char) : Prop := other = [] ∨ other.head? = tail.head?

namespace StartsAs

theorem of_nil {other : List Char} (starts : StartsAs other []) : other = [] := by
  rcases starts with empty | head
  · exact empty
  · simpa using head

theorem append {other tail : List Char} (starts : StartsAs other tail) (body : List Char) :
    StartsAs (body ++ other) (body ++ tail) := by
  cases body with
  | nil => exact starts
  | cons c body => exact .inr rfl

theorem head_of_head {other tail : List Char} (starts : StartsAs other tail) {c : Char}
    (head : other.head? = some c) : tail.head? = some c := by
  rcases starts with rfl | same
  · simp at head
  · rw [← same, head]

/-- What a test does not accept at the start of a text it accepts at no such continuation. -/
theorem not_head {other tail : List Char} (starts : StartsAs other tail) {test : Char → Bool}
    (rejected : tail.head?.any test = false) : other.head?.any test = false := by
  rcases starts with rfl | head
  · rfl
  · rw [head, rejected]

end StartsAs

/-- A count of the characters at the start of a text that is decided by the counted characters and
at most one more. -/
structure OneAhead (count : List Char → Nat) : Prop where
  /-- No more characters are counted than there are. -/
  le_length : ∀ text, count text ≤ text.length
  /-- The count does not depend on anything after the next character. -/
  stable : ∀ {body tail other}, count (body ++ tail) = body.length → StartsAs other tail →
    count (body ++ other) = body.length

namespace OneAhead

variable {first second : List Char → Nat}

theorem zero : OneAhead fun _ => 0 where
  le_length _ := Nat.zero_le _
  stable counted _ := counted

/-- Count a character that a test accepts, and then what follows it. -/
def guarded (test : Char → Bool) (count : List Char → Nat) : List Char → Nat
  | [] => 0
  | c :: rest => if test c then count rest + 1 else 0

/-- Count by one rule, and then by another from where the first one stops. -/
def followed (first second : List Char → Nat) (text : List Char) : Nat :=
  first text + second (text.drop (first text))

theorem guarded_eq_zero_iff {test : Char → Bool} {count : List Char → Nat} {text : List Char} :
    guarded test count text = 0 ↔ text.head?.any test = false := by
  cases text with
  | nil => simp [guarded]
  | cons c rest => cases accepted : test c <;> simp [guarded, accepted]

theorem guard (test : Char → Bool) (ahead : OneAhead first) : OneAhead (guarded test first) where
  le_length text := by
    cases text with
    | nil => exact Nat.le_refl 0
    | cons c rest =>
        have bound := ahead.le_length rest
        rw [guarded, List.length_cons]
        split <;> omega
  stable := by
    intro body tail other counted starts
    cases body with
    | nil =>
        rw [List.nil_append, List.length_nil, guarded_eq_zero_iff] at counted ⊢
        exact starts.not_head counted
    | cons c body =>
        rw [List.cons_append, guarded] at counted ⊢
        cases accepted : test c with
        | false => simp [accepted] at counted
        | true =>
            simp only [accepted, if_true, List.length_cons, Nat.add_right_cancel_iff] at counted ⊢
            exact ahead.stable counted starts

theorem follow (first_ahead : OneAhead first) (second_ahead : OneAhead second) :
    OneAhead (followed first second) where
  le_length text := by
    have first_bound := first_ahead.le_length text
    have second_bound := second_ahead.le_length (text.drop (first text))
    rw [List.length_drop] at second_bound
    rw [followed]
    omega
  stable := by
    intro body tail other counted starts
    have inside : first (body ++ tail) ≤ body.length := by
      rw [followed] at counted
      omega
    obtain ⟨left, right, rfl, left_length⟩ :
        ∃ left right, body = left ++ right ∧ left.length = first (body ++ tail) :=
      ⟨body.take _, body.drop _, (List.take_append_drop _ body).symm, List.length_take_of_le inside⟩
    rw [List.append_assoc] at left_length counted ⊢
    rw [followed, ← left_length, List.drop_left, List.length_append,
      Nat.add_left_cancel_iff] at counted
    have left_stable := first_ahead.stable left_length.symm (starts.append right)
    rw [followed, left_stable, List.drop_left, second_ahead.stable counted starts,
      List.length_append]

theorem takeWhile (test : Char → Bool) : OneAhead fun text => (text.takeWhile test).length where
  le_length text := (List.takeWhile_prefix test).length_le
  stable := by
    intro body tail other counted starts
    induction body with
    | nil =>
        cases other with
        | nil => rfl
        | cons c rest =>
            rcases starts with empty | head
            · simp at empty
            · obtain ⟨rest', rfl⟩ := List.head?_eq_some_iff.mp head.symm
              cases accepted : test c with
              | false => simp [accepted]
              | true => simp [accepted] at counted
    | cons c body ih =>
        cases accepted : test c with
        | false => simp [accepted] at counted
        | true =>
            simp only [List.cons_append, List.takeWhile_cons_of_pos accepted, List.length_cons,
              Nat.add_right_cancel_iff] at counted ⊢
            exact ih counted

end OneAhead

open OneAhead

theorem lineReach_oneAhead : OneAhead lineReach := .takeWhile (· ≠ '\n')

theorem nameReach_oneAhead : OneAhead nameReach := .takeWhile continuesName

theorem digitReach_oneAhead : OneAhead digitReach := .takeWhile Text.isDigit

theorem mantissaReach_oneAhead : OneAhead mantissaReach := .takeWhile _

theorem exponentReach_eq : exponentReach = guarded (fun c => c == 'e' || c == 'E')
    (followed (guarded (fun c => c == '+' || c == '-') fun _ => 0) digitReach) := by
  funext text
  rcases text with _ | ⟨mark, _ | ⟨sign, digits⟩⟩
  · rfl
  · rfl
  · rw [exponentReach, guarded, followed, guarded]
    cases signed : sign == '+' || sign == '-'
    · simp
    · have count : 1 + digitReach digits + 1 = digitReach digits + 2 := by omega
      simp [count]

theorem exponentReach_oneAhead : OneAhead exponentReach := by
  rw [exponentReach_eq]
  exact ((zero.guard _).follow digitReach_oneAhead).guard _

theorem numberReach_oneAhead : OneAhead numberReach :=
  mantissaReach_oneAhead.follow exponentReach_oneAhead

theorem blockReach_cons (c : Char) (rest : List Char) :
    blockReach (c :: rest) =
      if c = '*' ∧ rest.head? = some '/' then 2 else blockReach rest + 1 := by
  rw [blockReach.eq_def]
  split
  · simp_all
  · simp_all
  · rename_i not_mark same
    obtain ⟨rfl, rfl⟩ := List.cons.inj same
    have open_end : ¬(c = '*' ∧ rest.head? = some '/') := by
      rintro ⟨rfl, head⟩
      obtain ⟨left, rfl⟩ := List.head?_eq_some_iff.mp head
      exact not_mark left rfl rfl
    rw [if_neg open_end]

theorem blockReach_oneAhead : OneAhead blockReach where
  le_length text := by
    induction text with
    | nil => exact Nat.le_refl 0
    | cons c rest ih =>
        rw [blockReach_cons, List.length_cons]
        split
        · rename_i mark
          obtain ⟨left, rfl⟩ := List.head?_eq_some_iff.mp mark.2
          simp
        · omega
  stable := by
    intro body tail other counted starts
    induction body with
    | nil =>
        cases tail with
        | nil => rw [starts.of_nil, counted]
        | cons c rest =>
            rw [List.nil_append, blockReach_cons] at counted
            split at counted <;> simp at counted
    | cons c body ih =>
        rw [List.cons_append, blockReach_cons] at counted ⊢
        split at counted
        · rename_i mark
          obtain ⟨d, rfl⟩ := List.length_eq_one_iff.mp (Nat.succ.inj counted.symm)
          rw [if_pos ⟨mark.1, mark.2⟩]
          rfl
        · rename_i no_mark
          have still_no_mark : ¬(c = '*' ∧ (body ++ other).head? = some '/') :=
            fun mark => no_mark ⟨mark.1, (starts.append body).head_of_head mark.2⟩
          rw [if_neg still_no_mark, ih (Nat.succ.inj counted), List.length_cons]

@[simp]
theorem stringReach_quote (rest : List Char) : stringReach ('"' :: rest) = 1 := by
  rw [stringReach]

@[simp]
theorem stringReach_escape (c : Char) (rest : List Char) :
    stringReach ('\\' :: c :: rest) = stringReach rest + 2 := by
  rw [stringReach]

theorem stringReach_cons {c : Char} (not_quote : c ≠ '"') (not_escape : c ≠ '\\')
    (rest : List Char) : stringReach (c :: rest) = stringReach rest + 1 := by
  rw [stringReach]
  · exact not_quote
  · exact fun escape _ => not_escape escape
  · exact fun _ _ escape _ => not_escape escape

theorem ne_escape {c : Char} {rest : List Char} (not_last : c = '\\' → rest = [] → False)
    (not_escape : ∀ d left, c = '\\' → rest = d :: left → False) : c ≠ '\\' := by
  rintro rfl
  cases rest with
  | nil => exact not_last rfl rfl
  | cons d left => exact not_escape d left rfl rfl

theorem stringReach_eq_zero_iff {text : List Char} : stringReach text = 0 ↔ text = [] := by
  fun_cases stringReach text <;> simp

theorem stringReach_oneAhead : OneAhead stringReach where
  le_length text := by
    fun_induction stringReach text with
    | case1 => exact Nat.le_refl 0
    | case2 | case3 => simp
    | case4 c rest ih => simp [ih]
    | case5 c rest _ _ _ ih => simp [ih]
  stable := by
    intro body tail other counted starts
    induction body using stringReach.induct with
    | case1 =>
        obtain rfl := stringReach_eq_zero_iff.mp counted
        rw [starts.of_nil, counted]
    | case2 body =>
        simpa using counted
    | case3 =>
        cases tail with
        | nil => rw [starts.of_nil, counted]
        | cons c rest => simp at counted
    | case4 c body ih =>
        simp only [List.cons_append, stringReach_escape, List.length_cons,
          Nat.add_right_cancel_iff] at counted ⊢
        exact ih counted
    | case5 c body not_quote not_last not_escape ih =>
        have ordinary := ne_escape not_last not_escape
        rw [List.cons_append, stringReach_cons not_quote ordinary, List.length_cons,
          Nat.add_right_cancel_iff] at counted ⊢
        exact ih counted

end Lexeme
end ConfigLexer
