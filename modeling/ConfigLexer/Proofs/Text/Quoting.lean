import ConfigLexer.Proofs.Text.Runs
import ConfigLexer.Text.Quoted
import Mathlib.Data.Nat.Basic

/-!
# Quoted text is read back

Every character is spelled in such a way that the reader of quoted text takes it back and goes on
behind it.  So quoted text can be read back whole, and no line break is left in it.
-/

namespace ConfigLexer
namespace Text

variable {c : Char} {before value : Nat} {digits : List Char}

/-! ## Hexadecimal numerals -/

theorem hexDigit?_digitChar : ∀ digit < 16, hexDigit? digit.digitChar = some digit := by
  decide

theorem hexValue?_append (before : Nat) (digits others : List Char) :
    hexValue? before (digits ++ others) =
      (hexValue? before digits).bind fun value => hexValue? value others := by
  induction digits generalizing before with
  | nil => rfl
  | cons c digits ih =>
      rw [List.cons_append, hexValue?, hexValue?, Option.bind_assoc]
      exact Option.bind_congr fun digit _ => ih _

theorem hexValue?_hexNumeral (number : Nat) : hexValue? 0 (hexNumeral number) = some number := by
  induction number using Nat.strong_induction_on with
  | _ number ih =>
      have last := hexDigit?_digitChar (number % 16) (Nat.mod_lt number (by decide))
      rw [hexNumeral, Nat.toDigits_eq_if (by decide)]
      split_ifs with small
      · rw [Nat.mod_eq_of_lt small] at last
        rw [hexValue?, last, Option.bind_some, hexValue?, Nat.mul_zero, Nat.zero_add]
      · rw [hexValue?_append, ← hexNumeral, ih (number / 16) (by omega), Option.bind_some,
          hexValue?, last, Option.bind_some, hexValue?, Nat.div_add_mod]

theorem isSome_of_hexValue? (read : hexValue? before digits = some value) (member : c ∈ digits) :
    (hexDigit? c).isSome = true := by
  induction digits generalizing before with
  | nil => simp at member
  | cons first digits ih =>
      rw [hexValue?, Option.bind_eq_some_iff] at read
      obtain ⟨digit, found, read⟩ := read
      rcases List.mem_cons.mp member with rfl | member
      · rw [found, Option.isSome_some]
      · exact ih read member

theorem isSome_of_mem_hexNumeral {number : Nat} (member : c ∈ hexNumeral number) :
    (hexDigit? c).isSome = true := isSome_of_hexValue? (hexValue?_hexNumeral number) member

namespace Quoted

/-! ## The spelling of characters -/

theorem spell_cases (c : Char) :
    (∃ letter, spell c = ['\\', letter] ∧ letter ≠ 'u' ∧ letter ≠ '\n' ∧
      shortMeaning? letter = some c) ∨
    spell c = '\\' :: 'u' :: '\x7b' :: hexNumeral c.toNat ++ ['\x7d'] ∨
    spell c = [c] ∧ c ≠ '"' ∧ c ≠ '\\' ∧ c ≠ '\n' := by
  rw [spell]
  cases short : shortEscape? c with
  | some letter =>
      left
      refine ⟨letter, rfl, ?_⟩
      rw [shortEscape?] at short
      split_ifs at short
      all_goals
        rename_i same
        obtain rfl := same
        obtain rfl := Option.some.inj short
        decide
  | none =>
      right
      dsimp only
      split_ifs with is_hidden
      · exact .inl rfl
      · refine .inr ⟨rfl, ?_, ?_, ?_⟩
        all_goals
          rintro rfl
          simp [shortEscape?] at short

/-- A character is read back from its spelling, whatever comes after it. -/
theorem decodeBody?_spell (c : Char) (rest : List Char) :
    decodeBody? (spell c ++ rest) = (decodeBody? rest).map (c :: ·) := by
  rcases spell_cases c with ⟨letter, spelled, not_u, -, meaning⟩ | spelled |
    ⟨spelled, not_quote, not_backslash, -⟩
  · rw [spelled, List.cons_append, List.cons_append, List.nil_append, decodeBody?]
    · rw [meaning]
      cases decodeBody? rest <;> rfl
    · rintro _ rfl
      exact absurd rfl not_u
  · have shape : spell c ++ rest =
        '\\' :: 'u' :: '\x7b' :: (hexNumeral c.toNat ++ '\x7d' :: rest) := by
      rw [spelled]
      simp
    have digits : (hexNumeral c.toNat ++ '\x7d' :: rest).takeWhile (· ≠ '\x7d') =
        hexNumeral c.toNat := by
      apply takeWhile_run
      · intro digit member
        have read := isSome_of_mem_hexNumeral member
        rw [decide_eq_true_eq]
        rintro rfl
        cases read
      · rfl
    have left : (hexNumeral c.toNat ++ '\x7d' :: rest).drop ((hexNumeral c.toNat).length + 1) =
        rest := by
      rw [← List.drop_drop, List.drop_left, List.drop_one, List.tail_cons]
    rw [shape, decodeBody?, digits, hexValue?_hexNumeral, left]
    change ((decodeBody? rest).bind fun text => some (Char.ofNat c.toNat :: text)) = _
    rw [Char.ofNat_toNat]
    cases decodeBody? rest <;> rfl
  · rw [spelled, List.singleton_append, decodeBody?]
    · exact fun same _ => not_quote same
    · exact fun _ _ same _ => not_quote same
    · exact fun same _ => not_backslash same
    · exact fun _ same _ => not_backslash same
    · exact fun _ _ same _ => not_backslash same

theorem decodeBody?_flatMap_spell (text : List Char) :
    decodeBody? (text.flatMap spell ++ ['"']) = some text := by
  induction text with
  | nil => rw [List.flatMap_nil, List.nil_append, decodeBody?]
  | cons c text ih =>
      rw [List.flatMap_cons, List.append_assoc, decodeBody?_spell, ih, Option.map_some]

theorem decode?_encode (text : List Char) : decode? (encode text) = some text :=
  decodeBody?_flatMap_spell text

/-! ## Line breaks -/

theorem newline_notMem_spell (c : Char) : '\n' ∉ spell c := by
  intro broken
  rcases spell_cases c with ⟨letter, spelled, -, not_newline, -⟩ | spelled |
    ⟨spelled, -, -, not_newline⟩
  · rw [spelled] at broken
    simp [not_newline.symm] at broken
  · rw [spelled] at broken
    have digit : '\n' ∈ hexNumeral c.toNat := by simpa using broken
    have read := isSome_of_mem_hexNumeral digit
    cases read
  · rw [spelled] at broken
    exact not_newline (List.mem_singleton.mp broken).symm

theorem newline_notMem_encode (text : List Char) : '\n' ∉ encode text := by
  have spelled : '\n' ∉ text.flatMap spell := by
    rw [List.mem_flatMap]
    rintro ⟨c, -, broken⟩
    exact newline_notMem_spell c broken
  simp [encode, spelled]

end Quoted
end Text
end ConfigLexer
