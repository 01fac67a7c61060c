import ConfigLexer.Proofs.Lexeme.Cutting
import ConfigLexer.Proofs.Token.Tiling
import ConfigLexer.Proofs.Window.Fits

/-!
# The tokens of consecutive lexemes

Lexemes that are laid out one after another become tokens.  As long as their end is a 32-bit offset
the tokens tile the bytes of the lexemes; lists of tokens are cut where lists of lexemes are; and
the same lexemes laid out from another offset give the same tokens moved by the difference.
-/

namespace ConfigLexer
namespace Lexeme

open Text Token

variable {lexemes : List Lexeme} {left right : List Token} {offset other : Nat}

theorem toNat_toUInt32 {number : Nat} (fits : number < UInt32.size) :
    number.toUInt32.toNat = number := Nat.mod_eq_of_lt fits

theorem layOut_append (offset : Nat) (first second : List Lexeme) :
    layOut offset (first ++ second) =
      layOut offset first ++ layOut (offset + byteCount (textOf first)) second := by
  induction first generalizing offset with
  | nil => rfl
  | cons lexeme first ih =>
      rw [List.cons_append, layOut, layOut, ih, textOf_cons, byteCount_append, Nat.add_assoc,
        List.cons_append]

@[simp]
theorem length_layOut (offset : Nat) (lexemes : List Lexeme) :
    (layOut offset lexemes).length = lexemes.length := by
  induction lexemes generalizing offset with
  | nil => rfl
  | cons lexeme lexemes ih => rw [layOut, List.length_cons, ih, List.length_cons]

theorem map_tag_layOut (offset : Nat) (lexemes : List Lexeme) :
    (layOut offset lexemes).map Token.tag = lexemes.map Lexeme.tag := by
  induction lexemes generalizing offset with
  | nil => rfl
  | cons lexeme lexemes ih => rw [layOut, List.map_cons, ih, List.map_cons]

theorem getElem?_layOut (offset : Nat) (first second : List Lexeme) (lexeme : Lexeme) :
    (layOut offset (first ++ lexeme :: second))[first.length]? =
      some ⟨lexeme.tag, (offset + byteCount (textOf first)).toUInt32,
        (offset + byteCount (textOf first) + byteCount lexeme.text).toUInt32⟩ := by
  have before_le : (layOut offset first).length ≤ first.length :=
    Nat.le_of_eq (length_layOut offset first)
  rw [layOut_append, List.getElem?_append_right before_le, length_layOut, Nat.sub_self, layOut]
  rfl

theorem cut_of_layOut (laid : layOut offset lexemes = left ++ right) :
    ∃ first second, lexemes = first ++ second ∧ layOut offset first = left ∧
      layOut (offset + byteCount (textOf first)) second = right := by
  induction left generalizing offset lexemes with
  | nil => exact ⟨[], lexemes, rfl, rfl, laid⟩
  | cons token left ih =>
      cases lexemes with
      | nil => simp [layOut] at laid
      | cons lexeme lexemes =>
          rw [layOut, List.cons_append] at laid
          obtain ⟨rfl, others⟩ := List.cons.inj laid
          obtain ⟨first, second, rfl, rfl, rfl⟩ := ih others
          refine ⟨lexeme :: first, second, rfl, rfl, ?_⟩
          rw [textOf_cons, byteCount_append, Nat.add_assoc]

theorem layOut_tiles (nonempty : ∀ lexeme ∈ lexemes, lexeme.text ≠ [])
    (fits : offset + byteCount (textOf lexemes) < UInt32.size) :
    Tiles offset (layOut offset lexemes) (offset + byteCount (textOf lexemes)) := by
  induction lexemes generalizing offset with
  | nil => exact .nil offset
  | cons lexeme lexemes ih =>
      rw [textOf_cons, byteCount_append, ← Nat.add_assoc] at fits ⊢
      have width : 0 < byteCount lexeme.text := by
        have text_ne := nonempty lexeme List.mem_cons_self
        rw [← byteCount_eq_zero_iff.ne] at text_ne
        omega
      have start_eq : offset.toUInt32.toNat = offset := toNat_toUInt32 (by omega)
      have stop_eq : (offset + byteCount lexeme.text).toUInt32.toNat =
          offset + byteCount lexeme.text := toNat_toUInt32 (by omega)
      refine .cons start_eq ?_ ?_
      · rw [stop_eq]
        omega
      · rw [stop_eq]
        exact ih (fun other member => nonempty other (List.mem_cons_of_mem _ member)) fits

/-- The tokens of a text tile its bytes. -/
theorem lex_tiles {text : List Char} (vocabulary : Vocabulary)
    (fits : offset + byteCount text < UInt32.size) :
    Tiles offset (layOut offset (lex vocabulary text)) (offset + byteCount text) := by
  have text_eq := textOf_lex vocabulary text
  have tiles : Tiles offset (layOut offset (lex vocabulary text)) _ :=
    layOut_tiles (fun _ => text_ne_nil_of_mem_lex) (by rwa [text_eq])
  rwa [text_eq] at tiles

/-- At a border of their tokens the lexemes of a text are cut in two. -/
theorem cut_at_border {vocabulary : Vocabulary} {text : List Char} {border : Nat}
    (fits : offset + byteCount text < UInt32.size)
    (is_border : Border offset (layOut offset (lex vocabulary text)) border) :
    ∃ first second, lex vocabulary text = first ++ second ∧
      text = textOf first ++ textOf second ∧ border = offset + byteCount (textOf first) := by
  obtain ⟨left, right, laid, left_tiles, -⟩ := (lex_tiles vocabulary fits).cut is_border
  obtain ⟨first, second, lexed, rfl, rfl⟩ := cut_of_layOut laid
  have joined : text = textOf first ++ textOf second := by
    rw [← textOf_append, textOf_of_lex lexed]
  have nonempty : ∀ lexeme ∈ first, lexeme.text ≠ [] := fun lexeme member =>
    text_ne_nil_of_mem_lex (lexed ▸ List.mem_append_left second member)
  have first_fits : offset + byteCount (textOf first) < UInt32.size := by
    rw [joined, byteCount_append] at fits
    omega
  exact ⟨first, second, lexed, joined, left_tiles.stop_unique (layOut_tiles nonempty first_fits)⟩

theorem layOut_moved {source target : Nat} (apart : other + source = offset + target)
    (fits : offset + byteCount (textOf lexemes) < UInt32.size)
    (other_fits : other + byteCount (textOf lexemes) < UInt32.size) :
    List.Forall₂ (Moved source target) (layOut offset lexemes) (layOut other lexemes) := by
  induction lexemes generalizing offset other with
  | nil => exact .nil
  | cons lexeme lexemes ih =>
      rw [textOf_cons, byteCount_append, ← Nat.add_assoc] at fits other_fits
      refine .cons ⟨rfl, ?_, ?_⟩ (ih (by omega) fits other_fits)
      · rw [toNat_toUInt32 (by omega), toNat_toUInt32 (by omega)]
        exact apart
      · rw [toNat_toUInt32 (by omega), toNat_toUInt32 (by omega)]
        omega

/-- The token has the tag of the lexeme, and its span holds the characters of the lexeme. -/
structure Spells (source : String) (token : Token) (lexeme : Lexeme) : Prop where
  /-- Both have the same tag. -/
  tag : token.tag = lexeme.tag
  /-- The span of the token is the place of the lexeme in the source. -/
  cuts : ∃ before after, token.span.Cuts source before lexeme.text after

/-- Lexemes laid out from their place in a source are spelled by their tokens. -/
theorem layOut_spells {source : String} {before after : List Char}
    (split : source.toList = before ++ textOf lexemes ++ after)
    (fits : byteCount (before ++ textOf lexemes) < UInt32.size) :
    List.Forall₂ (Spells source) (layOut (byteCount before) lexemes) lexemes := by
  induction lexemes generalizing before with
  | nil => exact .nil
  | cons lexeme lexemes ih =>
      rw [textOf_cons, ← List.append_assoc] at split fits
      have bound := fits
      rw [byteCount_append, byteCount_append] at bound
      have token_cuts : Window.Cuts ⟨(byteCount before).toUInt32,
          (byteCount before + byteCount lexeme.text).toUInt32⟩ source before lexeme.text
          (textOf lexemes ++ after) := by
        refine ⟨?_, toNat_toUInt32 (by omega), ?_⟩
        · rw [split, List.append_assoc]
        · rw [toNat_toUInt32 (by omega), byteCount_append]
      have others := ih split fits
      rw [byteCount_append] at others
      exact .cons ⟨rfl, before, textOf lexemes ++ after, token_cuts⟩ others

end Lexeme

/-! ## The tokens of a window -/

namespace Window.Cuts

open Text Lexeme Token

variable {source : String} {window : Window} {before middle after : List Char}

theorem lex_spells (vocabulary : Vocabulary) (cuts : window.Cuts source before middle after) :
    List.Forall₂ (Spells source) (layOut window.start.toNat (lex vocabulary middle))
      (lex vocabulary middle) := by
  have text := textOf_lex vocabulary middle
  have split : source.toList = before ++ textOf (lex vocabulary middle) ++ after := by
    rw [text, cuts.text]
  have fits : byteCount (before ++ textOf (lex vocabulary middle)) < UInt32.size := by
    rw [text, ← cuts.stop]
    exact window.stop.toNat_lt_size
  rw [cuts.start]
  exact layOut_spells split fits

theorem lex_tiles (vocabulary : Vocabulary) (cuts : window.Cuts source before middle after) :
    Tiles window.start.toNat (layOut window.start.toNat (lex vocabulary middle))
      window.stop.toNat := by
  have fits := window.stop.toNat_lt_size
  rw [cuts.stop_eq] at fits ⊢
  exact Lexeme.lex_tiles vocabulary fits

end Window.Cuts
end ConfigLexer
