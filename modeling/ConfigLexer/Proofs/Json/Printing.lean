import ConfigLexer.Json.Printer
import ConfigLexer.Proofs.Json.Grammar
import Mathlib.Data.List.Forall2

/-!
# Printed values

Whatever is printed is one of the texts that the grammar has for it.
-/

namespace ConfigLexer
namespace Json

/-! ## Strings -/

theorem unitForm_of_isControl {unit : Nat} (control : unit < 0x20) :
    UnitForm unit ['0', '0', (unit / 16).digitChar, (unit % 16).digitChar] := by
  have zero : HexDigit 0 '0' := .lower (by decide)
  exact .digits zero zero (.lower (by omega)) (.lower (by omega)) (by omega)

theorem escape_form (c : Char) : CharForm c (escape c) := by
  unfold escape
  split_ifs with quote backslash _ _ _ _ _ control
  iterate 7
    · subst c
      exact .short (by decide)
  · exact .unit (unitForm_of_isControl control)
  · exact .plain (Nat.le_of_not_lt control) quote backslash

theorem flatMap_escape_form (chars : List Char) : CharsForm chars (chars.flatMap escape) := by
  induction chars with
  | nil => exact .nil
  | cons c chars chars_form => exact .cons (escape_form c) chars_form

theorem printText_form (text : String) : TextForm text (printText text) :=
  .quoted (flatMap_escape_form text.toList)

theorem printBool_form (value : Bool) : BoolForm value (printBool value) := by
  cases value
  · exact .false
  · exact .true

/-! ## Lists and objects -/

theorem newLine_spaces (depth : Nat) : Spaces (newLine depth) := by
  intro c inside
  rcases List.mem_cons.mp inside with rfl | indented
  · rfl
  · rw [List.eq_of_mem_replicate indented]
    rfl

section Blocks

variable {Value : Type} {Item : Value → List Char → Prop} {values : List Value}
  {elements : List (List Char)}

theorem printLines_form {after : List Char} (items : List.Forall₂ Item values elements)
    (not_empty : values ≠ []) (spaces : Spaces after) (depth : Nat) :
    ItemsForm Item values (printLines depth elements ++ after) := by
  induction items with
  | nil => contradiction
  | @cons value element values elements item items others_form =>
      cases items with
      | nil => exact .last (newLine_spaces depth) item spaces
      | cons next others =>
          rw [printLines, List.append_assoc, List.cons_append,
            ← List.append_nil (newLine depth ++ element)]
          · exact .more (newLine_spaces depth) item spaces_nil
              (others_form (List.cons_ne_nil _ _))
          · simp

theorem printBlock_form (items : List.Forall₂ Item values elements) (opener closer : Char)
    (depth : Nat) :
    BlockForm Item opener closer values (printBlock opener closer depth elements) := by
  cases items with
  | nil => exact .empty spaces_nil
  | cons item items =>
      have inside := printLines_form (.cons item items) (List.cons_ne_nil _ _)
        (newLine_spaces depth) (depth + 1)
      rw [printBlock, if_neg (by simp), List.cons_append, List.cons_append, List.append_assoc,
        ← List.append_assoc _ (newLine depth)]
      exact .items inside

end Blocks

theorem printTexts_form (depth : Nat) (texts : List String) :
    TextsForm texts (printTexts depth texts) := by
  refine printBlock_form ?_ _ _ depth
  rw [List.forall₂_map_right_iff, List.forall₂_same]
  exact fun text _ => printText_form text

section Objects

variable {Content : Type} {names : List String} {key : Content → String}
  {Holds : Content → List Char → Prop}

theorem printMember_form {content : Content} {value : List Char} (holds : Holds content value) :
    MemberForm names key Holds (some content) (printMember (key content, value)) := by
  have member : MemberForm names key Holds (some content)
      (printText (key content) ++ [] ++ ':' :: [' '] ++ value) :=
    .known (printText_form _) spaces_nil (List.forall_mem_singleton.mpr rfl) holds
  simpa [printMember] using member

theorem printObject_form {contents : List Content} {members : List (String × List Char)}
    (held : List.Forall₂ (fun content member => member.1 = key content ∧ Holds content member.2)
      contents members) (distinct : (contents.map key).Nodup) (depth : Nat) :
    ObjectForm names key Holds contents (printObject depth members) := by
  have known : (contents.map some).reduceOption = contents := by
    rw [List.reduceOption, List.filterMap_map]
    exact List.filterMap_some
  have items : List.Forall₂ (MemberForm names key Holds) (contents.map some)
      (members.map printMember) := by
    rw [List.forall₂_map_left_iff, List.forall₂_map_right_iff]
    refine held.imp ?_
    rintro content ⟨_, value⟩ ⟨rfl, holds⟩
    exact printMember_form holds
  have object := ObjectForm.members (printBlock_form items '\x7b' '\x7d' depth) (by rwa [known])
  rwa [known] at object

end Objects

end Json
end ConfigLexer
