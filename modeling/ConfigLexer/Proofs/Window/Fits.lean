import ConfigLexer.Proofs.Cursor.Between
import ConfigLexer.Window
import Mathlib.Tactic.SplitIfs

/-!
# Windows that fit a source

A window can be scanned exactly if it cuts the characters of the source in three: those before the
window, those in it and those after it.  A cursor for such a window starts between the first two
parts and does not see the third.
-/

namespace ConfigLexer
namespace Window

open Text

/-- The offsets of the window are in order, inside the source and between characters. -/
structure Fits (window : Window) (source : String) : Prop where
  /-- The window does not end before it starts. -/
  ordered : window.start ≤ window.stop
  /-- The window does not end past the source. -/
  inside : window.stop.toNat ≤ source.utf8ByteSize
  /-- The window starts between characters. -/
  start : isBoundary source window.start.toNat = true
  /-- The window ends between characters. -/
  stop : isBoundary source window.stop.toNat = true

/-- The parts of a source that a window cuts off. -/
structure Cuts (window : Window) (source : String) (before middle after : List Char) : Prop where
  /-- The three parts make up the source. -/
  text : source.toList = before ++ middle ++ after
  /-- The window starts behind the first part. -/
  start : window.start.toNat = byteCount before
  /-- The window ends behind the second part. -/
  stop : window.stop.toNat = byteCount (before ++ middle)

variable {window : Window} {source : String} {before middle after : List Char}

theorem error?_eq_none_iff : window.error? source = none ↔ window.Fits source := by
  rw [error?]
  constructor
  · intro accepted
    split_ifs at accepted with inverted outside start stop
    refine ⟨UInt32.not_lt.mp inverted, Nat.not_lt.mp outside, ?_, ?_⟩
    · simpa using start
    · simpa using stop
  · intro fits
    rw [if_neg (UInt32.not_lt.mpr fits.ordered), if_neg (Nat.not_lt.mpr fits.inside), fits.start,
      fits.stop]
    rfl

instance (window : Window) (source : String) : Decidable (window.Fits source) :=
  decidable_of_iff _ error?_eq_none_iff

/-- The reason why a window is refused.  Its order is looked at first, then its end, then its two
offsets as boundaries. -/
inductive Refused (window : Window) (source : String) : WindowError → Prop
  | inverted : window.stop < window.start →
      Refused window source (.inverted window.start window.stop)
  | outside : window.start ≤ window.stop → source.utf8ByteSize < window.stop.toNat →
      Refused window source (.outOfBounds window.stop source.utf8ByteSize)
  | start : window.start ≤ window.stop → window.stop.toNat ≤ source.utf8ByteSize →
      isBoundary source window.start.toNat = false →
      Refused window source (.splitsCharacter window.start)
  | stop : window.start ≤ window.stop → window.stop.toNat ≤ source.utf8ByteSize →
      isBoundary source window.start.toNat = true →
      isBoundary source window.stop.toNat = false →
      Refused window source (.splitsCharacter window.stop)

theorem refused_iff {error : WindowError} :
    window.Refused source error ↔ window.error? source = some error := by
  rw [error?]
  constructor
  · intro refused
    cases refused with
    | inverted inverted => rw [if_pos inverted]
    | outside ordered outside => rw [if_neg (UInt32.not_lt.mpr ordered), if_pos outside]
    | start ordered inside start =>
        rw [if_neg (UInt32.not_lt.mpr ordered), if_neg (Nat.not_lt.mpr inside), start]
        rfl
    | stop ordered inside start stop =>
        rw [if_neg (UInt32.not_lt.mpr ordered), if_neg (Nat.not_lt.mpr inside), start, stop]
        rfl
  · intro found
    split_ifs at found with inverted outside start stop
    · obtain rfl := Option.some.inj found
      exact .inverted inverted
    · obtain rfl := Option.some.inj found
      exact .outside (UInt32.not_lt.mp inverted) outside
    · obtain rfl := Option.some.inj found
      exact .start (UInt32.not_lt.mp inverted) (Nat.not_lt.mp outside) (by simpa using start)
    · obtain rfl := Option.some.inj found
      exact .stop (UInt32.not_lt.mp inverted) (Nat.not_lt.mp outside) (by simpa using start)
        (by simpa using stop)

namespace Cuts

theorem fits (cuts : window.Cuts source before middle after) : window.Fits source where
  ordered := by
    rw [UInt32.le_iff_toNat_le, cuts.start, cuts.stop, byteCount_append]
    exact Nat.le_add_right _ _
  inside := by
    rw [← byteCount_toList, cuts.text, cuts.stop, byteCount_append _ after]
    exact Nat.le_add_right _ _
  start := isBoundary_iff.mpr
    ⟨before, middle ++ after, cuts.text.trans (List.append_assoc _ _ _), cuts.start.symm⟩
  stop := isBoundary_iff.mpr ⟨before ++ middle, after, cuts.text, cuts.stop.symm⟩

theorem slice (cuts : window.Cuts source before middle after) :
    Text.slice source window.start.toNat window.stop.toNat = String.ofList middle := by
  rw [cuts.start, cuts.stop, slice_of_split cuts.text]

theorem stop_eq (cuts : window.Cuts source before middle after) :
    window.stop.toNat = window.start.toNat + byteCount middle := by
  rw [cuts.stop, cuts.start, byteCount_append]

/-- An offset between two parts of its text cuts a window in two. -/
theorem split {left right : List Char} {offset : UInt32}
    (cuts : window.Cuts source before (left ++ right) after)
    (place : offset.toNat = window.start.toNat + byteCount left) :
    Cuts ⟨window.start, offset⟩ source before left (right ++ after) ∧
      Cuts ⟨offset, window.stop⟩ source (before ++ left) right after := by
  have offset_eq : offset.toNat = byteCount (before ++ left) := by
    rw [place, cuts.start, byteCount_append]
  refine ⟨⟨?_, cuts.start, offset_eq⟩, ⟨?_, offset_eq, ?_⟩⟩
  · rw [cuts.text]
    simp only [List.append_assoc]
  · rw [cuts.text]
    simp only [List.append_assoc]
  · rw [cuts.stop, List.append_assoc]

/-- A boundary inside of a window cuts the text of the window in two. -/
theorem exists_split {cut : UInt32} (cuts : window.Cuts source before middle after)
    (boundary : isBoundary source cut.toNat = true) (behind : window.start ≤ cut)
    (inside : cut ≤ window.stop) :
    ∃ left right, middle = left ++ right ∧ cut.toNat = window.start.toNat + byteCount left := by
  obtain ⟨upTo, beyond, split, size⟩ := isBoundary_iff.mp boundary
  rw [UInt32.le_iff_toNat_le, cuts.start] at behind
  rw [UInt32.le_iff_toNat_le, cuts.stop] at inside
  have upTo_begins : upTo <+: source.toList := ⟨beyond, split.symm⟩
  have visible_begins : before ++ middle <+: source.toList := ⟨after, cuts.text.symm⟩
  have before_begins : before <+: source.toList :=
    (List.prefix_append before middle).trans visible_begins
  obtain ⟨left, rfl⟩ := prefix_of_byteCount_le before_begins upTo_begins (by omega)
  obtain ⟨right, joined⟩ := prefix_of_byteCount_le upTo_begins visible_begins (by omega)
  rw [List.append_assoc, List.append_cancel_left_eq] at joined
  exact ⟨left, right, joined.symm, by rw [← size, byteCount_append, cuts.start]⟩

theorem visible (cuts : window.Cuts source before middle after) :
    slice? source 0 window.stop.toNat = some (String.ofList (before ++ middle)) := by
  have split : source.toList = [] ++ (before ++ middle) ++ after := cuts.text
  rw [cuts.stop]
  exact slice?_of_split split

theorem between (cuts : window.Cuts source before middle after) :
    (Cursor.ofWindow source window).Between before middle where
  text := by rw [Cursor.ofWindow, cuts.visible, Option.getD_some, String.toList_ofList]
  pos := cuts.start
  stop := by rw [← byteCount_append, ← cuts.stop, Cursor.ofWindow]

end Cuts

theorem Fits.cuts (fits : window.Fits source) :
    ∃ before middle after, window.Cuts source before middle after := by
  obtain ⟨before, rest, split, start⟩ := isBoundary_iff.mp fits.start
  obtain ⟨upTo, after, stop_split, stop⟩ := isBoundary_iff.mp fits.stop
  have ordered := UInt32.le_iff_toNat_le.mp fits.ordered
  rw [← start, ← stop] at ordered
  have before_begins : before <+: source.toList := ⟨rest, split.symm⟩
  have upTo_begins : upTo <+: source.toList := ⟨after, stop_split.symm⟩
  obtain ⟨middle, rfl⟩ := prefix_of_byteCount_le before_begins upTo_begins ordered
  exact ⟨before, middle, after, stop_split, start.symm, stop.symm⟩

/-! ## The whole of a source -/

theorem isBoundary_boundaryBelow (source : String) (offset : Nat) :
    isBoundary source (boundaryBelow source offset) = true := by
  fun_induction boundaryBelow source offset with
  | case1 => exact isBoundary_iff.mpr ⟨[], source.toList, rfl, rfl⟩
  | case2 offset boundary => exact boundary
  | case3 offset _ ih => exact ih

theorem boundaryBelow_le (source : String) (offset : Nat) :
    boundaryBelow source offset ≤ offset := by
  fun_induction boundaryBelow source offset with
  | case1 => exact Nat.le_refl 0
  | case2 offset _ => exact Nat.le_refl _
  | case3 offset _ ih => exact Nat.le_succ_of_le ih

/-- No boundary up to the offset is greater. -/
theorem le_boundaryBelow {offset place : Nat} (boundary : isBoundary source place = true)
    (below : place ≤ offset) : place ≤ boundaryBelow source offset := by
  fun_induction boundaryBelow source offset with
  | case1 => exact below
  | case2 offset _ => exact below
  | case3 offset no_boundary ih =>
      apply ih
      rcases Nat.le_or_eq_of_le_succ below with lower | rfl
      · exact lower
      · exact absurd boundary no_boundary

theorem toNat_whole_stop (source : String) :
    (whole source).stop.toNat =
      boundaryBelow source (min source.utf8ByteSize (UInt32.size - 1)) := by
  have bound := Nat.le_trans
    (boundaryBelow_le source (min source.utf8ByteSize (UInt32.size - 1))) (Nat.min_le_right _ _)
  exact Nat.mod_eq_of_lt (Nat.lt_of_le_of_lt bound (by decide))

theorem whole_fits (source : String) : (whole source).Fits source where
  ordered := by
    rw [UInt32.le_iff_toNat_le]
    exact Nat.zero_le _
  inside := by
    have bound := boundaryBelow_le source (min source.utf8ByteSize (UInt32.size - 1))
    rw [toNat_whole_stop]
    omega
  start := isBoundary_iff.mpr ⟨[], source.toList, rfl, rfl⟩
  stop := by
    rw [toNat_whole_stop]
    exact isBoundary_boundaryBelow source _

/-- The whole window of a source starts with its text and may leave out an end of it. -/
theorem whole_cuts (source : String) :
    ∃ visible hidden, (whole source).Cuts source [] visible hidden := by
  obtain ⟨before, visible, hidden, cuts⟩ := (whole_fits source).cuts
  obtain rfl : before = [] := byteCount_eq_zero_iff.mp cuts.start.symm
  exact ⟨visible, hidden, cuts⟩

/-- Nothing that can be addressed by 32-bit offsets is left out. -/
theorem begins_visible {visible hidden begin : List Char}
    (cuts : (whole source).Cuts source [] visible hidden) (begins : begin <+: source.toList)
    (fits : byteCount begin < UInt32.size) : begin <+: visible := by
  have visible_begins : visible <+: source.toList := ⟨hidden, cuts.text.symm⟩
  obtain ⟨rest, split⟩ := begins
  have boundary : isBoundary source (byteCount begin) = true :=
    isBoundary_iff.mpr ⟨begin, rest, split.symm, rfl⟩
  have inside : byteCount begin ≤ source.utf8ByteSize := by
    rw [← byteCount_toList, ← split, byteCount_append]
    exact Nat.le_add_right _ _
  have below := le_boundaryBelow boundary
    (Nat.le_min.mpr ⟨inside, Nat.le_sub_one_of_lt fits⟩)
  rw [← toNat_whole_stop, cuts.stop, List.nil_append] at below
  exact prefix_of_byteCount_le ⟨rest, split⟩ visible_begins below

theorem whole_stop_eq (fits : source.utf8ByteSize < UInt32.size) :
    (whole source).stop.toNat = source.utf8ByteSize := by
  obtain ⟨visible, hidden, cuts⟩ := whole_cuts source
  rw [← byteCount_toList] at fits ⊢
  have all := begins_visible cuts (List.prefix_refl _) fits
  have visible_begins : visible <+: source.toList := ⟨hidden, cuts.text.symm⟩
  rw [cuts.stop, List.nil_append, visible_begins.eq_of_length_le all.length_le]

/-- A source that 32-bit offsets reach to its end is the whole of its window. -/
theorem whole_cuts_all (fits : source.utf8ByteSize < UInt32.size) :
    (whole source).Cuts source [] source.toList [] where
  text := by simp
  start := rfl
  stop := by rw [List.nil_append, byteCount_toList, whole_stop_eq fits]

end Window
end ConfigLexer
