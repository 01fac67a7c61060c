import ConfigLexer.Proofs.Matching.Nesting
import Mathlib.Data.List.Permutation
import Mathlib.Order.Monotone.Basic

/-!
# Inserting well-nested delimiters

Well-nested delimiters that are inserted into a list of tags are matched among themselves.  They
leave the stack as they found it, so all that is around them is matched as it was before, and what
is behind them is found at later places.  This holds wherever they are inserted, and however broken
the tags around them are.
-/

namespace ConfigLexer
namespace Matching

variable {move : Nat → Nat} {tag : Tag} {place target : Nat} {tags : List Tag}

/-- The matching with every place moved. -/
def relocate (move : Nat → Nat) (matching : Matching) : Matching where
  pairs := matching.pairs.map (Prod.map move move)
  unmatchedOpeners := matching.unmatchedOpeners.map move
  unmatchedClosers := matching.unmatchedClosers.map move

/-- Where a place is found after so many tags have been inserted at a border. -/
def makeRoom (border width place : Nat) : Nat := if place < border then place else place + width

theorem makeRoom_of_lt {border : Nat} (before : place < border) (width : Nat) :
    makeRoom border width place = place := if_pos before

theorem makeRoom_add (border width index : Nat) :
    makeRoom border width (border + index) = border + width + index := by
  rw [makeRoom, if_neg (by omega), Nat.add_right_comm]

theorem makeRoom_strictMono (border width : Nat) : StrictMono (makeRoom border width) := by
  intro first second before
  rw [makeRoom, makeRoom]
  split <;> split <;> omega

namespace Progress

variable {progress next : Progress}

theorem Stepped.eq (stepped : Stepped progress place tag next) :
    progress.step place tag = next := by
  cases stepped with
  | opened kind => rfl
  | stray kind closed => exact close_of_forall_ne closed place
  | paired kind inside opener outside opened others => exact close_of_opened opened others place
  | skipped tag plain => cases tag <;> simp_all [Tag.delimiter?, step]

theorem run_append (progress : Progress) (place : Nat) (left right : List Tag) :
    progress.run place (left ++ right) =
      (progress.run place left).run (place + left.length) right := by
  induction left generalizing progress place with
  | nil => rfl
  | cons tag left ih =>
      rw [List.cons_append, run, ih, List.length_cons, Nat.add_right_comm]
      rfl

/-! ## Moving places -/

/-- The progress with every place moved. -/
def relocate (move : Nat → Nat) (progress : Progress) : Progress where
  opened := progress.opened.map (Prod.map move id)
  paired := progress.paired.map (Prod.map move move)
  dropped := progress.dropped.map move
  stray := progress.stray.map move

theorem Stepped.relocate (move : Nat → Nat) (stepped : Stepped progress place tag next) :
    Stepped (progress.relocate move) (move place) tag (next.relocate move) := by
  cases stepped with
  | opened kind => exact .opened kind
  | stray kind closed =>
      refine .stray kind fun other member => ?_
      obtain ⟨opener, opener_member, rfl⟩ := List.mem_map.mp member
      exact closed opener opener_member
  | paired kind inside opener outside opened others =>
      have moved_opened : (progress.relocate move).opened =
          inside.map (Prod.map move id) ++ (move opener, kind) ::
            outside.map (Prod.map move id) := by
        simp [Progress.relocate, opened]
      have moved_others : ∀ other ∈ inside.map (Prod.map move id), other.2 ≠ kind := by
        intro other member
        obtain ⟨inner, inner_member, rfl⟩ := List.mem_map.mp member
        exact others inner inner_member
      have paired : Stepped (progress.relocate move) (move place) (.closing kind) _ :=
        .paired kind _ _ _ moved_opened moved_others
      simpa [Progress.relocate, Function.comp_def] using paired
  | skipped tag plain => exact .skipped tag plain

theorem run_relocate (progress : Progress) (tags : List Tag)
    (moves : ∀ index < tags.length, move (place + index) = target + index) :
    (progress.relocate move).run target tags = (progress.run place tags).relocate move := by
  induction tags generalizing progress place target with
  | nil => rfl
  | cons tag tags ih =>
      have here : move place = target := moves 0 (Nat.succ_pos _)
      have later : ∀ index < tags.length, move (place + 1 + index) = target + 1 + index := by
        intro index inside
        have moved := moves (index + 1) (Nat.succ_lt_succ inside)
        rwa [Nat.add_comm index, ← Nat.add_assoc, ← Nat.add_assoc] at moved
      rw [run, run, ← ih _ later, ← ((stepped progress place tag).relocate move).eq, here]

theorem finish_relocate (increases : StrictMono move) (progress : Progress) :
    (progress.relocate move).finish = progress.finish.relocate move := by
  have same (first second : Nat) : decide (first ≤ second) = decide (move first ≤ move second) :=
    decide_eq_decide.mpr increases.le_iff_le.symm
  have openers : (progress.relocate move).opened.map Prod.fst ++ (progress.relocate move).dropped =
      (progress.opened.map Prod.fst ++ progress.dropped).map move := by
    simp [relocate, Function.comp_def]
  rw [finish, openers, ← List.map_mergeSort fun first _ second _ => same first second, relocate,
    ← List.map_mergeSort fun first _ second _ => same first.1 second.1, ← List.map_reverse]
  rfl

/-! ## What is paired before -/

theorem exists_step_paired (progress : Progress) (place : Nat) (tag : Tag) :
    ∃ added, ∀ earlier, { progress with paired := earlier : Progress }.step place tag =
      { progress.step place tag with paired := added ++ earlier } := by
  have stepped := stepped progress place tag
  generalize progress.step place tag = next at *
  cases stepped with
  | opened kind => exact ⟨[], fun _ => rfl⟩
  | stray kind closed =>
      refine ⟨[], fun earlier => Stepped.eq ?_⟩
      exact .stray kind closed
  | paired kind inside opener outside opened others =>
      refine ⟨[(opener, place)], fun earlier => Stepped.eq ?_⟩
      exact .paired kind inside opener outside opened others
  | skipped tag plain =>
      refine ⟨[], fun earlier => Stepped.eq ?_⟩
      exact .skipped tag plain

theorem exists_run_paired (progress : Progress) (place : Nat) (tags : List Tag) :
    ∃ added, ∀ earlier, { progress with paired := earlier : Progress }.run place tags =
      { progress.run place tags with paired := added ++ earlier } := by
  induction tags generalizing progress place with
  | nil => exact ⟨[], fun _ => rfl⟩
  | cons tag tags ih =>
      obtain ⟨first, step_eq⟩ := exists_step_paired progress place tag
      obtain ⟨rest, run_eq⟩ := ih (progress.step place tag) (place + 1)
      refine ⟨rest ++ first, fun earlier => ?_⟩
      rw [run, step_eq, run_eq, List.append_assoc]
      rfl

end Progress

/-! ## Inserted delimiters -/

theorem Derives.relocate {word : List (Tag × Nat)} {pairs : List (Nat × Nat)}
    (move : Nat → Nat) (derived : Derives word pairs) :
    Derives (word.map (Prod.map id move)) (pairs.map (Prod.map move move)) := by
  induction derived with
  | empty => exact .empty
  | append _ _ left right =>
      rw [List.map_append, List.map_append]
      exact left.append right
  | enclose kind opener closer _ ih =>
      rw [List.map_append]
      exact ih.enclose kind (move opener) (move closer)

theorem delimitersFrom_add (border place : Nat) (tags : List Tag) :
    delimitersFrom (border + place) tags =
      (delimitersFrom place tags).map (Prod.map id (border + ·)) := by
  induction tags generalizing place with
  | nil => rfl
  | cons tag tags ih =>
      rw [delimitersFrom_cons, delimitersFrom_cons, Nat.add_assoc, ih]
      split <;> rfl

open Progress

variable {front inserted back : List Tag}

/-- Balanced tags are read without a trace on the stack, wherever they stand. -/
theorem run_of_isBalanced (balanced : (ofTags inserted).isBalanced = true) (progress : Progress)
    (border : Nat) :
    ∃ added, added.Perm ((ofTags inserted).relocate (border + ·)).pairs ∧
      progress.run border inserted = { progress with paired := added ++ progress.paired } := by
  have derived := (derives_iff.mpr ⟨balanced, rfl⟩).relocate (border + ·)
  rw [← delimitersFrom_add] at derived
  rw [run_eq_read]
  exact derived.read progress

/-- A run over tags with balanced ones inserted makes the moved progress of the run without them,
and the pairs of the inserted ones. -/
theorem run_insert (front back : List Tag) (balanced : (ofTags inserted).isBalanced = true) :
    ∃ pairs, start.run 0 (front ++ inserted ++ back) =
        { (start.run 0 (front ++ back)).relocate (makeRoom front.length inserted.length) with
          paired := pairs } ∧
      pairs.Perm (((start.run 0 (front ++ back)).relocate
        (makeRoom front.length inserted.length)).paired ++
          ((ofTags inserted).relocate (front.length + ·)).pairs) := by
  let seen := start.run 0 front
  obtain ⟨inner, inner_perm, inner_run⟩ := run_of_isBalanced balanced seen front.length
  obtain ⟨later, later_run⟩ :=
    exists_run_paired seen (front.length + inserted.length) back
  have unmoved : seen.relocate (makeRoom front.length inserted.length) = seen := by
    have before : ∀ index < front.length,
        makeRoom front.length inserted.length (0 + index) = 0 + index := by
      intro index inside
      exact makeRoom_of_lt (by omega) _
    exact (run_relocate start front before).symm
  have moved : seen.run (front.length + inserted.length) back =
      (start.run 0 (front ++ back)).relocate (makeRoom front.length inserted.length) := by
    have behind : ∀ index < back.length,
        makeRoom front.length inserted.length (0 + front.length + index) =
          front.length + inserted.length + index := by
      intro index _
      rw [Nat.zero_add, makeRoom_add]
    rw [run_append, ← run_relocate _ back behind]
    change seen.run _ back = (seen.relocate _).run _ back
    rw [unmoved]
  refine ⟨later ++ (inner ++ seen.paired), ?_, ?_⟩
  · rw [run_append, run_append, List.length_append, Nat.zero_add, Nat.zero_add]
    calc
      (seen.run front.length inserted).run (front.length + inserted.length) back =
          { seen with paired := inner ++ seen.paired : Progress }.run
            (front.length + inserted.length) back := by rw [inner_run]
      _ = { seen.run (front.length + inserted.length) back with
            paired := later ++ (inner ++ seen.paired) } := later_run _
      _ = _ := by rw [moved]
  · have paired : (seen.run (front.length + inserted.length) back).paired = later ++ seen.paired :=
      congrArg Progress.paired (later_run seen.paired)
    rw [← moved, paired, List.append_assoc]
    exact ((inner_perm.append_right _).trans List.perm_append_comm).append_left later

theorem mergeSort_eq_of_perm {pairs others : List (Nat × Nat)} (perm : pairs.Perm others)
    (distinct : (pairs.map Prod.fst).Nodup) :
    (pairs.mergeSort fun left right => left.1 ≤ right.1) =
      others.mergeSort fun left right => left.1 ≤ right.1 := by
  have sorted := pairwise_mergeSort_lt Prod.fst distinct
  have other_sorted := pairwise_mergeSort_lt Prod.fst ((perm.map Prod.fst).nodup_iff.mp distinct)
  have same : (pairs.mergeSort fun left right => left.1 ≤ right.1).Perm
      (others.mergeSort fun left right => left.1 ≤ right.1) :=
    ((List.mergeSort_perm _ _).trans perm).trans (List.mergeSort_perm _ _).symm
  exact same.eq_of_pairwise (fun _ _ _ _ before behind => absurd behind (Nat.lt_asymm before))
    sorted other_sorted

/-- Balanced tags that are inserted change nothing else.  The pairs that there were keep their
order, with moved places, and the new ones come between them. -/
theorem ofTags_insert (front inserted back : List Tag)
    (balanced : (ofTags inserted).isBalanced = true) :
    let around := (ofTags (front ++ back)).relocate (makeRoom front.length inserted.length)
    let within := (ofTags inserted).relocate (front.length + ·)
    ofTags (front ++ inserted ++ back) =
      { pairs := (around.pairs ++ within.pairs).mergeSort fun left right => left.1 ≤ right.1
        unmatchedOpeners := around.unmatchedOpeners
        unmatchedClosers := around.unmatchedClosers } := by
  intro around within
  obtain ⟨pairs, run_eq, perm⟩ := run_insert front back balanced
  have around_eq : around = ((start.run 0 (front ++ back)).relocate
      (makeRoom front.length inserted.length)).finish :=
    (finish_relocate (makeRoom_strictMono _ _) _).symm
  have distinct : (pairs.map Prod.fst).Nodup := by
    have all := (run_sound (front ++ inserted ++ back)).counts.nodup
    rw [run_eq] at all
    exact (List.nodup_append.mp (List.nodup_append.mp all).1).2.1
  have same : pairs.Perm (around.pairs ++ within.pairs) := by
    rw [around_eq]
    exact perm.trans ((finish_pairs_perm _).symm.append_right _)
  rw [ofTags, run_eq, ← mergeSort_eq_of_perm same distinct, around_eq]
  rfl

/-- Around an inserted pair an opener is still given up, a closer is still left alone, and the pair
around it has the first place. -/
theorem ofTags_insert_broken :
    (ofTags [.opening .paren, .keyword, .closing .paren]).isBalanced = true ∧
      ofTags ([.closing .paren, .opening .brace, .opening .bracket] ++
          [.opening .paren, .keyword, .closing .paren] ++ [.closing .brace, .opening .paren]) =
        ⟨[(1, 6), (3, 5)], [2, 7], [0]⟩ := by
  have balanced : (ofTags [.opening .paren, .keyword, .closing .paren]).isBalanced = true := by
    decide +kernel
  refine ⟨balanced, (ofTags_insert _ _ _ balanced).trans ?_⟩
  cbv

end Matching
end ConfigLexer
