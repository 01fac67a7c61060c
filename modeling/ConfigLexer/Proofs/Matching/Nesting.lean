import ConfigLexer.Proofs.Matching.Pairing

/-!
# Well-nested delimiters

Every delimiter has a partner if and only if the delimiters are a word of the grammar
`S ::= empty | S S | opener S closer`, with opener and closer of one kind.  One direction follows a
derivation: a derived word leaves the stack as it was.  The other one follows the stack: as long as
nothing is given up or left alone, what stands between two openers that are open is derived.
-/

namespace ConfigLexer
namespace Matching

variable {tags : List Tag}

/-- The words of well-nested delimiters. -/
inductive Dyck : List Tag → Prop
  | empty : Dyck []
  | append {left right : List Tag} : Dyck left → Dyck right → Dyck (left ++ right)
  | enclose {word : List Tag} (kind : Delimiter) :
      Dyck word → Dyck (.opening kind :: word ++ [.closing kind])

/-- The words of well-nested delimiters in their places, with the pairs that a derivation makes. -/
inductive Derives : List (Tag × Nat) → List (Nat × Nat) → Prop
  | empty : Derives [] []
  | append {left right : List (Tag × Nat)} {first second : List (Nat × Nat)} :
      Derives left first → Derives right second → Derives (left ++ right) (first ++ second)
  | enclose {word : List (Tag × Nat)} {pairs : List (Nat × Nat)} (kind : Delimiter)
      (opener closer : Nat) : Derives word pairs →
      Derives ((.opening kind, opener) :: word ++ [(.closing kind, closer)])
        ((opener, closer) :: pairs)

/-- The delimiters among tags, with their places. -/
def delimitersFrom (place : Nat) (tags : List Tag) : List (Tag × Nat) :=
  (tags.zipIdx place).filter fun found => found.1.delimiter?.isSome

namespace Derives

variable {word : List (Tag × Nat)} {pairs : List (Nat × Nat)}

theorem dyck (derived : Derives word pairs) : Dyck (word.map Prod.fst) := by
  induction derived with
  | empty => exact .empty
  | append _ _ left right =>
      rw [List.map_append]
      exact left.append right
  | enclose kind opener closer _ ih =>
      rw [List.map_append, List.map_cons]
      exact ih.enclose kind

theorem exists_of_dyck {found : List Tag} (dyck : Dyck found)
    (tagged : word.map Prod.fst = found) : ∃ pairs, Derives word pairs := by
  induction dyck generalizing word with
  | empty =>
      obtain rfl := List.map_eq_nil_iff.mp tagged
      exact ⟨[], .empty⟩
  | append _ _ left right =>
      obtain ⟨front, back, rfl, front_eq, back_eq⟩ := List.map_eq_append_iff.mp tagged
      obtain ⟨first, front_derived⟩ := left front_eq
      obtain ⟨second, back_derived⟩ := right back_eq
      exact ⟨_, front_derived.append back_derived⟩
  | enclose kind _ ih =>
      obtain ⟨front, back, rfl, front_eq, back_eq⟩ := List.map_eq_append_iff.mp tagged
      obtain ⟨⟨_, opener⟩, inner, rfl, rfl, inner_eq⟩ := List.map_eq_cons_iff.mp front_eq
      obtain ⟨⟨_, closer⟩, rest, rfl, rfl, rest_eq⟩ := List.map_eq_cons_iff.mp back_eq
      obtain rfl := List.map_eq_nil_iff.mp rest_eq
      obtain ⟨pairs, derived⟩ := ih inner_eq
      exact ⟨_, derived.enclose kind opener closer⟩

theorem opener_mem (derived : Derives word pairs) :
    ∀ pair ∈ pairs, pair.1 ∈ word.map Prod.snd := by
  induction derived with
  | empty => simp
  | append _ _ left right =>
      intro pair member
      rw [List.map_append, List.mem_append]
      exact (List.mem_append.mp member).imp (left pair) (right pair)
  | enclose kind opener closer _ ih =>
      rw [List.forall_mem_cons]
      refine ⟨by simp, fun pair member => ?_⟩
      have inside := ih pair member
      simp_all

theorem ascend (derived : Derives word pairs)
    (places : (word.map Prod.snd).Pairwise fun first second => first < second) :
    pairs.Pairwise fun first second => first.1 < second.1 := by
  induction derived with
  | empty => exact .nil
  | append left_derived right_derived left right =>
      rw [List.map_append, List.pairwise_append] at places
      obtain ⟨left_places, right_places, before⟩ := places
      rw [List.pairwise_append]
      exact ⟨left left_places, right right_places, fun first first_member second second_member =>
        before _ (left_derived.opener_mem first first_member) _
          (right_derived.opener_mem second second_member)⟩
  | enclose kind opener closer derived ih =>
      rw [List.map_append, List.map_cons, List.cons_append, List.pairwise_cons,
        List.pairwise_append] at places
      obtain ⟨before, inner_places, -⟩ := places
      refine List.pairwise_cons.mpr ⟨fun pair member => ?_, ih inner_places⟩
      exact before _ (List.mem_append_left _ (derived.opener_mem pair member))

end Derives

/-! ## Reading the delimiters alone -/

theorem delimitersFrom_cons (place : Nat) (tag : Tag) (tags : List Tag) :
    delimitersFrom place (tag :: tags) =
      if tag.delimiter?.isSome then (tag, place) :: delimitersFrom (place + 1) tags
      else delimitersFrom (place + 1) tags := by
  rw [delimitersFrom, List.zipIdx_cons, List.filter_cons]
  rfl

theorem map_fst_delimitersFrom (place : Nat) (tags : List Tag) :
    (delimitersFrom place tags).map Prod.fst = tags.filter fun tag => tag.delimiter?.isSome := by
  induction tags generalizing place with
  | nil => rfl
  | cons tag tags ih =>
      rw [delimitersFrom_cons, List.filter_cons]
      split
      · rw [List.map_cons, ih]
      · exact ih _

theorem places_ascend (place : Nat) (tags : List Tag) :
    ((delimitersFrom place tags).map Prod.snd).Pairwise fun first second => first < second := by
  have all : ((tags.zipIdx place).map Prod.snd).Pairwise fun first second => first < second := by
    rw [List.zipIdx_map_snd]
    exact List.pairwise_lt_range'
  exact all.sublist (List.filter_sublist.map Prod.snd)

namespace Progress

variable {progress : Progress}

/-- Take in delimiters in their places. -/
def read (progress : Progress) (word : List (Tag × Nat)) : Progress :=
  word.foldl (fun progress found => progress.step found.2 found.1) progress

theorem run_eq_read (progress : Progress) (place : Nat) (tags : List Tag) :
    progress.run place tags = progress.read (delimitersFrom place tags) := by
  induction tags generalizing progress place with
  | nil => rfl
  | cons tag tags ih =>
      rw [run, delimitersFrom_cons, ih]
      split
      · rfl
      · rename_i plain
        cases tag <;> simp [Tag.delimiter?] at plain <;> rfl

theorem read_append (progress : Progress) (left right : List (Tag × Nat)) :
    progress.read (left ++ right) = (progress.read left).read right := List.foldl_append

theorem finish_isBalanced_iff :
    progress.finish.isBalanced = true ↔
      progress.opened = [] ∧ progress.dropped = [] ∧ progress.stray = [] := by
  have openers : progress.finish.unmatchedOpeners = [] ↔
      progress.opened.map Prod.fst ++ progress.dropped = [] := by
    rw [← List.length_eq_zero_iff, ← List.length_eq_zero_iff, finish, List.length_mergeSort]
  have closers : progress.finish.unmatchedClosers = [] ↔ progress.stray = [] :=
    List.reverse_eq_nil_iff
  rw [isBalanced, Bool.and_eq_true, List.isEmpty_iff, List.isEmpty_iff, openers, closers,
    List.append_eq_nil_iff, List.map_eq_nil_iff, and_assoc]

end Progress

open Progress

/-! ## From a derivation to the stack -/

/-- A derived word is read without a trace on the stack: only its pairs are added. -/
theorem Derives.read {word : List (Tag × Nat)} {pairs : List (Nat × Nat)}
    (derived : Derives word pairs) (progress : Progress) :
    ∃ added, added.Perm pairs ∧
      progress.read word = { progress with paired := added ++ progress.paired } := by
  induction derived generalizing progress with
  | empty => exact ⟨[], .nil, rfl⟩
  | append _ _ left right =>
      obtain ⟨first, first_perm, first_read⟩ := left progress
      obtain ⟨second, second_perm, second_read⟩ :=
        right { progress with paired := first ++ progress.paired }
      refine ⟨second ++ first, (second_perm.append first_perm).trans List.perm_append_comm, ?_⟩
      rw [read_append, first_read, second_read, List.append_assoc]
  | @enclose word pairs kind opener closer _ ih =>
      let inner : Progress := { progress with opened := (opener, kind) :: progress.opened }
      obtain ⟨added, perm, inner_read⟩ := ih inner
      refine ⟨(opener, closer) :: added, perm.cons _, ?_⟩
      have innermost : ∀ other ∈ ([] : List (Nat × Delimiter)), other.2 ≠ kind := by simp
      calc
        progress.read ((.opening kind, opener) :: word ++ [(.closing kind, closer)]) =
            inner.read (word ++ [(.closing kind, closer)]) := rfl
        _ = { inner with paired := added ++ inner.paired : Progress }.close closer kind := by
          rw [read_append, inner_read]
          rfl
        _ = { progress with paired := (opener, closer) :: added ++ progress.paired } :=
          close_of_opened rfl innermost closer

/-! ## From the stack to a derivation -/

/-- What has been read is derived but for the openers that are open. -/
inductive Pending : List (Tag × Nat) → List (Nat × Delimiter) → Prop
  | outside {word : List (Tag × Nat)} {pairs : List (Nat × Nat)} :
      Derives word pairs → Pending word []
  | inside {word rest : List (Tag × Nat)} {opened : List (Nat × Delimiter)}
      {pairs : List (Nat × Nat)} (kind : Delimiter) (opener : Nat) :
      Pending word opened → Derives rest pairs →
      Pending (word ++ (.opening kind, opener) :: rest) ((opener, kind) :: opened)

namespace Pending

variable {word rest seen : List (Tag × Nat)} {opened : List (Nat × Delimiter)}
variable {pairs : List (Nat × Nat)} {kind : Delimiter} {opener : Nat} {progress : Progress}

theorem append (pending : Pending word opened) (derived : Derives rest pairs) :
    Pending (word ++ rest) opened := by
  cases pending with
  | outside first => exact .outside (first.append derived)
  | inside kind opener before first =>
      rw [List.append_assoc, List.cons_append]
      exact .inside kind opener before (first.append derived)

theorem close (pending : Pending word ((opener, kind) :: opened)) (closer : Nat) :
    Pending (word ++ [(.closing kind, closer)]) opened := by
  cases pending with
  | inside _ _ before first =>
      rw [List.append_assoc]
      exact before.append (first.enclose kind opener closer)

theorem derives (pending : Pending word []) : ∃ pairs, Derives word pairs := by
  cases pending with
  | outside derived => exact ⟨_, derived⟩

end Pending

theorem run_suffix (progress : Progress) (place : Nat) (tags : List Tag) :
    progress.dropped <:+ (progress.run place tags).dropped ∧
      progress.stray <:+ (progress.run place tags).stray := by
  induction tags generalizing progress place with
  | nil => exact ⟨List.suffix_refl _, List.suffix_refl _⟩
  | cons tag tags ih =>
      obtain ⟨dropped, stray⟩ := ih (progress.step place tag) (place + 1)
      have stepped := stepped progress place tag
      rw [run]
      generalize progress.step place tag = next at *
      cases stepped with
      | opened => exact ⟨dropped, stray⟩
      | stray => exact ⟨dropped, (List.suffix_cons _ _).trans stray⟩
      | paired => exact ⟨(List.suffix_append _ _).trans dropped, stray⟩
      | skipped => exact ⟨dropped, stray⟩

/-- As long as nothing is given up or left alone, every closer ends what the innermost opener
began. -/
theorem pending_run {seen : List (Tag × Nat)} {progress : Progress}
    (pending : Pending seen progress.opened) (place : Nat) (tags : List Tag)
    (dropped : (progress.run place tags).dropped = [])
    (stray : (progress.run place tags).stray = []) :
    Pending (seen ++ delimitersFrom place tags) (progress.run place tags).opened := by
  induction tags generalizing seen progress place with
  | nil => simpa [run, delimitersFrom] using pending
  | cons tag tags ih =>
      obtain ⟨still_none, still_no_stray⟩ := run_suffix (progress.step place tag) (place + 1) tags
      rw [run] at dropped stray ⊢
      rw [dropped, List.suffix_nil] at still_none
      rw [stray, List.suffix_nil] at still_no_stray
      have stepped := stepped progress place tag
      rw [delimitersFrom_cons]
      generalize progress.step place tag = next at *
      cases stepped with
      | opened kind =>
          have later := ih (pending.inside kind place .empty) (place + 1) dropped stray
          rwa [List.append_assoc] at later
      | stray => cases still_no_stray
      | paired kind inside opener outside opened others =>
          obtain rfl : inside = [] := by simp_all
          rw [opened] at pending
          have later := ih (pending.close place) (place + 1) dropped stray
          rwa [List.append_assoc] at later
      | skipped _ plain =>
          rw [plain]
          exact ih pending (place + 1) dropped stray

/-! ## The result -/

theorem derives_iff {pairs : List (Nat × Nat)} :
    Derives (delimitersFrom 0 tags) pairs ↔
      (ofTags tags).isBalanced = true ∧ (ofTags tags).pairs = pairs := by
  have forth {pairs : List (Nat × Nat)} (derived : Derives (delimitersFrom 0 tags) pairs) :
      (ofTags tags).isBalanced = true ∧ (ofTags tags).pairs = pairs := by
    obtain ⟨added, perm, read⟩ := derived.read start
    rw [← run_eq_read] at read
    have sorted := (run_sound tags).finish_describes.pairs_ascend
    have same := finish_pairs_perm (start.run 0 tags)
    rw [ofTags, finish_isBalanced_iff]
    rw [read] at sorted same ⊢
    have all : (added ++ start.paired).Perm pairs := by simpa [start] using perm
    refine ⟨⟨rfl, rfl, rfl⟩, ?_⟩
    exact (same.trans all).eq_of_pairwise
      (fun _ _ _ _ before behind => absurd behind (Nat.lt_asymm before)) sorted
      (derived.ascend (places_ascend 0 tags))
  refine ⟨forth, ?_⟩
  rintro ⟨balanced, rfl⟩
  obtain ⟨opened, dropped, stray⟩ := finish_isBalanced_iff.mp balanced
  have pending := pending_run (.outside .empty) 0 tags dropped stray
  rw [opened] at pending
  obtain ⟨pairs, derived⟩ := pending.derives
  rwa [(forth derived).2]

/-- Every delimiter has a partner if and only if they are well nested.  All derivations then make
the same pairs, those that are found. -/
theorem isBalanced_iff_dyck (tags : List Tag) :
    ((ofTags tags).isBalanced = true ↔ Dyck (tags.filter fun tag => tag.delimiter?.isSome)) ∧
      ∀ pairs, Derives (delimitersFrom 0 tags) pairs ↔
        (ofTags tags).isBalanced = true ∧ (ofTags tags).pairs = pairs := by
  refine ⟨⟨fun balanced => ?_, fun dyck => ?_⟩, fun pairs => derives_iff⟩
  · rw [← map_fst_delimitersFrom 0]
    exact (derives_iff.mpr ⟨balanced, rfl⟩).dyck
  · obtain ⟨pairs, derived⟩ := Derives.exists_of_dyck dyck (map_fst_delimitersFrom 0 tags)
    exact (derives_iff.mp derived).1

end Matching
end ConfigLexer
