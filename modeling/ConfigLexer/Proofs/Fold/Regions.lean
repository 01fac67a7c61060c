import ConfigLexer.Proofs.Matching.Pairing
import ConfigLexer.Proofs.Session.Partition
import ConfigLexer.Proofs.Token.Enclosing

/-!
# Regions that fold

A source folds at the pairs of braces that hold a line break, and nowhere else.  Since pairs do not
cross, and tokens stand in the order of their offsets, of two regions one is behind the other or
between its braces; and what surrounds a region holds its line break too.
-/

namespace ConfigLexer

variable {vocabulary : Vocabulary} {source : String}

/-! ## Folds of pairs -/

namespace Fold

/-- The fold goes from the opener to the closer in a pair of places, which are braces with a line
break between them. -/
def IsOf (fold : Fold) (source : String) (scanned : List Token) (pair : Nat × Nat) : Prop :=
  ∃ opener closer, scanned[pair.1]? = some opener ∧ scanned[pair.2]? = some closer ∧
    opener.tag = .opening .brace ∧ closer.tag = .closing .brace ∧
    '\n' ∈ (Text.slice source opener.stop.toNat closer.start.toNat).toList ∧
    fold = ⟨opener.start, closer.stop⟩

/-- The fold lies between the braces of another one. -/
def Inside (fold outer : Fold) : Prop :=
  outer.start.toNat + 1 ≤ fold.start.toNat ∧ fold.stop.toNat + 1 ≤ outer.stop.toNat

/-- The line tells the offsets of a fold, in which lines its braces stand, the second one later than
the first, and what stands for it. -/
def ReportedBy (fold : Fold) (source line : String) : Prop :=
  ∃ first last : Nat, first < last ∧
    first = (Text.slice source 0 fold.start.toNat).toList.count '\n' + 1 ∧
    last = (Text.slice source 0 fold.stop.toNat).toList.count '\n' + 1 ∧
    line = fold.span.text ++ " lines " ++ toString first ++ "-" ++ toString last ++ " " ++
      placeholder

/-- The folds, and the report of them, are those of the pairs found among the tokens of a source. -/
structure Regions (source : String) (scanned : List Token) (pairs : List (Nat × Nat))
    (folds : List Fold) (report : String) : Prop where
  /-- Every pair stands for two tokens with text between them. -/
  found : ∀ pair ∈ pairs, ∃ opener closer interior, scanned[pair.1]? = some opener ∧
    scanned[pair.2]? = some closer ∧
    Text.slice? source opener.stop.toNat closer.start.toNat = some interior
  /-- Every pair of braces with a line break between them has one fold. -/
  each : ∀ pair ∈ pairs, ∀ fold : Fold, fold.IsOf source scanned pair → folds.count fold = 1
  /-- Every fold is that of one pair. -/
  only : ∀ fold ∈ folds, ∃! pair, pair ∈ pairs ∧ fold.IsOf source scanned pair
  /-- Folds are in the order of their starts. -/
  ascend : folds.Pairwise fun first second => first.start < second.start
  /-- Of two folds the second one is behind the first one or between its braces. -/
  nested : folds.Pairwise fun first second => first.stop ≤ second.start ∨ second.Inside first
  /-- The text of a fold goes from brace to brace and holds a line break. -/
  text : ∀ fold ∈ folds, ∃ interior, '\n' ∈ interior ∧
    Text.slice source fold.start.toNat fold.stop.toNat =
      String.ofList ('\x7b' :: interior ++ ['\x7d'])
  /-- A pair of braces around a fold has a fold as well. -/
  around : ∀ pair ∈ pairs, ∀ opener closer, scanned[pair.1]? = some opener →
    scanned[pair.2]? = some closer → opener.tag = .opening .brace →
    ∀ fold ∈ folds, opener.start ≤ fold.start → fold.stop ≤ closer.stop →
      ⟨opener.start, closer.stop⟩ ∈ folds
  /-- The report has one line for each fold, in the same order. -/
  lines : ∃ lines, report = Report.ofLines lines ∧
    List.Forall₂ (fun fold line => fold.ReportedBy source line) folds lines

variable {fold other : Fold} {scanned : List Token} {pair later : Nat × Nat}

theorem hasBreakBetween_iff {opener closer : Token} :
    hasBreakBetween source opener closer = true ↔
      '\n' ∈ (Text.slice source opener.stop.toNat closer.start.toNat).toList := by
  rw [hasBreakBetween, Text.slice]
  cases Text.slice? source opener.stop.toNat closer.start.toNat with
  | none => simp
  | some interior => simp

theorem ofPair?_eq_some_iff {opener closer : Token} :
    ofPair? source opener closer = some fold ↔ opener.tag = .opening .brace ∧
      '\n' ∈ (Text.slice source opener.stop.toNat closer.start.toNat).toList ∧
      fold = ⟨opener.start, closer.stop⟩ := by
  rw [← hasBreakBetween_iff, ofPair?, Option.ite_none_right_eq_some, Bool.and_eq_true, beq_iff_eq,
    and_assoc, Option.some_inj, eq_comm (b := fold)]

theorem IsOf.encloses (ordered : pair.1 < pair.2)
    (of : fold.IsOf source (tokens vocabulary source) pair) :
    ∃ opener closer before interior after,
      (tokens vocabulary source)[pair.1]? = some opener ∧
      (tokens vocabulary source)[pair.2]? = some closer ∧
      Token.Encloses source .brace opener closer before interior after ∧
      '\n' ∈ interior ∧ fold = ⟨opener.start, closer.stop⟩ := by
  obtain ⟨opener, closer, first_there, last_there, opens, closes, breaks, fold_eq⟩ := of
  have opening_there : ((tokens vocabulary source).map Token.tag)[pair.1]? =
      some (.opening .brace) := by
    rw [List.getElem?_map, first_there, Option.map_some, opens]
  have closing_there : ((tokens vocabulary source).map Token.tag)[pair.2]? =
      some (.closing .brace) := by
    rw [List.getElem?_map, last_there, Option.map_some, closes]
  obtain ⟨opener', closer', before, interior, after, first, last, encloses⟩ :=
    exists_encloses ordered opening_there closing_there
  obtain rfl := Option.some.inj (first.symm.trans first_there)
  obtain rfl := Option.some.inj (last.symm.trans last_there)
  rw [encloses.slice_interior] at breaks
  exact ⟨_, _, before, interior, after, first, last, encloses, breaks, fold_eq⟩

/-- Of two folds the one whose opener comes later starts later, and is behind the other one or
between its braces, as the pairs are. -/
theorem IsOf.starts_later (first_ordered : pair.1 < pair.2) (later_ordered : later.1 < later.2)
    (ascend : pair.1 < later.1) (apart : pair.2 < later.1 ∨ later.2 < pair.2)
    (of : fold.IsOf source (tokens vocabulary source) pair)
    (other_of : other.IsOf source (tokens vocabulary source) later) :
    fold.start < other.start ∧ (fold.stop ≤ other.start ∨ other.Inside fold) := by
  have tiles := (tokens_partition vocabulary source).tiles
  obtain ⟨opener, closer, _, _, _, opener_there, closer_there, encloses, -, rfl⟩ :=
    of.encloses first_ordered
  obtain ⟨opener', closer', _, _, _, opener_there', closer_there', encloses', -, rfl⟩ :=
    other_of.encloses later_ordered
  have opener_le :=
    UInt32.le_iff_toNat_le.mp (tiles.stop_le_start ascend opener_there opener_there')
  have opener_size := encloses.opener_stop_eq
  have starts : opener.start < opener'.start := UInt32.lt_iff_toNat_lt.mpr (by omega)
  refine ⟨starts, ?_⟩
  rcases apart with behind | inside
  · exact .inl (tiles.stop_le_start behind closer_there opener_there')
  · have closer_le :=
      UInt32.le_iff_toNat_le.mp (tiles.stop_le_start inside closer_there' closer_there)
    have closer_size := encloses.closer_stop_eq
    exact .inr ⟨by dsimp only; omega, by dsimp only; omega⟩

/-- The fold of the tokens in two places. -/
def atPlaces? (source : String) (scanned : List Token) (pair : Nat × Nat) : Option Fold :=
  scanned[pair.1]?.bind fun opener => scanned[pair.2]?.bind fun closer =>
    ofPair? source opener closer

theorem atPlaces?_eq_some_iff
    (matched : ∃ kind, (scanned.map Token.tag)[pair.1]? = some (.opening kind) ∧
      (scanned.map Token.tag)[pair.2]? = some (.closing kind)) :
    atPlaces? source scanned pair = some fold ↔ fold.IsOf source scanned pair := by
  obtain ⟨kind, opens, closes⟩ := matched
  rw [List.getElem?_map, Option.map_eq_some_iff] at opens closes
  obtain ⟨opener, opener_there, opener_tag⟩ := opens
  obtain ⟨closer, closer_there, closer_tag⟩ := closes
  rw [atPlaces?, opener_there, Option.bind_some, closer_there, Option.bind_some,
    ofPair?_eq_some_iff]
  constructor
  · rintro ⟨opens, breaks, fold_eq⟩
    obtain rfl := Tag.opening.inj (opener_tag.symm.trans opens)
    exact ⟨opener, closer, opener_there, closer_there, opens, closer_tag, breaks, fold_eq⟩
  · rintro ⟨opener', closer', first, last, opens, -, breaks, fold_eq⟩
    obtain rfl := Option.some.inj (opener_there.symm.trans first)
    obtain rfl := Option.some.inj (closer_there.symm.trans last)
    exact ⟨opens, breaks, fold_eq⟩

end Fold

/-! ## The folds of a source -/

/-- The pairs of delimiters of a source. -/
def delimiterPairs (vocabulary : Vocabulary) (source : String) : List (Nat × Nat) :=
  (Matching.ofTags ((tokens vocabulary source).map Token.tag)).pairs

theorem folds_eq_filterMap (vocabulary : Vocabulary) (source : String) :
    folds vocabulary source = (delimiterPairs vocabulary source).filterMap
      (Fold.atPlaces? source (tokens vocabulary source)) := rfl

theorem delimiters_described (vocabulary : Vocabulary) (source : String) :
    (Matching.ofTags ((tokens vocabulary source).map Token.tag)).Describes
      ((tokens vocabulary source).map Token.tag) :=
  (Matching.Progress.run_sound _).finish_describes

theorem exists_encloses_of_mem {pair : Nat × Nat}
    (member : pair ∈ delimiterPairs vocabulary source) :
    ∃ kind opener closer before interior after,
      (tokens vocabulary source)[pair.1]? = some opener ∧
      (tokens vocabulary source)[pair.2]? = some closer ∧
      Token.Encloses source kind opener closer before interior after := by
  obtain ⟨ordered, kind, opens, closes⟩ :=
    (delimiters_described vocabulary source).paired pair member
  exact ⟨kind, exists_encloses ordered opens closes⟩

theorem mem_folds_iff {fold : Fold} :
    fold ∈ folds vocabulary source ↔
      ∃ pair ∈ delimiterPairs vocabulary source,
        fold.IsOf source (tokens vocabulary source) pair := by
  rw [folds_eq_filterMap, List.mem_filterMap]
  refine exists_congr fun pair => and_congr_right fun member => ?_
  exact Fold.atPlaces?_eq_some_iff ((delimiters_described vocabulary source).paired pair member).2

theorem encloses_of_mem_folds {fold : Fold} (member : fold ∈ folds vocabulary source) :
    ∃ opener closer before interior after,
      Token.Encloses source .brace opener closer before interior after ∧
      '\n' ∈ interior ∧ fold = ⟨opener.start, closer.stop⟩ := by
  obtain ⟨pair, pair_member, of⟩ := mem_folds_iff.mp member
  have ordered := ((delimiters_described vocabulary source).paired pair pair_member).1
  obtain ⟨opener, closer, before, interior, after, -, -, found⟩ := of.encloses ordered
  exact ⟨opener, closer, before, interior, after, found⟩

/-- Of two folds that stand one after another in the list, the second one starts later. -/
theorem folds_pairwise (vocabulary : Vocabulary) (source : String) :
    (folds vocabulary source).Pairwise fun first second =>
      first.start < second.start ∧ (first.stop ≤ second.start ∨ second.Inside first) := by
  have described := delimiters_described vocabulary source
  rw [folds_eq_filterMap, List.pairwise_filterMap]
  refine described.pairs_ascend.imp_of_mem ?_
  intro pair later member later_member ascend fold made other other_made
  obtain ⟨ordered, matched⟩ := described.paired pair member
  obtain ⟨later_ordered, later_matched⟩ := described.paired later later_member
  exact ((Fold.atPlaces?_eq_some_iff matched).mp made).starts_later ordered later_ordered ascend
    (described.nested pair member later later_member ascend)
    ((Fold.atPlaces?_eq_some_iff later_matched).mp other_made)

theorem folds_nodup (vocabulary : Vocabulary) (source : String) :
    (folds vocabulary source).Nodup := by
  rw [List.Nodup]
  refine (folds_pairwise vocabulary source).imp ?_
  rintro first _ ⟨ascend, -⟩ rfl
  exact UInt32.lt_irrefl first.start ascend

/-- Braces around a fold hold its line break. -/
theorem mem_folds_of_around {fold : Fold} {pair : Nat × Nat} {opener closer : Token}
    (member : pair ∈ delimiterPairs vocabulary source)
    (opener_there : (tokens vocabulary source)[pair.1]? = some opener)
    (closer_there : (tokens vocabulary source)[pair.2]? = some closer)
    (opens : opener.tag = .opening .brace) (fold_member : fold ∈ folds vocabulary source)
    (starts : opener.start ≤ fold.start) (stops : fold.stop ≤ closer.stop) :
    ⟨opener.start, closer.stop⟩ ∈ folds vocabulary source := by
  obtain ⟨kind, opener', closer', _, outer, _, first, last, around⟩ :=
    exists_encloses_of_mem member
  obtain rfl := Option.some.inj (first.symm.trans opener_there)
  obtain rfl := Option.some.inj (last.symm.trans closer_there)
  obtain rfl := Tag.opening.inj (around.opener_tag.symm.trans opens)
  obtain ⟨_, _, _, _, _, encloses, breaks, rfl⟩ := encloses_of_mem_folds fold_member
  rw [UInt32.le_iff_toNat_le] at starts stops
  have break_around : '\n' ∈ outer := by
    refine encloses.mem_interior around (UInt32.le_iff_toNat_le.mpr ?_)
      (UInt32.le_iff_toNat_le.mpr ?_) breaks
    · rw [around.opener_stop_eq, encloses.opener_stop_eq]
      exact Nat.succ_le_succ starts
    · rw [encloses.closer_stop_eq, around.closer_stop_eq] at stops
      exact Nat.le_of_succ_le_succ stops
  refine mem_folds_iff.mpr ⟨pair, member, opener', closer', first, last, opens,
    around.closer_tag, ?_, rfl⟩
  rw [around.slice_interior]
  exact break_around

/-- A fold of a source is reported to end on a later line than it starts. -/
theorem reportedBy_foldLine {fold : Fold} (member : fold ∈ folds vocabulary source) :
    fold.ReportedBy source (Report.foldLine source fold) := by
  obtain ⟨opener, closer, _, _, _, encloses, breaks, rfl⟩ := encloses_of_mem_folds member
  refine ⟨Report.lineNumber source opener.start, Report.lineNumber source closer.stop, ?_, rfl, rfl,
    rfl⟩
  rw [encloses.lineNumber]
  exact Nat.lt_add_of_pos_right (List.count_pos_iff.mpr breaks)

theorem pair_unique {fold : Fold} {pair other : Nat × Nat}
    (member : pair ∈ delimiterPairs vocabulary source)
    (other_member : other ∈ delimiterPairs vocabulary source)
    (of : fold.IsOf source (tokens vocabulary source) pair)
    (other_of : fold.IsOf source (tokens vocabulary source) other) : pair = other := by
  have described := delimiters_described vocabulary source
  have apart {first second : Nat × Nat} (first_member : first ∈ delimiterPairs vocabulary source)
      (second_member : second ∈ delimiterPairs vocabulary source) (ascend : first.1 < second.1)
      (first_of : fold.IsOf source (tokens vocabulary source) first)
      (second_of : fold.IsOf source (tokens vocabulary source) second) : False :=
    UInt32.lt_irrefl fold.start (first_of.starts_later (described.paired first first_member).1
      (described.paired second second_member).1 ascend
      (described.nested first first_member second second_member ascend) second_of).1
  rcases Nat.lt_trichotomy pair.1 other.1 with before | same | behind
  · exact (apart member other_member before of other_of).elim
  · have distinct : ((delimiterPairs vocabulary source).map Prod.fst).Nodup := by
      rw [List.Nodup, List.pairwise_map]
      exact described.pairs_ascend.imp Nat.ne_of_lt
    exact List.inj_on_of_nodup_map distinct member other_member same
  · exact (apart other_member member behind other_of of).elim

/-- The folds of a source are the regions between braces that hold a line break. -/
theorem folds_regions (vocabulary : Vocabulary) (source : String) :
    Fold.Regions source (tokens vocabulary source)
      (Matching.ofTags ((tokens vocabulary source).map Token.tag)).pairs
      (folds vocabulary source) (Report.folding vocabulary source) where
  found := by
    intro pair member
    obtain ⟨_, opener, closer, _, interior, _, opener_there, closer_there, encloses⟩ :=
      exists_encloses_of_mem member
    exact ⟨opener, closer, _, opener_there, closer_there, encloses.slice?⟩
  each := by
    intro pair member fold of
    exact List.count_eq_one_of_mem (folds_nodup vocabulary source)
      (mem_folds_iff.mpr ⟨pair, member, of⟩)
  only := by
    intro fold member
    obtain ⟨pair, pair_member, of⟩ := mem_folds_iff.mp member
    refine ⟨pair, ⟨pair_member, of⟩, ?_⟩
    rintro other ⟨other_member, other_of⟩
    exact pair_unique other_member pair_member other_of of
  ascend := (folds_pairwise vocabulary source).imp And.left
  nested := (folds_pairwise vocabulary source).imp And.right
  text := by
    intro fold member
    obtain ⟨_, _, _, interior, _, encloses, breaks, rfl⟩ := encloses_of_mem_folds member
    exact ⟨interior, breaks, encloses.slice⟩
  around := by
    intro pair member opener closer opener_there closer_there opens fold fold_member starts stops
    exact mem_folds_of_around member opener_there closer_there opens fold_member starts stops
  lines := by
    refine ⟨(folds vocabulary source).map (Report.foldLine source), rfl, ?_⟩
    rw [List.forall₂_map_right_iff, List.forall₂_same]
    exact fun fold => reportedBy_foldLine

end ConfigLexer
