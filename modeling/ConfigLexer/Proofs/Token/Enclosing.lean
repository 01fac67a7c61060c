import ConfigLexer.Proofs.Lexeme.Delimiters
import ConfigLexer.Proofs.Session.Run
import ConfigLexer.Report

/-!
# Tokens that enclose text

An opener and a later closer of its kind are delimiters around some characters of the source.  Both
offsets between them lie between characters, so this text can always be looked at.
-/

namespace ConfigLexer

open Text Lexeme

variable {vocabulary : Vocabulary} {source : String}

/-- The tokens are a pair of delimiters around the characters in the middle. -/
structure Token.Encloses (source : String) (kind : Delimiter) (opener closer : Token)
    (before interior after : List Char) : Prop where
  /-- The opener has the tag of its kind. -/
  opener_tag : opener.tag = .opening kind
  /-- The closer has the tag of its kind. -/
  closer_tag : closer.tag = .closing kind
  /-- The source is made up of the parts around the delimiters and of these. -/
  text : source.toList = before ++ [kind.opener] ++ interior ++ ([kind.closer] ++ after)
  /-- The opener starts behind the first part. -/
  start : opener.start.toNat = byteCount before
  /-- The interior starts behind the opener. -/
  inside : opener.stop.toNat = byteCount (before ++ [kind.opener])
  /-- The closer starts behind the interior. -/
  outside : closer.start.toNat = byteCount (before ++ [kind.opener] ++ interior)
  /-- The last part starts behind the closer. -/
  stop : closer.stop.toNat = byteCount (before ++ [kind.opener] ++ interior ++ [kind.closer])

namespace Token.Encloses

variable {kind : Delimiter} {opener closer : Token} {before interior after : List Char}

theorem slice? (encloses : Encloses source kind opener closer before interior after) :
    Text.slice? source opener.stop.toNat closer.start.toNat = some (String.ofList interior) := by
  rw [encloses.inside, encloses.outside]
  exact slice?_of_split encloses.text

theorem slice_interior (encloses : Encloses source kind opener closer before interior after) :
    (Text.slice source opener.stop.toNat closer.start.toNat).toList = interior := by
  rw [Text.slice, encloses.slice?, Option.getD_some, String.toList_ofList]

theorem slice (encloses : Encloses source kind opener closer before interior after) :
    Text.slice source opener.start.toNat closer.stop.toNat =
      String.ofList (kind.opener :: interior ++ [kind.closer]) := by
  have split : source.toList =
      before ++ (kind.opener :: interior ++ [kind.closer]) ++ after := by
    rw [encloses.text]
    simp
  have stop : closer.stop.toNat =
      byteCount (before ++ (kind.opener :: interior ++ [kind.closer])) := by
    rw [encloses.stop]
    simp
  rw [encloses.start, stop]
  exact slice_of_split split

/-- The line breaks of the interior are between the lines of the delimiters. -/
theorem lineNumber (encloses : Encloses source kind opener closer before interior after) :
    Report.lineNumber source closer.stop =
      Report.lineNumber source opener.start + interior.count '\n' := by
  have upTo_opener : Text.slice source 0 opener.start.toNat = String.ofList before := by
    have split : source.toList = [] ++ before ++
        ([kind.opener] ++ interior ++ ([kind.closer] ++ after)) := by
      rw [encloses.text]
      simp
    rw [encloses.start]
    exact slice_of_split split
  have upTo_closer : Text.slice source 0 closer.stop.toNat =
      String.ofList (before ++ [kind.opener] ++ interior ++ [kind.closer]) := by
    have split : source.toList =
        [] ++ (before ++ [kind.opener] ++ interior ++ [kind.closer]) ++ after := by
      rw [encloses.text]
      simp
    rw [encloses.stop]
    exact slice_of_split split
  have opener_count : [kind.opener].count '\n' = 0 := by cases kind <;> rfl
  have closer_count : [kind.closer].count '\n' = 0 := by cases kind <;> rfl
  rw [Report.lineNumber, Report.lineNumber, upTo_opener, upTo_closer]
  simp only [String.toList_ofList, List.count_append, opener_count, closer_count]
  omega

/-- What is in the interior of a pair is in the interior of every pair around it. -/
theorem mem_interior {other_kind : Delimiter} {other_opener other_closer : Token}
    {other_before other_interior other_after : List Char} {c : Char}
    (encloses : Encloses source kind opener closer before interior after)
    (other : Encloses source other_kind other_opener other_closer other_before other_interior
      other_after)
    (opener_le : other_opener.stop ≤ opener.stop) (le_closer : closer.start ≤ other_closer.start)
    (member : c ∈ interior) : c ∈ other_interior := by
  rw [UInt32.le_iff_toNat_le, other.inside, encloses.inside] at opener_le
  rw [UInt32.le_iff_toNat_le, encloses.outside, other.outside] at le_closer
  have upTo_closer : before ++ [kind.opener] ++ interior <+: source.toList :=
    ⟨_, encloses.text.symm⟩
  have upTo_other_closer : other_before ++ [other_kind.opener] ++ other_interior <+:
      source.toList := ⟨_, other.text.symm⟩
  obtain ⟨between, front⟩ := prefix_of_byteCount_le
    ((List.prefix_append _ _).trans upTo_other_closer)
    ((List.prefix_append _ _).trans upTo_closer) opener_le
  obtain ⟨behind, back⟩ := prefix_of_byteCount_le upTo_closer upTo_other_closer le_closer
  rw [← front, List.append_assoc _ between, List.append_assoc] at back
  rw [← List.append_cancel_left back]
  simp [member]

theorem opener_stop_eq (encloses : Encloses source kind opener closer before interior after) :
    opener.stop.toNat = opener.start.toNat + 1 := by
  rw [encloses.inside, encloses.start, byteCount_append]
  cases kind <;> rfl

theorem closer_stop_eq (encloses : Encloses source kind opener closer before interior after) :
    closer.stop.toNat = closer.start.toNat + 1 := by
  rw [encloses.stop, encloses.outside, byteCount_append]
  cases kind <;> rfl

end Token.Encloses

theorem split_of_getElem? {α : Type} {list : List α} {place : Nat} {element : α}
    (there : list[place]? = some element) :
    ∃ front back, list = front ++ element :: back ∧ front.length = place := by
  obtain ⟨inside, rfl⟩ := List.getElem?_eq_some_iff.mp there
  refine ⟨list.take place, list.drop (place + 1), ?_, List.length_take_of_le (by omega)⟩
  rw [← List.drop_eq_getElem_cons inside, List.take_append_drop]

/-- Two matched tags are those of a pair of delimiters with text between them. -/
theorem exists_encloses {pair : Nat × Nat} {kind : Delimiter} (ordered : pair.1 < pair.2)
    (opens : ((tokens vocabulary source).map Token.tag)[pair.1]? = some (.opening kind))
    (closes : ((tokens vocabulary source).map Token.tag)[pair.2]? = some (.closing kind)) :
    ∃ opener closer before interior after,
      (tokens vocabulary source)[pair.1]? = some opener ∧
      (tokens vocabulary source)[pair.2]? = some closer ∧
      Token.Encloses source kind opener closer before interior after := by
  obtain ⟨visible, hidden, cuts⟩ := Window.whole_cuts source
  have fits := (Window.whole source).stop.toNat_lt_size
  have text := cuts.text
  rw [cuts.stop] at fits
  rw [List.nil_append] at fits text
  rw [Session.tokens_of_cuts vocabulary cuts, map_tag_layOut, List.getElem?_map,
    Option.map_eq_some_iff] at opens closes
  obtain ⟨first, first_there, first_tag⟩ := opens
  obtain ⟨last, last_there, last_tag⟩ := closes
  obtain rfl := eq_of_opening (List.mem_of_getElem? first_there) first_tag
  obtain rfl := eq_of_closing (List.mem_of_getElem? last_there) last_tag
  obtain ⟨front, back, lexed, front_length⟩ := split_of_getElem? first_there
  have later : back[pair.2 - pair.1 - 1]? = some ⟨.closing kind, [kind.closer]⟩ := by
    rw [lexed, List.getElem?_append_right (by omega), front_length] at last_there
    rwa [← List.getElem?_cons_succ, Nat.sub_add_cancel (by omega)]
  obtain ⟨middle, behind, rfl, middle_length⟩ := split_of_getElem? later
  have visible_eq := textOf_of_lex lexed
  simp only [textOf_append, textOf_cons] at visible_eq
  rw [← visible_eq] at fits text
  simp only [byteCount_append] at fits
  have opener_there := getElem?_layOut 0 front (middle ++ ⟨.closing kind, [kind.closer]⟩ :: behind)
    ⟨.opening kind, [kind.opener]⟩
  have closer_there := getElem?_layOut 0 (front ++ ⟨.opening kind, [kind.opener]⟩ :: middle) behind
    ⟨.closing kind, [kind.closer]⟩
  have place : (front ++ (⟨.opening kind, [kind.opener]⟩ : Lexeme) :: middle).length = pair.2 := by
    rw [List.length_append, List.length_cons]
    omega
  rw [front_length, ← lexed] at opener_there
  rw [place, List.append_assoc, List.cons_append, ← lexed] at closer_there
  rw [Session.tokens_of_cuts vocabulary cuts]
  refine ⟨_, _, textOf front, textOf middle, textOf behind ++ hidden, opener_there, closer_there,
    rfl, rfl, ?_, ?_, ?_, ?_, ?_⟩
  · rw [text]
    simp only [List.append_assoc]
  · rw [toNat_toUInt32 (by omega), Nat.zero_add]
  · simp only [byteCount_append]
    rw [toNat_toUInt32 (by omega), Nat.zero_add]
  · simp only [textOf_append, textOf_cons, byteCount_append]
    rw [toNat_toUInt32 (by omega)]
    omega
  · simp only [textOf_append, textOf_cons, byteCount_append]
    rw [toNat_toUInt32 (by omega)]
    omega

theorem Token.Tiles.stop_le_start {start stop : Nat} {scanned : List Token} {first second : Token}
    {place other : Nat} (tiles : Tiles start scanned stop) (ordered : place < other)
    (first_there : scanned[place]? = some first) (second_there : scanned[other]? = some second) :
    first.stop ≤ second.start := by
  obtain ⟨front, back, rfl, front_length⟩ := split_of_getElem? first_there
  have later : second ∈ back := by
    rw [List.getElem?_append_right (by omega)] at second_there
    obtain ⟨further, past⟩ := Nat.exists_eq_add_of_lt ordered
    rw [show other - front.length = further + 1 by omega, List.getElem?_cons_succ] at second_there
    exact List.mem_of_getElem? second_there
  obtain ⟨middle, -, second_tiles⟩ := tiles.of_append
  cases second_tiles with
  | cons _ _ rest => exact UInt32.le_iff_toNat_le.mpr (rest.bounds later).1

end ConfigLexer
