import ConfigLexer.Proofs.Json.Scalars
import Mathlib.Data.List.DropRight

/-!
# Skipping values

A value that is nested to any depth is read over exactly.  The reader keeps the open brackets in a
list and treats all elements alike, while the grammar nests them in one another.  So what the reader
does with a part of a text is told by where it stands afterwards, among the same brackets.
-/

namespace ConfigLexer
namespace Json

theorem eq_of_isSpace {c : Char} (space : isSpace c = true) :
    c = ' ' ∨ c = '\n' ∨ c = '\t' ∨ c = '\r' := by
  simpa [isSpace, or_assoc] using space

/-! ## What stands behind a value -/

section Behind

variable {after rest : List Char}

theorem endsNumber_of_spaces (spaces : Spaces after) (ends : EndsNumber rest) :
    EndsNumber (after ++ rest) := by
  cases after with
  | nil => exact ends
  | cons first _ =>
      rintro c ⟨⟩
      rcases eq_of_isSpace (spaces first List.mem_cons_self) with rfl | rfl | rfl | rfl <;> decide

theorem endsNumber_comma (rest : List Char) : EndsNumber (',' :: rest) := by
  rintro c ⟨⟩
  decide

theorem endsNumber_closer (frame : Frame) (rest : List Char) :
    EndsNumber (frame.closer :: rest) := by
  rintro c ⟨⟩
  cases frame <;> decide

end Behind

/-! ## How a value starts -/

/-- A value may start with the character. -/
def startsValue (c : Char) : Bool := isDigit c || ['n', 't', 'f', '-', '"', '[', '\x7b'].contains c

theorem isSpace_of_startsValue {c : Char} (starts : startsValue c = true) :
    isSpace c = false := by
  by_contra space
  rcases eq_of_isSpace (Bool.of_not_eq_false space) with rfl | rfl | rfl | rfl <;> contradiction

theorem IntegerForm.starts {integer : List Char} (written : IntegerForm integer) :
    ∃ first others, integer = first :: others ∧ isDigit first = true := by
  cases written with
  | zero => exact ⟨_, _, rfl, by decide⟩
  | digits _ digits => exact ⟨_, _, rfl, digits.2 _ List.mem_cons_self⟩

theorem NumberForm.starts {numeral : List Char} (written : NumberForm numeral) :
    ∃ first others, numeral = first :: others ∧ startsValue first = true := by
  obtain ⟨sign, integer, _, _⟩ := written
  obtain ⟨first, others, rfl, digit⟩ := integer.starts
  rcases sign with rfl | rfl
  · exact ⟨first, _, rfl, by simp [startsValue, digit]⟩
  · exact ⟨_, _, rfl, by decide⟩

theorem Form.starts {text : List Char} (written : Form .value text) :
    ∃ first others, text = first :: others ∧ startsValue first = true := by
  cases written with
  | literal listed =>
      simp only [List.mem_cons, List.not_mem_nil, or_false] at listed
      rcases listed with rfl | rfl | rfl <;> exact ⟨_, _, rfl, by decide⟩
  | number numeral => exact numeral.starts
  | text quoted =>
      obtain ⟨-⟩ := quoted
      exact ⟨_, _, rfl, by decide⟩
  | empty frame _ => exact ⟨_, _, rfl, by cases frame <;> decide⟩
  | block frame _ => exact ⟨_, _, rfl, by cases frame <;> decide⟩

/-- The key of an element and what follows it start with no bracket that closes the frame. -/
theorem KeyForm.start {frame : Frame} {key before value : List Char} (written : KeyForm frame key)
    (spaces : Spaces before) (form : Form .value value) (rest : List Char) :
    ∃ first, (skipSpaces (key ++ (before ++ (value ++ rest)))).head? = some first ∧
      first ≠ frame.closer := by
  cases written with
  | list key_spaces =>
      obtain ⟨first, others, rfl, starts⟩ := form.starts
      refine ⟨first, ?_, ?_⟩
      · rw [skipSpaces_append key_spaces, List.cons_append,
          skipSpaces_stop spaces (isSpace_of_startsValue starts), List.head?_cons]
      · rintro rfl
        contradiction
  | object key_spaces quoted _ =>
      obtain ⟨-⟩ := quoted
      refine ⟨'"', ?_, by decide⟩
      simp only [List.append_assoc, List.cons_append]
      rw [skipSpaces_stop key_spaces (by decide), List.head?_cons]

/-- An element is told from the bracket that would close its frame. -/
theorem Form.elements_start {frame : Frame} {inside : List Char}
    (written : Form (.elements frame) inside) (rest : List Char) :
    ∃ first, (skipSpaces (inside ++ rest)).head? = some first ∧ first ≠ frame.closer := by
  cases written with
  | last key spaces value _ =>
      simp only [List.append_assoc]
      exact key.start spaces value _
  | more key spaces value _ _ =>
      simp only [List.append_assoc]
      exact key.start spaces value _

/-! ## Scalars -/

section Scalars

variable {before text rest : List Char}

theorem skipStart_eq {c : Char} (spaces : Spaces before) (stop : isSpace c = false) :
    skipStart (before ++ c :: rest) = skipStart (c :: rest) := by
  rw [skipStart, skipStart, skipSpaces_stop spaces stop, skipSpaces,
    List.dropWhile_cons_of_neg (by simp [stop])]

theorem skipStart_digit {first : Char} (digit : isDigit first = true) :
    skipStart (first :: rest) = (skipMagnitude (first :: rest)).map (none, ·) := by
  have no_mark {mark : Char} (no_digit : isDigit mark = false) : first ≠ mark := by
    rintro rfl
    simp [digit] at no_digit
  have starts : startsValue first = true := by simp [startsValue, digit]
  have stop : skipSpaces (first :: rest) = first :: rest :=
    skipSpaces_stop spaces_nil (isSpace_of_startsValue starts)
  rw [skipStart, stop]
  simp (disch := decide) only [no_mark, digit, if_false, if_true]

theorem NumberForm.skipStart_append (written : NumberForm text) (ends : EndsNumber rest) :
    skipStart (text ++ rest) = .ok (none, rest) := by
  obtain ⟨sign, integer, fraction, exponent⟩ := written
  have skipped := integer.skipMagnitude_append fraction exponent ends
  obtain ⟨first, others, rfl, digit⟩ := integer.starts
  simp only [List.append_assoc, List.cons_append] at skipped ⊢
  rcases sign with rfl | rfl
  · rw [List.nil_append, skipStart_digit digit, skipped]
    rfl
  · change (skipMagnitude (first :: _)).map _ = _
    rw [skipped]
    rfl

theorem TextForm.skipStart_append {content : String} (written : TextForm content text) :
    skipStart (text ++ rest) = .ok (none, rest) := by
  obtain ⟨chars⟩ := written
  rw [List.append_assoc, List.cons_append]
  change (skipString _).map _ = _
  rw [List.singleton_append, chars.skipString_append]
  rfl

theorem skipStart_literal (listed :
    text ∈ [['n', 'u', 'l', 'l'], ['t', 'r', 'u', 'e'], ['f', 'a', 'l', 's', 'e']]) :
    skipStart (text ++ rest) = .ok (none, rest) := by
  simp only [List.mem_cons, List.not_mem_nil, or_false] at listed
  rcases listed with rfl | rfl | rfl <;> rfl

end Scalars

/-! ## Elements -/

/-- Read over an element from its key on, and over what is left after it. -/
def skipNextUpTo (count : Nat) (frame : Frame) (outer : List Frame) (text : List Char) :
    Reading (List Char) :=
  match skipKey frame text with
  | .error fault => .error fault
  | .ok rest => skipElementsUpTo count (frame :: outer) rest

/-- Read over what is left after an element, past at most a given number of other elements. -/
def skipAfterUpTo (count : Nat) (frames : List Frame) (text : List Char) : Reading (List Char) :=
  match skipClosers true frames text with
  | .error fault => .error fault
  | .ok ([], rest) => .ok rest
  | .ok (frame :: outer, rest) => skipNextUpTo count frame outer rest

section Elements

variable {count : Nat} {frame : Frame} {frames outer : List Frame}
  {text before after rest : List Char}

theorem skipElementsUpTo_of_skipStart (skipped : skipStart text = .ok (none, rest)) :
    skipElementsUpTo (count + 1) frames text = skipAfterUpTo count frames rest := by
  rw [skipElementsUpTo, skipped]
  rfl

theorem skipStart_opener (frame : Frame) (rest : List Char) :
    skipStart (frame.opener :: rest) = .ok (some frame, rest) := by
  cases frame <;> rfl

theorem skipClosers_closer (spaces : Spaces after) (afterElement : Bool) :
    skipClosers afterElement (frame :: outer) (after ++ frame.closer :: rest) =
      skipClosers true outer rest := by
  have stop : isSpace frame.closer = false := by cases frame <;> rfl
  have no_comma : frame.closer ≠ ',' := by cases frame <;> decide
  rw [skipClosers, skipSpaces_stop spaces stop]
  simp [no_comma]

theorem skipAfterUpTo_closer (spaces : Spaces after) :
    skipAfterUpTo count (frame :: outer) (after ++ frame.closer :: rest) =
      skipAfterUpTo count outer rest := by
  rw [skipAfterUpTo, skipClosers_closer spaces]
  rfl

theorem skipAfterUpTo_comma (spaces : Spaces after) :
    skipAfterUpTo count (frame :: outer) (after ++ ',' :: rest) =
      skipNextUpTo count frame outer rest := by
  rw [skipAfterUpTo, skipClosers, skipSpaces_stop spaces (by decide)]
  rfl

theorem skipElementsUpTo_empty (spaces : Spaces before) (inside : Spaces text) :
    skipElementsUpTo (count + 1) frames
        (before ++ (frame.opener :: text ++ [frame.closer]) ++ rest) =
      skipAfterUpTo count frames rest := by
  have stop : isSpace frame.opener = false := by cases frame <;> rfl
  simp only [List.append_assoc, List.cons_append, List.nil_append]
  rw [skipElementsUpTo, skipStart_eq spaces stop, skipStart_opener]
  simp only [Option.isNone_some, Option.toList_some, List.singleton_append]
  rw [skipClosers_closer inside]
  rfl

theorem skipNextUpTo_skipSpaces (text : List Char) :
    skipNextUpTo (count + 1) frame outer (skipSpaces text) =
      skipNextUpTo (count + 1) frame outer text := by
  have twice : skipSpaces (skipSpaces text) = skipSpaces text := List.dropWhile_idempotent _ _
  cases frame with
  | list =>
      change skipElementsUpTo _ _ _ = skipElementsUpTo _ _ _
      rw [skipElementsUpTo, skipElementsUpTo, skipStart, skipStart, twice]
  | object => rw [skipNextUpTo, skipNextUpTo, skipKey, skipKey, twice]

theorem skipElementsUpTo_block (spaces : Spaces before) (inside : Form (.elements frame) text) :
    skipElementsUpTo (count + 1 + 1) frames
        (before ++ (frame.opener :: text ++ [frame.closer]) ++ rest) =
      skipNextUpTo (count + 1) frame frames (text ++ frame.closer :: rest) := by
  have stop : isSpace frame.opener = false := by cases frame <;> rfl
  obtain ⟨first, starts, no_closer⟩ := inside.elements_start (frame.closer :: rest)
  obtain ⟨others, skipped⟩ := List.head?_eq_some_iff.mp starts
  have opened : skipClosers false (frame :: frames) (text ++ frame.closer :: rest) =
      .ok (frame :: frames, skipSpaces (text ++ frame.closer :: rest)) := by
    rw [skipClosers, skipped]
    simp [no_closer]
  simp only [List.append_assoc, List.cons_append, List.nil_append]
  rw [skipElementsUpTo, skipStart_eq spaces stop, skipStart_opener]
  simp only [Option.isNone_some, Option.toList_some, List.singleton_append]
  rw [opened]
  exact skipNextUpTo_skipSpaces _

/-- After the key of an element its value is read over, with the spaces of a list's element. -/
theorem KeyForm.skipNextUpTo_append {key : List Char} (written : KeyForm frame key) :
    ∃ spaces, Spaces spaces ∧ ∀ count outer rest, skipNextUpTo count frame outer (key ++ rest) =
      skipElementsUpTo count (frame :: outer) (spaces ++ rest) := by
  cases written with
  | list spaces => exact ⟨key, spaces, fun _ _ _ => rfl⟩
  | object key_spaces quoted colon_spaces =>
      obtain ⟨chars⟩ := quoted
      refine ⟨[], spaces_nil, fun count outer rest => ?_⟩
      simp only [List.append_assoc, List.cons_append, List.nil_append]
      rw [skipNextUpTo, skipKey, skipSpaces_stop key_spaces (by decide)]
      change (match (skipString _).bind readColon with | .error fault => _ | .ok rest => _) = _
      rw [chars.skipString_append]
      change (match readColon _ with | .error fault => _ | .ok rest => _) = _
      rw [readColon, skipSpaces_stop colon_spaces (by decide)]
      rfl

end Elements

/-! ## Values -/

/-- A part of a text is read over in fewer steps than it has characters, whatever brackets are open
around it. -/
def Part.IsSkipped : Part → List Char → Prop
  | .value, text => ∃ steps < text.length, ∀ count frames before rest, Spaces before →
      EndsNumber rest → skipElementsUpTo (count + (steps + 1)) frames (before ++ text ++ rest) =
        skipAfterUpTo count frames rest
  | .elements frame, text => ∃ steps < text.length, ∀ count outer rest,
      skipNextUpTo (count + (steps + 1)) frame outer (text ++ frame.closer :: rest) =
        skipAfterUpTo count outer rest

theorem Form.isSkipped_of_skipStart {text : List Char} (written : Form .value text)
    (skipped : ∀ rest, EndsNumber rest → skipStart (text ++ rest) = .ok (none, rest)) :
    Part.value.IsSkipped text := by
  obtain ⟨first, others, rfl, starts⟩ := written.starts
  refine ⟨0, Nat.zero_lt_succ _, fun count frames before rest spaces ends => ?_⟩
  apply skipElementsUpTo_of_skipStart
  rw [List.append_assoc, List.cons_append, skipStart_eq spaces (isSpace_of_startsValue starts),
    ← List.cons_append, skipped rest ends]

theorem KeyForm.skipNextUpTo_value {frame : Frame} {key before value : List Char}
    (written : KeyForm frame key) (spaces : Spaces before)
    (value_skipped : Part.value.IsSkipped value) :
    ∃ steps < value.length, ∀ count outer rest, EndsNumber rest →
      skipNextUpTo (count + (steps + 1)) frame outer (key ++ before ++ value ++ rest) =
        skipAfterUpTo count (frame :: outer) rest := by
  obtain ⟨steps, fewer, skipped⟩ := value_skipped
  obtain ⟨key_spaces, all_spaces, keyed⟩ := written.skipNextUpTo_append
  refine ⟨steps, fewer, fun count outer rest ends => ?_⟩
  rw [List.append_assoc, List.append_assoc, keyed, ← List.append_assoc, ← List.append_assoc,
    skipped _ _ _ _ (all_spaces.append spaces) ends]

/-- Every part of a text is read over: a block in one step more than its inside, and elements in as
many as all their values. -/
theorem Form.isSkipped {part : Part} {text : List Char} (written : Form part text) :
    part.IsSkipped text := by
  induction written with
  | literal listed =>
      exact (Form.literal listed).isSkipped_of_skipStart fun _ _ => skipStart_literal listed
  | number numeral =>
      exact (Form.number numeral).isSkipped_of_skipStart fun _ => numeral.skipStart_append
  | text quoted =>
      exact (Form.text quoted).isSkipped_of_skipStart fun _ _ => quoted.skipStart_append
  | empty frame inside =>
      refine ⟨0, by simp, fun count frames before rest spaces _ => ?_⟩
      exact skipElementsUpTo_empty spaces inside
  | block frame inside inside_skipped =>
      obtain ⟨steps, fewer, skipped⟩ := inside_skipped
      refine ⟨steps + 1, by simp; omega, fun count frames before rest spaces _ => ?_⟩
      exact (skipElementsUpTo_block spaces inside).trans (skipped ..)
  | @last frame key before value after key_form spaces _ after_spaces value_skipped =>
      obtain ⟨steps, fewer, skipped⟩ := key_form.skipNextUpTo_value spaces value_skipped
      refine ⟨steps, by simp; omega, fun count outer rest => ?_⟩
      have ends := endsNumber_of_spaces after_spaces (endsNumber_closer frame rest)
      rw [List.append_assoc, skipped _ _ _ ends, skipAfterUpTo_closer after_spaces]
  | @more frame key before value after others key_form spaces _ after_spaces _ value_skipped
      others_skipped =>
      obtain ⟨steps, fewer, skipped⟩ := key_form.skipNextUpTo_value spaces value_skipped
      obtain ⟨other_steps, others_fewer, skipped_others⟩ := others_skipped
      refine ⟨steps + other_steps + 1, by simp; omega, fun count outer rest => ?_⟩
      have ends := endsNumber_of_spaces after_spaces
        (endsNumber_comma (others ++ frame.closer :: rest))
      have fuel : count + (steps + other_steps + 1 + 1) =
          count + (other_steps + 1) + (steps + 1) := by omega
      rw [fuel, List.append_assoc, List.append_assoc, List.cons_append, skipped _ _ _ ends,
        skipAfterUpTo_comma after_spaces, skipped_others]

/-- A value of which nothing is known is read over, whatever it holds. -/
theorem Form.skipValue_append {before text rest : List Char} (written : Form .value text)
    (spaces : Spaces before) (ends : EndsNumber rest) :
    skipValue (before ++ text ++ rest) = .ok rest := by
  obtain ⟨steps, fewer, skipped⟩ := written.isSkipped
  have enough : steps + 1 ≤ (before ++ text ++ rest).length + 1 := by
    simp only [List.length_append]
    omega
  obtain ⟨count, fuel⟩ := Nat.exists_eq_add_of_le' enough
  rw [skipValue, fuel, skipped _ _ _ _ spaces ends]
  rfl

end Json
end ConfigLexer
