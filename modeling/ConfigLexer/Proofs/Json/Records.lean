import ConfigLexer.Json.Record
import ConfigLexer.Proofs.Json.Skipping

/-!
# Readers of typed values

A reader of a type takes every text that writes a value of the type, with whatever spaces before it,
and leaves what stands behind.  For records that holds whatever their fields are, as soon as each
field's own reader does so.
-/

namespace ConfigLexer
namespace Json

/-- The reader takes a text for a value, after any spaces and before any rest. -/
def Takes {Value : Type} (read : List Char → Reading (Value × List Char)) (form : List Char)
    (value : Value) : Prop :=
  ∀ before rest, Spaces before → read (before ++ form ++ rest) = .ok (value, rest)

/-! ## Scalars -/

theorem BoolForm.takes {value : Bool} {form : List Char} (written : BoolForm value form) :
    Takes readBool form value := by
  intro before rest spaces
  cases written <;>
  · rw [List.append_assoc, readBool, List.cons_append, skipSpaces_stop spaces (by decide)]
    rfl

theorem TextForm.takes {text : String} {form : List Char} (written : TextForm text form) :
    Takes readText form text := by
  obtain ⟨chars⟩ := written
  intro before rest spaces
  simp only [List.append_assoc, List.cons_append, List.nil_append]
  rw [readText, skipSpaces_stop spaces (by decide)]
  change (readString _).map _ = _
  rw [chars.readString_append]
  simp [Except.map]

section Variants

variable {Variant : Type} {variants : List (String × Variant)} {name : String} {variant : Variant}
  {form : List Char}

theorem readVariantName_append {forms rest : List Char} (written : CharsForm name.toList forms)
    (listed : variants.lookup name = some variant) :
    readVariantName variants (forms ++ '"' :: rest) = .ok (variant, rest) := by
  rw [readVariantName, written.readString_append, ok_bind]
  simp only [String.ofList_toList, listed]

theorem VariantForm.takes (written : VariantForm name form)
    (listed : variants.lookup name = some variant) :
    Takes (readVariant variants) form variant := by
  intro before rest spaces
  cases written with
  | name quoted =>
      obtain ⟨chars⟩ := quoted
      simp only [List.append_assoc, List.cons_append, List.nil_append]
      rw [readVariant, skipSpaces_stop spaces (by decide)]
      exact readVariantName_append chars listed
  | object key_before quoted key_after inside behind =>
      obtain ⟨chars⟩ := quoted
      have null_read (text : List Char) :
          readLiteral ['u', 'l', 'l'] ('u' :: 'l' :: 'l' :: text) = .ok text :=
        readLiteral_append ['u', 'l', 'l'] text
      simp only [List.append_assoc, List.cons_append, List.nil_append]
      rw [readVariant, skipSpaces_stop spaces (by decide)]
      simp only [Char.reduceEq, if_false, if_true]
      rw [skipSpaces_stop key_before (by decide)]
      simp only [if_true]
      rw [readVariantName_append chars listed, ok_bind]
      simp only
      rw [readColon, skipSpaces_stop key_after (by decide)]
      simp only
      rw [ok_bind, readUnit, skipSpaces_stop inside (by decide)]
      simp only
      rw [null_read, ok_bind, skipSpaces_stop behind (by decide)]
      simp only [if_true]

end Variants

/-! ## Items between brackets -/

/-- What stands before an item: nothing before the first one, and a comma before any other. -/
inductive SeparatorForm : Bool → List Char → Prop
  | first : SeparatorForm true []
  | comma {after : List Char} : Spaces after → SeparatorForm false (after ++ [','])

section Lists

variable {isFirst : Bool} {count : Nat} {separator before inside rest : List Char}
  {values : List String}

theorem SeparatorForm.readListStep_append {c : Char} (separated : SeparatorForm isFirst separator)
    (spaces : Spaces before) (stop : isSpace c = false) (no_closer : c ≠ ']') :
    readListStep isFirst (separator ++ (before ++ c :: rest)) = .ok (some (c :: rest)) := by
  cases separated with
  | first =>
      rw [List.nil_append, readListStep, skipSpaces_stop spaces stop]
      simp
  | comma after =>
      rw [List.append_assoc, List.singleton_append, readListStep, skipSpaces_stop after (by decide)]
      simp [skipSpaces_stop spaces stop, no_closer]

theorem readTextsUpTo_closer (spaces : Spaces before) :
    readTextsUpTo (count + 1) isFirst (before ++ ']' :: rest) = .ok ([], rest) := by
  have stop : skipSpaces (before ++ ']' :: rest) = ']' :: rest := skipSpaces_stop spaces (by decide)
  rw [readTextsUpTo, readListStep, stop]
  change (readListEnd _).map _ = _
  rw [readListEnd, stop]
  rfl

theorem SeparatorForm.readTextsUpTo_append {text : String} {form : List Char}
    (separated : SeparatorForm isFirst separator) (spaces : Spaces before)
    (written : TextForm text form) :
    readTextsUpTo (count + 1) isFirst (separator ++ (before ++ (form ++ rest))) =
      (readTextsUpTo count false rest).map fun read => (text :: read.1, read.2) := by
  have taken := written.takes [] rest spaces_nil
  obtain ⟨chars⟩ := written
  simp only [List.append_assoc, List.cons_append, List.nil_append] at taken ⊢
  rw [readTextsUpTo, separated.readListStep_append spaces (by decide) (by decide)]
  change (readText _ >>= _) = _
  rw [taken, ok_bind]
  exact bind_ok _ _

theorem ItemsForm.length_le {Value : Type} {Item : Value → List Char → Prop} {values : List Value}
    (items : ItemsForm Item values inside) : values.length ≤ inside.length + 1 := by
  induction items with
  | last => simp
  | more _ _ _ _ others_le =>
      simp only [List.length_cons, List.length_append]
      omega

theorem readTextsUpTo_items (items : ItemsForm TextForm values inside)
    (separated : SeparatorForm isFirst separator) (enough : values.length < count) :
    readTextsUpTo count isFirst (separator ++ (inside ++ ']' :: rest)) = .ok (values, rest) := by
  induction items generalizing count isFirst separator with
  | last spaces written after =>
      obtain _ | _ | count := count
      · contradiction
      · contradiction
      · simp only [List.append_assoc]
        rw [separated.readTextsUpTo_append spaces written, readTextsUpTo_closer after]
        rfl
  | @more _ _ before form after others spaces written after_spaces _ others_read =>
      obtain _ | count := count
      · contradiction
      · rw [List.length_cons, Nat.add_lt_add_iff_right] at enough
        have behind := others_read (.comma after_spaces) enough
        simp only [List.append_assoc, List.cons_append, List.nil_append] at behind ⊢
        rw [separated.readTextsUpTo_append spaces written, behind]
        rfl

theorem TextsForm.takes {texts : List String} {form : List Char} (written : TextsForm texts form) :
    Takes readTexts form texts := by
  intro before rest spaces
  cases written with
  | empty inside =>
      simp only [List.append_assoc, List.cons_append, List.nil_append]
      rw [readTexts, skipSpaces_stop spaces (by decide)]
      exact readTextsUpTo_closer inside
  | items items =>
      have fewer := items.length_le
      simp only [List.append_assoc, List.cons_append, List.nil_append]
      rw [readTexts, skipSpaces_stop spaces (by decide)]
      refine readTextsUpTo_items items .first ?_
      rw [List.length_append, List.length_cons]
      omega

end Lists

/-! ## Records -/

section Records

variable {Record Content : Type} {fields : List (RecordField Record)} {names : List String}
  {key : Content → String} {Holds : Content → List Char → Prop} {set : Record → Content → Record}

/-- The fields of a record are what is known of it: each content is taken by the field with its key,
and sets it in the record. -/
structure FieldsTake (fields : List (RecordField Record)) (names : List String)
    (key : Content → String) (Holds : Content → List Char → Prop)
    (set : Record → Content → Record) : Prop where
  /-- No field has another name than the known ones. -/
  known : ∀ field ∈ fields, field.name ∈ names
  /-- What a content is written as is taken by the field with its key. -/
  take {content : Content} {form : List Char} : Holds content form →
    ∃ field, (fields.find? fun field => field.name == key content) = some field ∧
      ∀ record, Takes (field.read record) form (set record content)

variable {isFirst : Bool} {count : Nat} {seen : List String} {record : Record}
  {separator before after form inside rest : List Char}

theorem SeparatorForm.readKey_append {name : String} (separated : SeparatorForm isFirst separator)
    (spaces : Spaces before) (written : TextForm name form) :
    readKey isFirst (separator ++ (before ++ (form ++ rest))) = .ok (some name.toList, rest) := by
  obtain ⟨chars⟩ := written
  simp only [List.append_assoc, List.cons_append, List.nil_append]
  cases separated with
  | first =>
      rw [List.nil_append, readKey, skipSpaces_stop spaces (by decide)]
      simp [chars.readString_append, Except.map]
  | comma after =>
      rw [List.append_assoc, List.singleton_append, readKey, skipSpaces_stop after (by decide)]
      have stop (text : List Char) : skipSpaces (before ++ '"' :: text) = '"' :: text :=
        skipSpaces_stop spaces (by decide)
      simp [stop, chars.readString_append, Except.map]

theorem readColon_append (spaces : Spaces before) :
    readColon (before ++ ':' :: rest) = .ok rest := by
  rw [readColon, skipSpaces_stop spaces (by decide)]
  rfl

theorem FieldsTake.readMember_known (takes : FieldsTake fields names key Holds set)
    {content : Content} (holds : Holds content form) (unseen : key content ∉ seen)
    (spaces : Spaces before) (value_spaces : Spaces after) :
    readMember fields seen record (key content) (before ++ ':' :: (after ++ (form ++ rest))) =
      .ok (key content :: seen, set record content, rest) := by
  obtain ⟨field, found, taken⟩ := takes.take holds
  have read := taken record after rest value_spaces
  rw [List.append_assoc] at read
  rw [readMember, found]
  simp only [List.contains_eq_mem, unseen, decide_false, Bool.false_eq_true, if_false]
  rw [readColon_append spaces, ok_bind, read, ok_bind]

theorem FieldsTake.readMember_unknown (takes : FieldsTake fields names key Holds set)
    {name : String} (unknown : name ∉ names) (written : Form .value form)
    (spaces : Spaces before) (value_spaces : Spaces after) (ends : EndsNumber rest) :
    readMember fields seen record name (before ++ ':' :: (after ++ (form ++ rest))) =
      .ok (seen, record, rest) := by
  have none_found : (fields.find? fun field => field.name == name) = none := by
    rw [List.find?_eq_none]
    intro field present same
    exact unknown (beq_iff_eq.mp same ▸ takes.known field present)
  have skipped := written.skipValue_append value_spaces ends
  rw [List.append_assoc] at skipped
  rw [readMember, none_found]
  simp only
  rw [readColon_append spaces, ok_bind, skipped, ok_bind]

theorem readMembersUpTo_closer (spaces : Spaces before) :
    readMembersUpTo fields (count + 1) isFirst seen record (before ++ '\x7d' :: rest) =
      .ok (record, rest) := by
  rw [readMembersUpTo, readKey, skipSpaces_stop spaces (by decide)]
  rfl

/-- A member sets what it holds and marks its key as seen, and changes nothing if it is unknown. -/
theorem MemberForm.readMembersUpTo_append {member : Option Content}
    (written : MemberForm names key Holds member form)
    (takes : FieldsTake fields names key Holds set)
    (unseen : ∀ content ∈ member, key content ∉ seen) (separated : SeparatorForm isFirst separator)
    (spaces : Spaces before) (ends : EndsNumber rest) :
    readMembersUpTo fields (count + 1) isFirst seen record
        (separator ++ (before ++ (form ++ rest))) =
      readMembersUpTo fields count false (member.toList.map key ++ seen)
        (member.toList.foldl set record) rest := by
  cases written with
  | known quoted colon_spaces value_spaces holds =>
      simp only [List.append_assoc, List.cons_append]
      rw [readMembersUpTo, separated.readKey_append spaces quoted]
      simp only [String.ofList_toList]
      rw [takes.readMember_known holds (unseen _ rfl) colon_spaces value_spaces]
      rfl
  | unknown unknown quoted colon_spaces value_spaces value =>
      simp only [List.append_assoc, List.cons_append]
      rw [readMembersUpTo, separated.readKey_append spaces quoted]
      simp only [String.ofList_toList]
      rw [takes.readMember_unknown unknown value colon_spaces value_spaces ends]
      rfl

theorem reduceOption_cons (member : Option Content) (members : List (Option Content)) :
    (member :: members).reduceOption = member.toList ++ members.reduceOption := by
  cases member <;> rfl

theorem distinct_cons {member : Option Content} {others : List (Option Content)}
    (distinct : ((member :: others).reduceOption.map key ++ seen).Nodup) :
    (∀ content ∈ member, key content ∉ seen) ∧
      (others.reduceOption.map key ++ (member.toList.map key ++ seen)).Nodup := by
  rw [reduceOption_cons, List.map_append, List.append_assoc] at distinct
  refine ⟨fun content known present => ?_, ?_⟩
  · have listed : key content ∈ member.toList.map key :=
      List.mem_map_of_mem (Option.mem_toList.mpr known)
    exact (List.nodup_append.mp distinct).2.2 _ listed _ (List.mem_append_right _ present) rfl
  · exact (List.perm_append_comm_assoc _ _ _).nodup_iff.mp distinct

/-- Members are read up to the closing brace.  The known ones set their contents one after another,
as long as no key was seen before. -/
theorem readMembersUpTo_items {members : List (Option Content)}
    (takes : FieldsTake fields names key Holds set)
    (items : ItemsForm (MemberForm names key Holds) members inside)
    (distinct : (members.reduceOption.map key ++ seen).Nodup)
    (separated : SeparatorForm isFirst separator) (enough : members.length < count) :
    readMembersUpTo fields count isFirst seen record (separator ++ (inside ++ '\x7d' :: rest)) =
      .ok (members.reduceOption.foldl set record, rest) := by
  induction items generalizing count isFirst separator seen record with
  | last spaces written after =>
      obtain ⟨unseen, -⟩ := distinct_cons distinct
      have ends : EndsNumber (_ ++ '\x7d' :: rest) :=
        endsNumber_of_spaces after (endsNumber_closer .object rest)
      obtain _ | _ | count := count
      · contradiction
      · contradiction
      · simp only [List.append_assoc]
        rw [written.readMembersUpTo_append takes unseen separated spaces ends,
          readMembersUpTo_closer after, reduceOption_cons, List.foldl_append]
        rfl
  | @more member others before form after inside spaces written after_spaces _ others_read =>
      obtain ⟨unseen, still_distinct⟩ := distinct_cons distinct
      have ends := endsNumber_of_spaces after_spaces (endsNumber_comma (inside ++ '\x7d' :: rest))
      obtain _ | count := count
      · contradiction
      · rw [List.length_cons, Nat.add_lt_add_iff_right] at enough
        have behind : readMembersUpTo fields count false (member.toList.map key ++ seen)
            (member.toList.foldl set record) (after ++ [','] ++ (inside ++ '\x7d' :: rest)) = _ :=
          others_read still_distinct (.comma after_spaces) enough
        simp only [List.append_assoc, List.cons_append, List.nil_append] at behind ⊢
        rw [written.readMembersUpTo_append takes unseen separated spaces ends, behind,
          reduceOption_cons, List.foldl_append]

/-- An object is taken for the record that its known contents make of the initial one. -/
theorem ObjectForm.takes {contents : List Content}
    (written : ObjectForm names key Holds contents form)
    (takes : FieldsTake fields names key Holds set) (wanted : String) (initial : Record) :
    Takes (readRecord wanted fields initial) form (contents.foldl set initial) := by
  intro before rest spaces
  obtain ⟨block, distinct⟩ := written
  cases block with
  | empty inside =>
      simp only [List.append_assoc, List.cons_append, List.nil_append]
      rw [readRecord, skipSpaces_stop spaces (by decide)]
      exact readMembersUpTo_closer inside
  | items items =>
      have fewer := items.length_le
      simp only [List.append_assoc, List.cons_append, List.nil_append]
      rw [readRecord, skipSpaces_stop spaces (by decide)]
      refine readMembersUpTo_items takes items (by rwa [List.append_nil]) .first ?_
      rw [List.length_append, List.length_cons]
      omega

end Records

/-! ## Documents -/

theorem Takes.readDocument_eq {Value : Type} {read : List Char → Reading (Value × List Char)}
    {value : Value} {before form after : List Char} (takes : Takes read form value)
    (spaces : Spaces before) (after_spaces : Spaces after) :
    readDocument read (before ++ form ++ after) = .ok value := by
  have stop : skipSpaces after = [] := List.dropWhile_eq_nil_iff.mpr after_spaces
  rw [readDocument, takes _ _ spaces]
  simp only [stop]

end Json
end ConfigLexer
