import ConfigLexer.Settings
import Mathlib.Data.Finset.Card
import Mathlib.Data.List.Infix

/-!
# Extended vocabularies

A vocabulary is made of a list of words, and every further list extends it to a vocabulary of its
own.  Each vocabulary on the way holds the nonempty words of the lists that went into it, each of
them once, and still does so when the others have been made.  The lengths by which it turns names
away never hide a word.
-/

namespace ConfigLexer
namespace Vocabulary

variable {vocabulary : Vocabulary} {lists : List (List String)} {words : List String}
variable {word : String}

/-- The word is nonempty and stands in one of the lists. -/
def Listed (lists : List (List String)) (word : String) : Prop :=
  word ≠ "" ∧ ∃ words ∈ lists, word ∈ words

instance (lists : List (List String)) (word : String) : Decidable (Listed lists word) :=
  inferInstanceAs (Decidable (_ ∧ _))

/-- The vocabulary holds the words of some lists, but for the empty one, and no others. -/
structure Holds (lists : List (List String)) (vocabulary : Vocabulary) : Prop where
  /-- The words of the lists are reserved, whatever their lengths. -/
  contains_iff : ∀ word, vocabulary.contains word = true ↔ Listed lists word
  /-- Each word is held once, however often it is listed. -/
  count_words : ∀ word, vocabulary.words.count word = if Listed lists word then 1 else 0
  /-- The size is the number of different words. -/
  size_eq : vocabulary.size = (lists.flatten.toFinset.erase "").card
  /-- The vocabulary is empty if the lists have no word but the empty one. -/
  isEmpty_iff : vocabulary.isEmpty = true ↔ ∀ words ∈ lists, ∀ word ∈ words, word = ""

theorem listed_iff_mem : Listed lists word ↔ word ∈ lists.flatten.toFinset.erase "" := by
  rw [Listed, Finset.mem_erase, List.mem_toFinset, List.mem_flatten]

theorem listed_concat :
    Listed (lists ++ [words]) word ↔ Listed lists word ∨ word ∈ words ∧ word ≠ "" := by
  simp only [Listed, List.mem_append, List.mem_singleton]
  constructor
  · rintro ⟨nonempty, _, listed | rfl, member⟩
    · exact .inl ⟨nonempty, _, listed, member⟩
    · exact .inr ⟨member, nonempty⟩
  · rintro (⟨nonempty, others, listed, member⟩ | ⟨member, nonempty⟩)
    · exact ⟨nonempty, others, .inl listed, member⟩
    · exact ⟨nonempty, words, .inr rfl, member⟩

/-- All that a vocabulary tells follows from which words are in it. -/
theorem holds_iff :
    Holds lists vocabulary ↔ ∀ word, word ∈ vocabulary.words ↔ Listed lists word := by
  constructor
  · intro holds word
    rw [← vocabulary.contains_iff, holds.contains_iff]
  · intro held
    have words_eq : vocabulary.words.toFinset = lists.flatten.toFinset.erase "" := by
      ext word
      rw [List.mem_toFinset, held, listed_iff_mem]
    refine ⟨?_, ?_, ?_, ?_⟩
    · intro word
      rw [vocabulary.contains_iff, held]
    · intro word
      simp only [vocabulary.nodup.count, held]
    · rw [size, ← words_eq, List.toFinset_card_of_nodup vocabulary.nodup]
    · rw [isEmpty, List.isEmpty_iff, List.eq_nil_iff_forall_not_mem]
      constructor
      · intro none_held words listed word member
        by_contra nonempty
        exact none_held word ((held word).mpr ⟨nonempty, words, listed, member⟩)
      · intro all_empty word member
        obtain ⟨nonempty, words, listed, member⟩ := (held word).mp member
        exact nonempty (all_empty words listed word member)

theorem holds_empty : Holds [] empty :=
  holds_iff.mpr fun word => by simp [empty, Listed]

theorem Holds.insertMany (holds : Holds lists vocabulary) (words : List String) :
    Holds (lists ++ [words]) (vocabulary.insertMany words) := by
  rw [holds_iff] at holds ⊢
  intro word
  rw [mem_words_insertMany, holds, listed_concat]

theorem holds_ofList (words : List String) : Holds [words] (ofList words) :=
  holds_empty.insertMany words

/-- However often a vocabulary is extended, each one on the way holds what went into it. -/
theorem Holds.scanl (holds : Holds lists vocabulary) (extras : List (List String)) :
    List.Forall₂ Holds (extras.inits.map (lists ++ ·))
      (extras.scanl Vocabulary.insertMany vocabulary) := by
  induction extras generalizing lists vocabulary with
  | nil => simpa using holds
  | cons words extras ih =>
      have later := ih (holds.insertMany words)
      simp only [List.append_assoc, List.singleton_append] at later
      rw [List.inits_cons, List.scanl_cons, List.map_cons, List.append_nil, List.map_map]
      exact .cons holds later

theorem empty_notMem_builtinWords : "" ∉ builtinWords := by decide +kernel

theorem contains_settings_vocabulary (settings : Settings) (word : String) :
    settings.vocabulary.contains word = true ↔
      word ∈ builtinWords ∨ word ∈ settings.extraWords ∧ word ≠ "" := by
  have builtin_iff : word ∈ builtin.words ↔ word ∈ builtinWords ∧ word ≠ "" := by
    rw [builtin, ofList, mem_words_insertMany]
    simp [empty]
  have not_empty : word ∈ builtinWords → word ≠ "" := by
    rintro member rfl
    exact empty_notMem_builtinWords member
  rw [Settings.vocabulary, contains_iff, mem_words_insertMany, builtin_iff,
    and_iff_left_of_imp not_empty]

/-- A vocabulary and all its extensions hold the nonempty words of the lists that went into them.
Settings add their own words to the built-in ones. -/
theorem holds_scanl (first : List String) (extras : List (List String)) :
    List.Forall₂ Holds (extras.inits.map (first :: ·)) (extras.scanl insertMany (ofList first)) ∧
      ∀ (settings : Settings) (word : String), settings.vocabulary.contains word = true ↔
        word ∈ builtinWords ∨ word ∈ settings.extraWords ∧ word ≠ "" :=
  ⟨(holds_ofList first).scanl extras, contains_settings_vocabulary⟩

end Vocabulary
end ConfigLexer
