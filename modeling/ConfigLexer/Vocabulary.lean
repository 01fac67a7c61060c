/-!
# Vocabularies

A vocabulary is the set of words that a scan reserves.  Look-up is exact and respects case.  The
lengths of the shortest and the longest word turn most names away before the words are searched;
they bound every word, so nothing is lost by it.
-/

namespace ConfigLexer

/-- A set of reserved words. -/
structure Vocabulary where
  /-- The words, latest first. -/
  words : List String
  /-- No word is longer than this many bytes. -/
  longest : Nat
  /-- No word is shorter than this many bytes. -/
  shortest : Nat
  /-- No word is held twice. -/
  nodup : words.Nodup
  /-- Every word is nonempty and within the two lengths. -/
  bounded : ∀ word ∈ words, word ≠ "" ∧ shortest ≤ word.utf8ByteSize ∧ word.utf8ByteSize ≤ longest
deriving DecidableEq, Repr

namespace Vocabulary

/-- The vocabulary without words.  Its bounds admit no length at all. -/
def empty : Vocabulary where
  words := []
  longest := 0
  shortest := UInt64.size - 1
  nodup := List.nodup_nil
  bounded := by simp

/-- One more word.  The empty word and a word that is already held change nothing. -/
def insert (vocabulary : Vocabulary) (word : String) : Vocabulary :=
  if fresh : word ≠ "" ∧ word ∉ vocabulary.words then
    { words := word :: vocabulary.words
      longest := max vocabulary.longest word.utf8ByteSize
      shortest := min vocabulary.shortest word.utf8ByteSize
      nodup := List.nodup_cons.mpr ⟨fresh.2, vocabulary.nodup⟩
      bounded := by
        intro other held
        rcases List.mem_cons.mp held with rfl | held
        · exact ⟨fresh.1, Nat.min_le_right _ _, Nat.le_max_right _ _⟩
        · have bounds := vocabulary.bounded other held
          exact ⟨bounds.1, Nat.le_trans (Nat.min_le_left _ _) bounds.2.1,
            Nat.le_trans bounds.2.2 (Nat.le_max_left _ _)⟩ }
  else
    vocabulary

/-- More words, in order. -/
def insertMany (vocabulary : Vocabulary) (words : List String) : Vocabulary :=
  words.foldl insert vocabulary

/-- The vocabulary of the words in a list. -/
def ofList (words : List String) : Vocabulary := empty.insertMany words

/-- The word is reserved. -/
def contains (vocabulary : Vocabulary) (word : String) : Bool :=
  vocabulary.shortest ≤ word.utf8ByteSize && word.utf8ByteSize ≤ vocabulary.longest &&
    vocabulary.words.contains word

/-- The number of words. -/
def size (vocabulary : Vocabulary) : Nat := vocabulary.words.length

/-- There is no word. -/
def isEmpty (vocabulary : Vocabulary) : Bool := vocabulary.words.isEmpty

theorem contains_iff (vocabulary : Vocabulary) (word : String) :
    vocabulary.contains word = true ↔ word ∈ vocabulary.words := by
  constructor
  · intro held
    simp only [contains, Bool.and_eq_true, List.contains_iff_mem] at held
    exact held.2
  · intro held
    have bounds := vocabulary.bounded word held
    simp only [contains, Bool.and_eq_true, decide_eq_true_eq, List.contains_iff_mem]
    exact ⟨bounds.2, held⟩

theorem mem_words_insert {vocabulary : Vocabulary} {word other : String} :
    other ∈ (vocabulary.insert word).words ↔
      other ∈ vocabulary.words ∨ other = word ∧ word ≠ "" := by
  rw [insert]
  split
  · rename_i fresh
    rw [List.mem_cons, or_comm, and_iff_left fresh.1]
  · rename_i stale
    have held : word ≠ "" → word ∈ vocabulary.words := fun nonempty =>
      Decidable.byContradiction fun missing => stale ⟨nonempty, missing⟩
    constructor
    · exact .inl
    · rintro (present | ⟨rfl, nonempty⟩)
      · exact present
      · exact held nonempty

/-- A word is held after an extension if it was held before or is one of the new words and not
empty. -/
theorem mem_words_insertMany {vocabulary : Vocabulary} {words : List String} {word : String} :
    word ∈ (vocabulary.insertMany words).words ↔
      word ∈ vocabulary.words ∨ word ∈ words ∧ word ≠ "" := by
  induction words generalizing vocabulary with
  | nil => simp [insertMany]
  | cons first words ih =>
      have step : vocabulary.insertMany (first :: words) =
          (vocabulary.insert first).insertMany words := rfl
      rw [step, ih, mem_words_insert, List.mem_cons, or_and_right, or_assoc]
      have same : word = first ∧ first ≠ "" ↔ word = first ∧ word ≠ "" :=
        and_congr_right fun equal => by rw [equal]
      rw [same]

/-- Block names of configuration files. -/
def blockWords : List String :=
  ["terramate", "config", "git", "cloud", "stack", "globals", "lets", "map", "import",
    "generate_hcl", "generate_file", "content", "tm_dynamic", "assert", "output", "script",
    "sharing_backend", "vendor", "define", "bundle", "metadata", "scaffolding", "input", "export",
    "component", "scaffold"]

/-- Names of the constant values. -/
def constantWords : List String := ["true", "false", "null"]

/-- Words of template directives and `for` expressions. -/
def directiveWords : List String := ["if", "else", "endif", "for", "in", "endfor"]

/-- Every word that configuration files reserve. -/
def builtinWords : List String := blockWords ++ constantWords ++ directiveWords

/-- The vocabulary of configuration files. -/
def builtin : Vocabulary := ofList builtinWords

end Vocabulary
end ConfigLexer
