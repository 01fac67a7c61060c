import ConfigLexer.Proofs.Session.Partition
import Mathlib.Data.List.Infix
import Mathlib.Logic.ExistsUnique

/-!
# The token of a character

Tokens that tile some bytes hold each of them once.  No token ends inside of a character, so the
token that holds the first byte of a character holds all of them: every character that is scanned
lies in one token.
-/

namespace ConfigLexer

open Text Lexeme

/-- All bytes of the character behind a first part of a source lie in the window. -/
def Window.Holds (window : Window) (before : List Char) (c : Char) : Prop :=
  window.start.toNat ≤ byteCount before ∧ byteCount (before ++ [c]) ≤ window.stop.toNat

instance (window : Window) (before : List Char) (c : Char) : Decidable (window.Holds before c) :=
  inferInstanceAs (Decidable (_ ∧ _))

/-- No window holds a character that 32-bit offsets do not reach. -/
theorem Window.not_holds_of_size_le {window : Window} {before : List Char} {c : Char}
    (far : UInt32.size ≤ byteCount (before ++ [c])) : ¬window.Holds before c := by
  rintro ⟨-, inside⟩
  exact Nat.not_lt.mpr (far.trans inside) window.stop.toNat_lt_size

theorem Text.byteCount_lt_concat (before : List Char) (c : Char) :
    byteCount before < byteCount (before ++ [c]) := by
  have width := c.utf8Size_pos
  rw [byteCount_append, byteCount_cons]
  omega

namespace Token.Tiles

variable {start stop offset : Nat} {tokens : List Token} {token other : Token}

theorem pairwise (tiles : Tiles start tokens stop) :
    tokens.Pairwise fun first second => first.stop ≤ second.start := by
  induction tiles with
  | nil => exact .nil
  | cons _ _ rest ih =>
      refine .cons (fun second member => ?_) ih
      exact UInt32.le_iff_toNat_le.mpr (rest.bounds member).1

theorem exists_around (tiles : Tiles start tokens stop) (behind : start ≤ offset)
    (inside : offset < stop) :
    ∃ token ∈ tokens, token.start.toNat ≤ offset ∧ offset < token.stop.toNat := by
  induction tiles with
  | nil => exact absurd inside (Nat.not_lt.mpr behind)
  | @cons _ _ token _ starts _ _ ih =>
      rcases Nat.lt_or_ge offset token.stop.toNat with here | later
      · exact ⟨token, List.mem_cons_self, by omega, here⟩
      · obtain ⟨found, member, around⟩ := ih later inside
        exact ⟨found, List.mem_cons_of_mem _ member, around⟩

theorem eq_of_around (tiles : Tiles start tokens stop) (member : token ∈ tokens)
    (other_member : other ∈ tokens)
    (around : token.start.toNat ≤ offset ∧ offset < token.stop.toNat)
    (other_around : other.start.toNat ≤ offset ∧ offset < other.stop.toNat) : token = other := by
  induction tiles with
  | nil => cases member
  | cons starts _ rest ih =>
      rcases List.mem_cons.mp member with rfl | later
      · rcases List.mem_cons.mp other_member with rfl | other_later
        · rfl
        · have bounds := rest.bounds other_later
          omega
      · rcases List.mem_cons.mp other_member with rfl | other_later
        · have bounds := rest.bounds later
          omega
        · exact ih later other_later

end Token.Tiles

variable {vocabulary : Vocabulary} {source : String} {token : Token} {lexeme : Lexeme}
variable {before after : List Char} {c : Char}

/-- What is around the first byte of a character holds the character. -/
theorem Lexeme.Spells.holds (spells : Spells source token lexeme)
    (split : source.toList = before ++ c :: after)
    (starts : token.start.toNat ≤ byteCount before) (stops : byteCount before < token.stop.toNat) :
    token.span.Holds before c := by
  refine ⟨starts, ?_⟩
  obtain ⟨left, right, cuts⟩ := spells.cuts
  have stops : byteCount before < byteCount (left ++ lexeme.text) := cuts.stop ▸ stops
  have token_begins : left ++ lexeme.text <+: source.toList := ⟨right, cuts.text.symm⟩
  have character_begins : before ++ [c] <+: source.toList := ⟨after, by simp [split]⟩
  rw [cuts.stop]
  by_contra short
  have inside := prefix_of_byteCount_le token_begins character_begins (by omega)
  rcases List.prefix_concat_iff.mp inside with whole | ⟨missing, shorter⟩
  · rw [whole] at short
    exact short (Nat.le_refl _)
  · rw [← shorter, byteCount_append] at stops
    omega

/-- Every character that 32-bit offsets reach lies in one token. -/
theorem existsUnique_holds (vocabulary : Vocabulary) (split : source.toList = before ++ c :: after)
    (reached : byteCount (before ++ [c]) < UInt32.size) :
    ∃! token, token ∈ tokens vocabulary source ∧ token.span.Holds before c := by
  obtain ⟨visible, hidden, cuts⟩ := Window.whole_cuts source
  have tiles := (tokens_partition vocabulary source).tiles
  have character_begins : before ++ [c] <+: source.toList := ⟨after, by simp [split]⟩
  obtain ⟨rest, shown⟩ := Window.begins_visible cuts character_begins reached
  have wider := byteCount_lt_concat before c
  have inside : byteCount before < (Window.whole source).stop.toNat := by
    rw [cuts.stop, List.nil_append, ← shown, byteCount_append]
    omega
  obtain ⟨token, member, starts, stops⟩ := tiles.exists_around (Nat.zero_le _) inside
  obtain ⟨_, lexeme, -, spelled⟩ := exists_lexeme member
  refine ⟨token, ⟨member, spelled.holds split starts stops⟩, ?_⟩
  rintro other ⟨other_member, other_starts, other_stops⟩
  exact tiles.eq_of_around other_member member
    ⟨other_starts, Nat.lt_of_lt_of_le wider other_stops⟩ ⟨starts, stops⟩

end ConfigLexer
