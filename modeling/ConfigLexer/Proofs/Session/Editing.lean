import ConfigLexer.Proofs.Lexeme.Trivia
import ConfigLexer.Proofs.Session.Run

/-!
# Scanning again after an edit

An edit replaces a part of a source and leaves the text before it and the text after it as they
are.  The tokens that end before the edit stay: each was ended by a character in front of the edit.
From a border behind the edit on, the old tokens are the new ones but for their offsets, as soon as
the new scan has a border at the same place.
-/

namespace ConfigLexer

open Text Lexeme Token

namespace Lexeme

variable {vocabulary : Vocabulary} {first : Char} {begin tail other : List Char}

theorem reach_common
    (inside : (reach vocabulary first (begin ++ tail)).2 < begin.length) :
    reach vocabulary first (begin ++ other) = reach vocabulary first (begin ++ tail) := by
  generalize reached : reach vocabulary first (begin ++ tail) = found at *
  obtain ⟨tag, count⟩ := found
  obtain ⟨body, c, rest, rfl, rfl⟩ :
      ∃ body c rest, begin = body ++ c :: rest ∧ body.length = count := by
    refine ⟨begin.take count, begin[count], begin.drop (count + 1), ?_, ?_⟩
    · rw [List.getElem_cons_drop, List.take_append_drop]
    · exact List.length_take_of_le (Nat.le_of_lt inside)
  rw [List.append_assoc] at reached ⊢
  exact reach_stable reached (.inr rfl)

theorem filter_before_nil {offset : Nat} {text : List Char}
    (fits : offset + byteCount text < UInt32.size) :
    (layOut offset (lex vocabulary text)).filter
      (fun token => token.stop.toNat < offset + byteCount []) = [] := by
  rw [List.filter_eq_nil_iff]
  intro token member
  have bounds := (lex_tiles vocabulary fits).bounds member
  simp only [byteCount_nil, decide_eq_true_eq]
  omega

theorem filter_before_eq_nil {offset : Nat}
    (fits : offset + byteCount (first :: (begin ++ tail)) < UInt32.size)
    (outside : begin.length ≤ (reach vocabulary first (begin ++ tail)).2) :
    (layOut offset (lex vocabulary (first :: (begin ++ tail)))).filter
      (fun token => token.stop.toNat < offset + byteCount (first :: begin)) = [] := by
  have tiles := lex_tiles vocabulary fits
  rw [lex_cons, layOut] at tiles ⊢
  have shape : (begin ++ tail).take (reach vocabulary first (begin ++ tail)).2 =
      begin ++ tail.take ((reach vocabulary first (begin ++ tail)).2 - begin.length) := by
    rw [List.take_append, List.take_of_length_le outside]
  have size := congrArg byteCount
    (List.take_append_drop (reach vocabulary first (begin ++ tail)).2 (begin ++ tail))
  rw [shape] at tiles size ⊢
  simp only [byteCount_append, byteCount_cons] at tiles size fits ⊢
  rw [List.filter_eq_nil_iff]
  intro token member
  have first_le := tiles.first_stop_le member
  dsimp only at first_le
  rw [toNat_toUInt32 (by omega)] at first_le
  simp only [decide_eq_true_eq]
  omega

theorem lex_cons_inside
    (inside : (reach vocabulary first (begin ++ tail)).2 ≤ begin.length) :
    lex vocabulary (first :: (begin ++ tail)) =
      ⟨(reach vocabulary first (begin ++ tail)).1,
          first :: begin.take (reach vocabulary first (begin ++ tail)).2⟩ ::
        lex vocabulary (begin.drop (reach vocabulary first (begin ++ tail)).2 ++ tail) := by
  rw [lex_cons, List.take_append_of_le_length inside, List.drop_append_of_le_length inside]

/-- Two texts with a common beginning have the same tokens that end before its end. -/
theorem filter_before_common (vocabulary : Vocabulary) (offset : Nat) (begin : List Char)
    (fits : offset + byteCount (begin ++ tail) < UInt32.size)
    (other_fits : offset + byteCount (begin ++ other) < UInt32.size) :
    (layOut offset (lex vocabulary (begin ++ tail))).filter
        (fun token => token.stop.toNat < offset + byteCount begin) =
      (layOut offset (lex vocabulary (begin ++ other))).filter
        fun token => token.stop.toNat < offset + byteCount begin := by
  induction size : begin.length using Nat.strongRecOn generalizing offset begin with
  | ind size ih =>
      cases begin with
      | nil => exact (filter_before_nil fits).trans (filter_before_nil other_fits).symm
      | cons first begin =>
          by_cases inside : (reach vocabulary first (begin ++ tail)).2 < begin.length
          · have same : reach vocabulary first (begin ++ other) =
                reach vocabulary first (begin ++ tail) := reach_common inside
            have count_le := Nat.le_of_lt inside
            have other_count_le := count_le
            rw [← same] at other_count_le
            rw [List.cons_append, List.cons_append, lex_cons_inside count_le,
              lex_cons_inside other_count_le, same]
            generalize reach vocabulary first (begin ++ tail) = found at *
            have parts := congrArg byteCount (List.take_append_drop found.2 begin)
            simp only [byteCount_append, byteCount_cons, List.cons_append] at parts fits other_fits
            have others := ih (begin.drop found.2).length
              (by rw [← size, List.length_drop, List.length_cons]; omega)
              (offset + byteCount (first :: begin.take found.2)) (begin.drop found.2)
              (by rw [byteCount_append, byteCount_cons]; omega)
              (by rw [byteCount_append, byteCount_cons]; omega) rfl
            have border : offset + byteCount (first :: begin.take found.2) +
                byteCount (begin.drop found.2) = offset + byteCount (first :: begin) := by
              rw [byteCount_cons, byteCount_cons]
              omega
            rw [border] at others
            rw [layOut, layOut, List.filter_cons, List.filter_cons, others]
          · have other_outside :
                ¬(reach vocabulary first (begin ++ other)).2 < begin.length := by
              intro other_inside
              apply inside
              rwa [← reach_common other_inside] at other_inside
            have none_first := filter_before_eq_nil fits (Nat.not_lt.mp inside)
            have none_second := filter_before_eq_nil other_fits (Nat.not_lt.mp other_outside)
            exact none_first.trans none_second.symm

end Lexeme

/-- The tokens of a source that end before an offset. -/
def tokensBefore (vocabulary : Vocabulary) (source : String) (offset : Nat) : List Token :=
  (tokens vocabulary source).filter fun token => token.stop.toNat < offset

/-- The tokens of a source that start at an offset or after it. -/
def tokensFrom (vocabulary : Vocabulary) (source : String) (offset : Nat) : List Token :=
  (tokens vocabulary source).filter fun token => offset ≤ token.start.toNat

theorem tokensBefore_common {source other : String} {begin tail tail' : List Char}
    (vocabulary : Vocabulary) (split : source.toList = begin ++ tail)
    (other_split : other.toList = begin ++ tail') :
    tokensBefore vocabulary source (byteCount begin) =
      tokensBefore vocabulary other (byteCount begin) := by
  obtain ⟨visible, hidden, cuts⟩ := Window.whole_cuts source
  obtain ⟨visible', hidden', cuts'⟩ := Window.whole_cuts other
  have fits := (Window.whole source).stop.toNat_lt_size
  have fits' := (Window.whole other).stop.toNat_lt_size
  rw [cuts.stop, List.nil_append] at fits
  rw [cuts'.stop, List.nil_append] at fits'
  have begins : begin <+: source.toList := ⟨tail, split.symm⟩
  have begins' : begin <+: other.toList := ⟨tail', other_split.symm⟩
  have visible_begins : visible <+: source.toList := ⟨hidden, cuts.text.symm⟩
  have visible_begins' : visible' <+: other.toList := ⟨hidden', cuts'.text.symm⟩
  rw [tokensBefore, tokensBefore, Session.tokens_of_cuts vocabulary cuts,
    Session.tokens_of_cuts vocabulary cuts']
  by_cases small : byteCount begin < UInt32.size
  · obtain ⟨left, rfl⟩ := Window.begins_visible cuts begins small
    obtain ⟨left', rfl⟩ := Window.begins_visible cuts' begins' small
    rw [← Nat.zero_add (byteCount (begin ++ left))] at fits
    rw [← Nat.zero_add (byteCount (begin ++ left'))] at fits'
    have common := filter_before_common vocabulary 0 begin fits fits'
    rwa [Nat.zero_add] at common
  · have inside : visible <+: begin :=
      prefix_of_byteCount_le visible_begins begins (by omega)
    have inside' : visible' <+: begin :=
      prefix_of_byteCount_le visible_begins' begins' (by omega)
    have forth := Window.begins_visible cuts' (inside.trans begins') fits
    have back := Window.begins_visible cuts (inside'.trans begins) fits'
    rw [forth.eq_of_length_le back.length_le]

/-- The tokens from a border behind a beginning of a source on are those of lexemes that the rest of
the source starts with. -/
theorem tokensFrom_of_border {source : String} {front rest : List Char} {number : Nat}
    (vocabulary : Vocabulary) (split : source.toList = front ++ rest)
    (border : Border 0 (tokens vocabulary source) (byteCount front + number)) :
    ∃ near far lexemes, rest = near ++ far ∧ byteCount near = number ∧
      tokensFrom vocabulary source (byteCount front + number) =
        layOut (byteCount front + number) lexemes ∧
      lex vocabulary (textOf lexemes) = lexemes ∧ textOf lexemes <+: far ∧
      byteCount front + number + byteCount (textOf lexemes) =
        (Window.whole source).stop.toNat := by
  obtain ⟨visible, hidden, cuts⟩ := Window.whole_cuts source
  have text := cuts.text
  have stop := cuts.stop
  have fits := (Window.whole source).stop.toNat_lt_size
  rw [List.nil_append] at text stop
  rw [stop, ← Nat.zero_add (byteCount visible)] at fits
  rw [Session.tokens_of_cuts vocabulary cuts] at border
  obtain ⟨first, second, lexed, rfl, place⟩ := cut_at_border fits border
  rw [List.append_assoc] at text
  have front_begins : front <+: textOf first := by
    apply prefix_of_byteCount_le ⟨rest, split.symm⟩ ⟨_, text.symm⟩
    omega
  obtain ⟨near, near_eq⟩ := front_begins
  refine ⟨near, textOf second ++ hidden, second, ?_, ?_, ?_, lex_right lexed,
    List.prefix_append _ _, ?_⟩
  · rw [split, ← near_eq, List.append_assoc] at text
    exact List.append_cancel_left text
  · rw [← near_eq, byteCount_append] at place
    omega
  · have first_tiles : Tiles 0 (layOut 0 (lex vocabulary (textOf first))) _ :=
      lex_tiles vocabulary (by rw [byteCount_append] at fits; omega)
    have second_tiles : Tiles (0 + byteCount (textOf first))
        (layOut (0 + byteCount (textOf first)) (lex vocabulary (textOf second))) _ :=
      lex_tiles vocabulary (by rw [byteCount_append] at fits; omega)
    rw [lex_left lexed] at first_tiles
    rw [lex_right lexed] at second_tiles
    rw [tokensFrom, Session.tokens_of_cuts vocabulary cuts, lexed, layOut_append, place]
    exact first_tiles.filter_from second_tiles
  · rw [stop, place, Nat.zero_add, byteCount_append]

/-- From borders at the same place of a common end on, two sources have the same tokens but for
offsets exactly if both windows reach equally far. -/
theorem tokensFrom_moved_iff {source other : String} {front front' rest : List Char}
    {number lower upper : Nat} (vocabulary : Vocabulary) (split : source.toList = front ++ rest)
    (other_split : other.toList = front' ++ rest)
    (apart : byteCount front' + lower = byteCount front + upper)
    (border : Border 0 (tokens vocabulary source) (byteCount front + number))
    (other_border : Border 0 (tokens vocabulary other) (byteCount front' + number)) :
    List.Forall₂ (Moved lower upper) (tokensFrom vocabulary source (byteCount front + number))
        (tokensFrom vocabulary other (byteCount front' + number)) ↔
      (Window.whole other).stop.toNat + lower = (Window.whole source).stop.toNat + upper := by
  obtain ⟨near, far, lexemes, rest_eq, near_size, tokens_eq, lexed, begins, stop⟩ :=
    tokensFrom_of_border vocabulary split border
  obtain ⟨near', far', lexemes', rest_eq', near_size', tokens_eq', lexed', begins', stop'⟩ :=
    tokensFrom_of_border vocabulary other_split other_border
  have near_begins : near <+: rest := ⟨far, rest_eq.symm⟩
  have near_begins' : near' <+: rest := ⟨far', rest_eq'.symm⟩
  obtain rfl := eq_of_byteCount_eq near_begins near_begins' (near_size.trans near_size'.symm)
  obtain rfl := List.append_cancel_left (rest_eq.symm.trans rest_eq')
  have fits := (Window.whole source).stop.toNat_lt_size
  have fits' := (Window.whole other).stop.toNat_lt_size
  rw [tokens_eq, tokens_eq', ← stop, ← stop']
  rw [← stop] at fits
  rw [← stop'] at fits'
  constructor
  · intro moved
    have tiles := lex_tiles vocabulary fits
    have tiles' := lex_tiles vocabulary fits'
    rw [lexed] at tiles
    rw [lexed'] at tiles'
    exact tiles.stop_moved tiles' moved (by omega)
  · intro equally_far
    have same := eq_of_byteCount_eq begins begins' (by omega)
    rw [same, lexed'] at lexed
    subst lexed
    exact layOut_moved (by omega) fits fits'

/-- The tokens before an edit stay.  From a common border behind it on they are moved along, exactly
if both scans reach equally far into the rest. -/
theorem tokens_edit (vocabulary : Vocabulary) (begin old new rest : String) :
    tokensBefore vocabulary (begin ++ old ++ rest) begin.utf8ByteSize =
        tokensBefore vocabulary (begin ++ new ++ rest) begin.utf8ByteSize ∧
      (∀ number,
        Border 0 (tokens vocabulary (begin ++ old ++ rest))
          (begin.utf8ByteSize + old.utf8ByteSize + number) →
        Border 0 (tokens vocabulary (begin ++ new ++ rest))
          (begin.utf8ByteSize + new.utf8ByteSize + number) →
        (List.Forall₂ (Moved old.utf8ByteSize new.utf8ByteSize)
            (tokensFrom vocabulary (begin ++ old ++ rest)
              (begin.utf8ByteSize + old.utf8ByteSize + number))
            (tokensFrom vocabulary (begin ++ new ++ rest)
              (begin.utf8ByteSize + new.utf8ByteSize + number)) ↔
          (Window.whole (begin ++ new ++ rest)).stop.toNat + old.utf8ByteSize =
            (Window.whole (begin ++ old ++ rest)).stop.toNat + new.utf8ByteSize)) ∧
      ((begin ++ old ++ rest).utf8ByteSize < UInt32.size →
        (begin ++ new ++ rest).utf8ByteSize < UInt32.size →
        (Window.whole (begin ++ new ++ rest)).stop.toNat + old.utf8ByteSize =
          (Window.whole (begin ++ old ++ rest)).stop.toNat + new.utf8ByteSize) := by
  have old_split : (begin ++ old ++ rest).toList = (begin ++ old).toList ++ rest.toList :=
    String.toList_append
  have new_split : (begin ++ new ++ rest).toList = (begin ++ new).toList ++ rest.toList :=
    String.toList_append
  have old_size : byteCount (begin ++ old).toList = begin.utf8ByteSize + old.utf8ByteSize := by
    rw [byteCount_toList, String.utf8ByteSize_append]
  have new_size : byteCount (begin ++ new).toList = begin.utf8ByteSize + new.utf8ByteSize := by
    rw [byteCount_toList, String.utf8ByteSize_append]
  refine ⟨?_, ?_, ?_⟩
  · rw [← byteCount_toList begin]
    apply tokensBefore_common vocabulary
    · rw [String.append_assoc, String.toList_append]
    · rw [String.append_assoc, String.toList_append]
  · intro number old_border new_border
    rw [← old_size] at old_border ⊢
    rw [← new_size] at new_border ⊢
    exact tokensFrom_moved_iff vocabulary old_split new_split (by omega) old_border new_border
  · intro old_fits new_fits
    rw [Window.whole_stop_eq old_fits, Window.whole_stop_eq new_fits]
    simp only [String.utf8ByteSize_append]
    omega

theorem border_behind_blank (vocabulary : Vocabulary) {source : String} {count : Nat}
    (split : source.toList = [' '] ++ filler count) : Border 0 (tokens vocabulary source) 1 := by
  obtain ⟨visible, hidden, cuts⟩ := Window.whole_cuts source
  have blank_begins : [' '] <+: source.toList := ⟨filler count, split.symm⟩
  obtain ⟨shown, rfl⟩ := Window.begins_visible cuts blank_begins (by decide)
  have shown_begins : shown <+: filler count := by
    have text := cuts.text
    rw [split, List.nil_append, List.append_assoc, List.append_cancel_left_eq] at text
    exact ⟨hidden, text.symm⟩
  have stops : shown.head?.any isBlank = false := by
    cases shown with
    | nil => rfl
    | cons c shown =>
        obtain rfl := eq_of_mem_filler (shown_begins.subset List.mem_cons_self)
        rfl
  have lexed : lex vocabulary ([' '] ++ shown) = _ := lex_blanks (by decide) stops
  rw [Session.tokens_of_cuts vocabulary cuts, lexed, layOut]
  exact .inr ⟨_, List.mem_cons_self, rfl⟩

/-- A blank in front of all that 32-bit offsets reach moves the end out of their reach. -/
theorem not_moved_behind_blank (vocabulary : Vocabulary) {rest : String}
    (full : rest.utf8ByteSize + 1 = UInt32.size)
    (border : Border 0 (tokens vocabulary (" " ++ rest)) 1) :
    ¬List.Forall₂ (Moved 0 1) (tokensFrom vocabulary rest 0)
      (tokensFrom vocabulary (" " ++ rest) 1) := by
  have old_split : rest.toList = [] ++ rest.toList := (List.nil_append _).symm
  have new_split : (" " ++ rest).toList = [' '] ++ rest.toList := String.toList_append
  have old_border : Border 0 (tokens vocabulary rest) (byteCount [] + 0) := .inl rfl
  have new_border : Border 0 (tokens vocabulary (" " ++ rest)) (byteCount [' '] + 0) := border
  have apart : byteCount [' '] + 0 = byteCount [] + 1 := rfl
  have moved_iff :=
    tokensFrom_moved_iff vocabulary old_split new_split apart old_border new_border
  have reach := (Window.whole (" " ++ rest)).stop.toNat_lt_size
  have old_reach : (Window.whole rest).stop.toNat = rest.utf8ByteSize :=
    Window.whole_stop_eq (by omega)
  intro moved
  have equally_far := moved_iff.mp moved
  omega

/-- A blank in front of as many letters as 32-bit offsets reach moves the last one out of their
reach. -/
theorem tokens_edit_out_of_reach :
    let rest := String.ofList (filler (UInt32.size - 1))
    Border 0 (tokens .builtin ("" ++ "" ++ rest)) 0 ∧
      Border 0 (tokens .builtin ("" ++ " " ++ rest)) 1 ∧
      ¬List.Forall₂ (Moved 0 1) (tokensFrom .builtin ("" ++ "" ++ rest) 0)
        (tokensFrom .builtin ("" ++ " " ++ rest) 1) := by
  intro rest
  have rest_eq : rest.toList = filler (UInt32.size - 1) := String.toList_ofList
  have full : rest.utf8ByteSize + 1 = UInt32.size := by
    rw [← byteCount_toList, rest_eq, byteCount_filler]
    exact Nat.sub_add_cancel (by decide)
  have nothing : "" ++ "" ++ rest = rest := by rw [String.empty_append, String.empty_append]
  have blank : "" ++ " " ++ rest = " " ++ rest := by rw [String.empty_append]
  have split : (" " ++ rest).toList = [' '] ++ filler (UInt32.size - 1) := by
    rw [← rest_eq]
    exact String.toList_append
  have border := border_behind_blank .builtin split
  rw [nothing, blank]
  exact ⟨.inl rfl, border, not_moved_behind_blank .builtin full border⟩

/-- A digit is replaced by a letter of two bytes. -/
theorem tokens_edit_digit :
    List.Forall₂ (Moved 1 2) (tokensFrom .builtin "x=1 # z" 3)
      (tokensFrom .builtin "x=é # z" 4) := by
  have old_cuts : (Window.whole "x=1 # z").Cuts "x=1 # z" [] "x=1 # z".toList [] :=
    ⟨by decide +kernel, by decide +kernel, by decide +kernel⟩
  have new_cuts : (Window.whole "x=é # z").Cuts "x=é # z" [] "x=é # z".toList [] :=
    ⟨by decide +kernel, by decide +kernel, by decide +kernel⟩
  have old_border : Border 0 (tokens .builtin "x=1 # z") 3 := by
    rw [Session.tokens_of_cuts .builtin old_cuts]
    exact .inr ⟨⟨.number, 2, 3⟩, by decide +kernel, rfl⟩
  have new_border : Border 0 (tokens .builtin "x=é # z") 4 := by
    rw [Session.tokens_of_cuts .builtin new_cuts]
    exact .inr ⟨⟨.identifier, 2, 4⟩, by decide +kernel, rfl⟩
  obtain ⟨-, moved_iff, reach⟩ := tokens_edit .builtin "x=" "1" "é" " # z"
  exact (moved_iff 0 old_border new_border).mpr (reach (by decide +kernel) (by decide +kernel))

end ConfigLexer
