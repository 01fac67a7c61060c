import ConfigLexer.CommandLine.Command
import Mathlib.Data.List.Forall2

/-!
# The arguments of `lex`

Of the options of one name the last one counts.  Arguments are read from the left, and the first
that is wrong decides; if none is wrong, what is no option is a path.
-/

namespace ConfigLexer
namespace CommandLine

/-! ## Options -/

/-- The argument gives a value to the option of this name. -/
def IsOption (name argument : String) : Prop := ∃ value, argument = name ++ "=" ++ value

/-- The value that the last option of a name among some arguments has, if there is one. -/
inductive LastValue (name : String) : List String → Option String → Prop
  /-- There is an option, and none behind it. -/
  | given {earlier later : List String} {value : String} :
      (∀ other ∈ later, ¬IsOption name other) →
      LastValue name (earlier ++ (name ++ "=" ++ value) :: later) (some value)
  /-- There is none. -/
  | missing {arguments : List String} : (∀ argument ∈ arguments, ¬IsOption name argument) →
      LastValue name arguments none

section Options

variable {name argument value text : String} {arguments : List String} {given : Option String}

theorem optionValue?_eq_some_iff :
    optionValue? name argument = some value ↔ argument = name ++ "=" ++ value := by
  rw [optionValue?, Option.map_eq_some_iff]
  constructor
  · rintro ⟨rest, begins, rfl⟩
    rw [List.isPrefixOf?_eq_some_iff_append_eq] at begins
    rw [← String.toList_inj, String.toList_append, String.toList_ofList, begins]
  · rintro rfl
    refine ⟨value.toList, ?_, String.ofList_toList⟩
    rw [List.isPrefixOf?_eq_some_iff_append_eq]
    exact String.toList_append.symm

theorem isSome_optionValue? :
    (optionValue? name argument).isSome = true ↔ IsOption name argument := by
  rw [Option.isSome_iff_exists]
  exact exists_congr fun _ => optionValue?_eq_some_iff

theorem optionValue?_eq_none_iff : optionValue? name argument = none ↔ ¬IsOption name argument := by
  rw [← isSome_optionValue?, Option.not_isSome_iff_eq_none]

instance (name argument : String) : Decidable (IsOption name argument) :=
  decidable_of_iff _ isSome_optionValue?

theorem lastValue_iff :
    LastValue name arguments given ↔
      (arguments.filterMap (optionValue? name)).getLast? = given := by
  rw [List.getLast?_filterMap]
  constructor
  · rintro (@⟨earlier, later, value, none_later⟩ | ⟨nowhere⟩)
    · rw [List.findSome?_eq_some_iff]
      refine ⟨later.reverse, _, earlier.reverse, by simp, optionValue?_eq_some_iff.mpr rfl, ?_⟩
      intro other member
      exact optionValue?_eq_none_iff.mpr (none_later other (List.mem_reverse.mp member))
    · rw [List.findSome?_eq_none_iff]
      intro argument member
      exact optionValue?_eq_none_iff.mpr (nowhere argument (List.mem_reverse.mp member))
  · rintro rfl
    cases found : arguments.reverse.findSome? (optionValue? name) with
    | none =>
        rw [List.findSome?_eq_none_iff] at found
        refine .missing fun argument member => ?_
        exact optionValue?_eq_none_iff.mp (found argument (List.mem_reverse.mpr member))
    | some value =>
        obtain ⟨later, argument, earlier, split, has_value, none_later⟩ :=
          List.findSome?_eq_some_iff.mp found
        obtain rfl := optionValue?_eq_some_iff.mp has_value
        have arguments_eq : arguments =
            earlier.reverse ++ (name ++ "=" ++ value) :: later.reverse := by
          simpa using congrArg List.reverse split
        rw [arguments_eq]
        refine .given fun other member => ?_
        exact optionValue?_eq_none_iff.mp (none_later other (List.mem_reverse.mp member))

end Options

/-! ## First failures -/

section Failing

variable {α β : Type} {fails : α → Failure → Prop} {work : α → Except Failure β}
variable {item : α} {items : List α} {results : List β} {failure : Failure}

section Total

variable {result : Except Failure β} {failing : Failure → Prop} {done : β → Prop} {value : β}

end Total

end Failing

/-! ## What the arguments ask for -/

variable {argument text : String} {arguments paths : List String} {failure : Failure}
variable {window : Option Window}

namespace LexArgument

/-- What is wrong with an argument. -/
inductive Wrong : String → Failure → Prop
  /-- The value of the option is no window. -/
  | window {text : String} : Window.ofText? text = none →
      Wrong ("--range" ++ "=" ++ text) (.malformedWindow text)
  /-- There is no other option. -/
  | option {argument : String} : argument.toList.head? = some '-' → ¬IsOption "--range" argument →
      Wrong argument (.unknownOption argument)

variable {meaning : LexArgument}

end LexArgument

/-- No argument is wrong.  Together they ask for the window of the last `--range` option and for the
files that the others name, in order. -/
structure Asks (arguments : List String) (window : Option Window) (paths : List String) : Prop where
  /-- No argument is wrong. -/
  right : ∀ argument ∈ arguments, ∀ failure, ¬LexArgument.Wrong argument failure
  /-- The window is that of the last option. -/
  window : ∃ text, LastValue "--range" arguments text ∧ text.bind Window.ofText? = window
  /-- What is no option is a path. -/
  paths : arguments.filter (¬IsOption "--range" ·) = paths

theorem Asks.unique {other : Option Window} {others : List String}
    (asks : Asks arguments window paths) (also : Asks arguments other others) :
    window = other ∧ paths = others := by
  obtain ⟨text, last, rfl⟩ := asks.window
  obtain ⟨same, also_last, rfl⟩ := also.window
  obtain rfl := (lastValue_iff.mp last).symm.trans (lastValue_iff.mp also_last)
  exact ⟨rfl, asks.paths.symm.trans also.paths⟩

end CommandLine
end ConfigLexer
