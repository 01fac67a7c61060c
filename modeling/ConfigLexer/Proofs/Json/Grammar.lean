import ConfigLexer.Json.Skip
import Mathlib.Data.List.ReduceOption

/-!
# The grammar of JSON

Which texts write a value, apart from any reader and printer.  A string may be written in many ways,
spaces may stand around every part, and objects hold members in any order.  Values of which nothing
is known are told by their texts alone.
-/

namespace ConfigLexer
namespace Json

/-- Nothing but characters that may stand between the parts of a text. -/
def Spaces (text : List Char) : Prop := ∀ c ∈ text, isSpace c = true

theorem spaces_nil : Spaces [] := List.forall_mem_nil _

theorem Spaces.append {before after : List Char} (spaces : Spaces before) (others : Spaces after) :
    Spaces (before ++ after) :=
  List.forall_mem_append.mpr ⟨spaces, others⟩

/-! ## Strings -/

/-- A number below sixteen as a hexadecimal digit in either case. -/
inductive HexDigit (value : Nat) : Char → Prop
  | lower : value < 16 → HexDigit value value.digitChar
  | upper : value < 16 → HexDigit value value.digitChar.toUpper

/-- A code unit as four hexadecimal digits. -/
inductive UnitForm (unit : Nat) : List Char → Prop
  | digits {a b c d : Nat} {first second third fourth : Char} :
      HexDigit a first → HexDigit b second → HexDigit c third → HexDigit d fourth →
      unit = 0x1000 * a + 0x100 * b + 0x10 * c + d →
      UnitForm unit [first, second, third, fourth]

/-- The first code unit of a character that takes two. -/
def highUnit (c : Char) : Nat := 0xD800 + (c.toNat - 0x10000) / 0x400

/-- The second code unit of a character that takes two. -/
def lowUnit (c : Char) : Nat := 0xDC00 + (c.toNat - 0x10000) % 0x400

/-- The letters that stand for a character after a backslash. -/
def escapes : List (Char × Char) :=
  [('"', '"'), ('\\', '\\'), ('/', '/'), ('b', '\x08'), ('f', '\x0c'), ('n', '\n'), ('r', '\r'),
    ('t', '\t')]

/-- The ways to write a character in a string: as itself, as a backslash and a letter, or by its
code units. -/
inductive CharForm (c : Char) : List Char → Prop
  | plain : 0x20 ≤ c.toNat → c ≠ '"' → c ≠ '\\' → CharForm c [c]
  | short {letter : Char} : (letter, c) ∈ escapes → CharForm c ['\\', letter]
  | unit {digits : List Char} : UnitForm c.toNat digits → CharForm c ('\\' :: 'u' :: digits)
  | pair {high low : List Char} : 0x10000 ≤ c.toNat → UnitForm (highUnit c) high →
      UnitForm (lowUnit c) low → CharForm c ('\\' :: 'u' :: high ++ '\\' :: 'u' :: low)

/-- The ways to write the characters of a string. -/
inductive CharsForm : List Char → List Char → Prop
  | nil : CharsForm [] []
  | cons {c : Char} {chars form forms : List Char} :
      CharForm c form → CharsForm chars forms → CharsForm (c :: chars) (form ++ forms)

/-- The ways to write a string. -/
inductive TextForm (text : String) : List Char → Prop
  | quoted {forms : List Char} : CharsForm text.toList forms → TextForm text ('"' :: forms ++ ['"'])

/-! ## Numbers -/

/-- One decimal digit or more. -/
def Digits (text : List Char) : Prop := text ≠ [] ∧ ∀ c ∈ text, isDigit c = true

/-- The digits before a point, without needless zeros. -/
inductive IntegerForm : List Char → Prop
  | zero : IntegerForm ['0']
  | digits {first : Char} {others : List Char} : first ≠ '0' → Digits (first :: others) →
      IntegerForm (first :: others)

/-- A point and the digits after it, if there are any. -/
inductive FractionForm : List Char → Prop
  | none : FractionForm []
  | digits {digits : List Char} : Digits digits → FractionForm ('.' :: digits)

/-- An exponent, if there is one. -/
inductive ExponentForm : List Char → Prop
  | none : ExponentForm []
  | digits {mark : Char} {sign digits : List Char} : mark = 'e' ∨ mark = 'E' →
      sign = [] ∨ sign = ['+'] ∨ sign = ['-'] → Digits digits →
      ExponentForm (mark :: sign ++ digits)

/-- The texts that write a number. -/
inductive NumberForm : List Char → Prop
  | parts {sign integer fraction exponent : List Char} : sign = [] ∨ sign = ['-'] →
      IntegerForm integer → FractionForm fraction → ExponentForm exponent →
      NumberForm (sign ++ integer ++ fraction ++ exponent)

/-! ## Values of which nothing is known -/

/-- The bracket that opens a frame. -/
def Frame.opener : Frame → Char
  | list => '['
  | object => '\x7b'

/-- What stands before an element: spaces, and in an object the key of the member as well. -/
inductive KeyForm : Frame → List Char → Prop
  | list {before : List Char} : Spaces before → KeyForm .list before
  | object {key : String} {before quoted after : List Char} : Spaces before → TextForm key quoted →
      Spaces after → KeyForm .object (before ++ quoted ++ after ++ [':'])

/-- The parts of a text that nest in one another. -/
inductive Part where
  /-- A value. -/
  | value
  /-- One element or more of a list or of an object, with the commas between them. -/
  | elements (frame : Frame)

/-- The texts of values, nested to any depth. -/
inductive Form : Part → List Char → Prop
  | literal {word : List Char} :
      word ∈ [['n', 'u', 'l', 'l'], ['t', 'r', 'u', 'e'], ['f', 'a', 'l', 's', 'e']] →
      Form .value word
  | number {numeral : List Char} : NumberForm numeral → Form .value numeral
  | text {text : String} {quoted : List Char} : TextForm text quoted → Form .value quoted
  | empty (frame : Frame) {inside : List Char} : Spaces inside →
      Form .value (frame.opener :: inside ++ [frame.closer])
  | block (frame : Frame) {inside : List Char} : Form (.elements frame) inside →
      Form .value (frame.opener :: inside ++ [frame.closer])
  | last {frame : Frame} {key before value after : List Char} : KeyForm frame key → Spaces before →
      Form .value value → Spaces after → Form (.elements frame) (key ++ before ++ value ++ after)
  | more {frame : Frame} {key before value after others : List Char} : KeyForm frame key →
      Spaces before → Form .value value → Spaces after → Form (.elements frame) others →
      Form (.elements frame) (key ++ before ++ value ++ after ++ ',' :: others)

/-! ## Values of a type -/

/-- The text of a truth value. -/
inductive BoolForm : Bool → List Char → Prop
  | true : BoolForm true ['t', 'r', 'u', 'e']
  | false : BoolForm false ['f', 'a', 'l', 's', 'e']

/-- The ways to write a variant without content: its name, or an object with its name as the only
key and `null` as the value. -/
inductive VariantForm (name : String) : List Char → Prop
  | name {quoted : List Char} : TextForm name quoted → VariantForm name quoted
  | object {quoted before after inside behind : List Char} : Spaces before → TextForm name quoted →
      Spaces after → Spaces inside → Spaces behind →
      VariantForm name ('\x7b' :: before ++ quoted ++ after ++ ':' :: inside ++
        ['n', 'u', 'l', 'l'] ++ behind ++ ['\x7d'])

section Block

variable {Value : Type} (Item : Value → List Char → Prop)

/-- Items with commas between them and spaces around them. -/
inductive ItemsForm : List Value → List Char → Prop
  | last {value : Value} {before form after : List Char} : Spaces before → Item value form →
      Spaces after → ItemsForm [value] (before ++ form ++ after)
  | more {value : Value} {values : List Value} {before form after others : List Char} :
      Spaces before → Item value form → Spaces after → ItemsForm values others →
      ItemsForm (value :: values) (before ++ form ++ after ++ ',' :: others)

/-- Items between brackets. -/
inductive BlockForm (opener closer : Char) : List Value → List Char → Prop
  | empty {inside : List Char} : Spaces inside →
      BlockForm opener closer [] (opener :: inside ++ [closer])
  | items {values : List Value} {inside : List Char} : ItemsForm Item values inside →
      BlockForm opener closer values (opener :: inside ++ [closer])

variable {Item}

theorem ItemsForm.forall_mem {values : List Value} {form : List Char}
    (items : ItemsForm Item values form) : ∀ value ∈ values, ∃ form, Item value form := by
  induction items with
  | last _ item _ => simpa using ⟨_, item⟩
  | more _ item _ _ others_hold => exact List.forall_mem_cons.mpr ⟨⟨_, item⟩, others_hold⟩

end Block

/-- The ways to write a list of strings. -/
def TextsForm (texts : List String) (form : List Char) : Prop :=
  BlockForm TextForm '[' ']' texts form

section Object

variable {Content : Type} (names : List String) (key : Content → String)
  (Holds : Content → List Char → Prop)

/-- A member of an object.  What is known by its key is written as its value.  If the key is not
among the known names the value is any. -/
inductive MemberForm : Option Content → List Char → Prop
  | known {content : Content} {quoted before after value : List Char} :
      TextForm (key content) quoted → Spaces before → Spaces after → Holds content value →
      MemberForm (some content) (quoted ++ before ++ ':' :: after ++ value)
  | unknown {name : String} {quoted before after value : List Char} : name ∉ names →
      TextForm name quoted → Spaces before → Spaces after → Form .value value →
      MemberForm none (quoted ++ before ++ ':' :: after ++ value)

/-- An object that holds some known contents in this order, each key at most once.  Any other
members may stand before them, between them and after them. -/
inductive ObjectForm : List Content → List Char → Prop
  | members {members : List (Option Content)} {form : List Char} :
      BlockForm (MemberForm names key Holds) '\x7b' '\x7d' members form →
      (members.reduceOption.map key).Nodup → ObjectForm members.reduceOption form

variable {names key Holds} {contents : List Content} {form : List Char}

theorem ObjectForm.distinct (object : ObjectForm names key Holds contents form) :
    (contents.map key).Nodup := by
  obtain ⟨-, distinct⟩ := object
  exact distinct

theorem ObjectForm.forall_mem (object : ObjectForm names key Holds contents form) :
    ∀ content ∈ contents, ∃ value, Holds content value := by
  obtain ⟨block, -⟩ := object
  intro content present
  rw [List.reduceOption_mem_iff] at present
  cases block with
  | empty => contradiction
  | items items =>
      obtain ⟨_, member⟩ := items.forall_mem _ present
      cases member with
      | known _ _ _ holds => exact ⟨_, holds⟩

end Object

end Json
end ConfigLexer
