import ConfigLexer.Json.Skip

/-!
# Reading typed JSON values

A record is read from an object, whose members may stand in any order and be left out, or from a
list of its fields in order, which may be cut short.  Members without a field are read over.
-/

namespace ConfigLexer
namespace Json

/-- The fault of a value of another type than the one that is wanted.  Scalars are read first, and
their own faults come before this one. -/
def mismatch (wanted : String) (text : List Char) : Fault :=
  let scalar (reading : Reading (Found × List Char)) : Fault :=
    match reading with
    | .ok (found, rest) => .here (.wrongType found wanted) rest
    | .error fault => fault
  match text with
  | [] => .next .endInValue []
  | c :: rest =>
      if c = 'n' then scalar ((readLiteral ['u', 'l', 'l'] rest).map (.null, ·))
      else if c = 't' then scalar ((readLiteral ['r', 'u', 'e'] rest).map (.boolean true, ·))
      else if c = 'f' then scalar ((readLiteral ['a', 'l', 's', 'e'] rest).map (.boolean false, ·))
      else if c = '-' ∨ isDigit c then scalar (readNumber text)
      else if c = '"' then
        scalar ((readString rest).map fun read => (.string (String.ofList read.1), read.2))
      else if c = '[' then .here (.wrongType .sequence wanted) text
      else if c = '\x7b' then .here (.wrongType .map wanted) text
      else .next .noValue text

/-- Read a truth value. -/
def readBool (text : List Char) : Reading (Bool × List Char) :=
  match skipSpaces text with
  | 't' :: rest => (readLiteral ['r', 'u', 'e'] rest).map (true, ·)
  | 'f' :: rest => (readLiteral ['a', 'l', 's', 'e'] rest).map (false, ·)
  | rest => .error (mismatch "a boolean" rest)

/-- Read a string. -/
def readText (text : List Char) : Reading (String × List Char) :=
  match skipSpaces text with
  | '"' :: rest => (readString rest).map fun read => (String.ofList read.1, read.2)
  | rest => .error (mismatch "a string" rest)

/-- Read over the comma before an element that is not the first, and see that an element follows.
The answer is `none` if the list ends instead. -/
def readListStep (isFirst : Bool) (text : List Char) : Reading (Option (List Char)) :=
  match skipSpaces text with
  | [] => .error (.next .endInList [])
  | ']' :: _ => .ok none
  | c :: rest =>
      if isFirst then .ok (some (c :: rest))
      else if c = ',' then
        match skipSpaces rest with
        | [] => .error (.next .endInValue [])
        | ']' :: after => .error (.next .trailingComma (']' :: after))
        | after => .ok (some after)
      else .error (.next .noListEnd (c :: rest))

/-- Read over the bracket that ends a list. -/
def readListEnd (text : List Char) : Reading (List Char) :=
  match skipSpaces text with
  | [] => .error (.next .endInList [])
  | ']' :: rest => .ok rest
  | ',' :: rest =>
      match skipSpaces rest with
      | ']' :: after => .error (.next .trailingComma (']' :: after))
      | after => .error (.next .trailingCharacters after)
  | rest => .error (.next .trailingCharacters rest)

/-- Read strings up to the bracket that ends their list, at most a given number of them. -/
def readTextsUpTo : Nat → Bool → List Char → Reading (List String × List Char)
  | 0, _, text => .error (.here .endInList text)
  | count + 1, isFirst, text =>
      match readListStep isFirst text with
      | .error fault => .error fault
      | .ok none => (readListEnd text).map ([], ·)
      | .ok (some element) => do
          let (value, after) ← readText element
          let (values, rest) ← readTextsUpTo count false after
          .ok (value :: values, rest)

/-- Read a list of strings. -/
def readTexts (text : List Char) : Reading (List String × List Char) :=
  match skipSpaces text with
  | '[' :: rest => readTextsUpTo (rest.length + 1) true rest
  | rest => .error (mismatch "a sequence" rest)

/-- A field of a record. -/
structure RecordField (Record : Type) where
  /-- The key of the member that holds the field. -/
  name : String
  /-- Read the field's value into a record. -/
  read : Record → List Char → Reading (Record × List Char)

/-- Read the key of a member, if there is one more.  The answer is `none` after the closing
brace. -/
def readKey (isFirst : Bool) (text : List Char) : Reading (Option (List Char) × List Char) :=
  let key (text : List Char) : Reading (Option (List Char) × List Char) :=
    match text with
    | '"' :: rest => (readString rest).map fun read => (some read.1, read.2)
    | rest => .error (.next .keyNotString rest)
  match skipSpaces text with
  | [] => .error (.next .endInObject [])
  | c :: rest =>
      if c = '\x7d' then .ok (none, rest)
      else if isFirst then key (c :: rest)
      else if c = ',' then
        match skipSpaces rest with
        | [] => .error (.next .endInValue [])
        | d :: after =>
            if d = '\x7d' then .error (.next .trailingComma (d :: after)) else key (d :: after)
      else .error (.next .noObjectEnd (c :: rest))

/-- What is left after blanks, and after the closing brace if it comes next. -/
def skipObjectEnd (text : List Char) : List Char :=
  match skipSpaces text with
  | [] => []
  | c :: rest => if c = '\x7d' then rest else c :: rest

/-- Read the colon and value of a member into a record.  A field `seen` before is a fault, reported
where the object ends if the key ends it. -/
def readMember {Record : Type} (fields : List (RecordField Record)) (seen : List String)
    (record : Record) (key : String) (text : List Char) :
    Reading (List String × Record × List Char) :=
  match fields.find? fun field => field.name == key with
  | some field =>
      if seen.contains key then .error (.here (.duplicateField key) (skipObjectEnd text))
      else do
        let value ← readColon text
        let (changed, rest) ← field.read record value
        .ok (key :: seen, changed, rest)
  | none => do
      let value ← readColon text
      let rest ← skipValue value
      .ok (seen, record, rest)

/-- Read members into a record up to the closing brace, at most a given number of them. -/
def readMembersUpTo {Record : Type} (fields : List (RecordField Record)) :
    Nat → Bool → List String → Record → List Char → Reading (Record × List Char)
  | 0, _, _, _, text => .error (.here .endInObject text)
  | count + 1, isFirst, seen, record, text =>
      match readKey isFirst text with
      | .error fault => .error fault
      | .ok (none, rest) => .ok (record, rest)
      | .ok (some key, rest) =>
          match readMember fields seen record (String.ofList key) rest with
          | .error fault => .error fault
          | .ok (seen, record, rest) => readMembersUpTo fields count false seen record rest

/-- Read the elements of a list into the fields of a record, in order. -/
def readElements {Record : Type} :
    List (RecordField Record) → Bool → Record → List Char → Reading (Record × List Char)
  | [], _, record, text => (readListEnd text).map (record, ·)
  | field :: fields, isFirst, record, text =>
      match readListStep isFirst text with
      | .error fault => .error fault
      | .ok none => (readListEnd text).map (record, ·)
      | .ok (some element) => do
          let (changed, rest) ← field.read record element
          readElements fields false changed rest

/-- Read a record.  What the text leaves out is as in the initial record. -/
def readRecord {Record : Type} (wanted : String) (fields : List (RecordField Record))
    (initial : Record) (text : List Char) : Reading (Record × List Char) :=
  match skipSpaces text with
  | [] => .error (.next .endInValue [])
  | c :: rest =>
      if c = '\x7b' then readMembersUpTo fields (rest.length + 1) true [] initial rest
      else if c = '[' then readElements fields true initial rest
      else .error (mismatch wanted (c :: rest))

/-- Read the name of one of the variants of a type. -/
def readVariantName {Variant : Type} (variants : List (String × Variant)) (text : List Char) :
    Reading (Variant × List Char) := do
  let (name, rest) ← readString text
  match variants.lookup (String.ofList name) with
  | some variant => .ok (variant, rest)
  | none =>
      .error (.here (.unknownVariant (String.ofList name) (variants.map Prod.fst)) rest)

/-- Read the empty content of a variant. -/
def readUnit (text : List Char) : Reading (List Char) :=
  match skipSpaces text with
  | 'n' :: rest => readLiteral ['u', 'l', 'l'] rest
  | rest => .error (mismatch "unit" rest)

/-- Read one of the variants of a type, from its name or from an object with its name as the only
key and `null` as the value. -/
def readVariant {Variant : Type} (variants : List (String × Variant)) (text : List Char) :
    Reading (Variant × List Char) :=
  match skipSpaces text with
  | [] => .error (.next .endInValue [])
  | c :: rest =>
      if c = '"' then readVariantName variants rest
      else if c = '\x7b' then
        match skipSpaces rest with
        | [] => .error (.next .endInObject [])
        | d :: inside =>
            if d = '"' then do
              let (variant, after) ← readVariantName variants inside
              let after ← readUnit (← readColon after)
              match skipSpaces after with
              | [] => .error (.here .endInObject [])
              | e :: after =>
                  if e = '\x7d' then .ok (variant, after)
                  else .error (.here .noValue (e :: after))
            else if d = '\x7d' then .error (.next .noValue (d :: inside))
            else .error (.next .keyNotString (d :: inside))
      else .error (.next .noValue (c :: rest))

/-- Read a text that holds one value and nothing else. -/
def readDocument {Value : Type} (read : List Char → Reading (Value × List Char))
    (text : List Char) : Except Failure Value :=
  match read text with
  | .error fault => .error (fault.locate text)
  | .ok (value, rest) =>
      match skipSpaces rest with
      | [] => .ok value
      | rest => .error ((Fault.next .trailingCharacters rest).locate text)

end Json
end ConfigLexer
