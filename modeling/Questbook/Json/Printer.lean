import Questbook.Json.Basic

set_option autoImplicit false

/-! # Writing JSON

`Json.render` writes a value with one item or field to a line, each level indented by two blanks;
empty lists and objects stay on their line. In texts only the quote, the backslash and the control
characters below the space are escaped, and unpaired halves. `Json.renderLine` writes the same on a
single line.

Not every value can be written to a file: a whole number may have too many digits, and an unpaired
half cannot be encoded. `stoppedAt?` says what has been written when such a value is met, and is
`none` if there is none.
-/

namespace Questbook.Json

/-- What stands between the parts of a list or an object, given the depth of what follows. -/
abbrev Gap := Nat → List Char

/-- A new line, indented by two blanks for each level. -/
def lineGap : Gap := fun depth => '\n' :: List.replicate (2 * depth) ' '

/-- **How lists and objects are laid out:** the gap inside the brackets, and the gap after a
comma. -/
structure Layout where
  inside : Gap
  between : Gap

/-- One part to a line. -/
def lines : Layout := ⟨lineGap, lineGap⟩

/-- All parts on one line, with a blank after each comma. -/
def oneLine : Layout := ⟨fun _ => [], fun _ => [' ']⟩

/-- A character inside a written text. -/
def writtenChar (c : Char) : List Char :=
  if c = '"' then ['\\', '"']
  else if c = '\\' then ['\\', '\\']
  else if c = '\n' then ['\\', 'n']
  else if c = '\r' then ['\\', 'r']
  else if c = '\t' then ['\\', 't']
  else if c = '\x08' then ['\\', 'b']
  else if c = '\x0c' then ['\\', 'f']
  else if c.toNat < 0x20 then '\\' :: 'u' :: Text.hexDigits 4 c.toNat
  else [c]

/-- A code point inside a written text. -/
def writtenPoint (n : Nat) : List Char :=
  if Text.isHalfUnit n then '\\' :: 'u' :: Text.hexDigits 4 n else writtenChar (Char.ofNat n)

/-- A text in its written form. -/
def writtenText (s : String) : List Char :=
  '"' :: (Text.points s.toList).flatMap writtenPoint ++ ['"']

/-- The written form of a value without parts. -/
def writtenAtom : Json → List Char
  | .null => "null".toList
  | .bool b => (if b then "true" else "false").toList
  | .int n => (toString n).toList
  | .float x => (Binary64.floatText Binary64.documentSpelling x).toList
  | .str s => writtenText s
  | .arr _ => "[]".toList
  | .obj _ => "\x7b\x7d".toList

mutual

/-- The written form of a value at a depth. -/
def written (style : Layout) (depth : Nat) : Json → List Char
  | .arr (x :: xs) =>
    '[' :: style.inside (depth + 1) ++ written style (depth + 1) x ++
      writtenItems style (depth + 1) xs ++ style.inside depth ++ [']']
  | .obj (f :: fs) =>
    '{' :: style.inside (depth + 1) ++ writtenText f.1 ++
      ':' :: ' ' :: written style (depth + 1) f.2 ++
      writtenFields style (depth + 1) fs ++ style.inside depth ++ ['}']
  | j => writtenAtom j

/-- The written forms of the further items of a list, each after a comma. -/
def writtenItems (style : Layout) (depth : Nat) : List Json → List Char
  | [] => []
  | x :: xs => ',' :: style.between depth ++ written style depth x ++ writtenItems style depth xs

/-- The written forms of the further fields of an object, each after a comma. -/
def writtenFields (style : Layout) (depth : Nat) : List (String × Json) → List Char
  | [] => []
  | f :: fs =>
    ',' :: style.between depth ++ writtenText f.1 ++ ':' :: ' ' :: written style depth f.2 ++
      writtenFields style depth fs

end

/-- **The text of a document.** -/
def render (j : Json) : String :=
  String.ofList (written lines 0 j)

/-- The text of a value on one line. -/
def renderLine (j : Json) : String :=
  String.ofList (written oneLine 0 j)

/-! ## What cannot be written -/

/-- Why a value without parts cannot be written to a file, if it cannot. -/
def hindrance? : Json → Option Fault
  | .int n => if Numeral.writeLimit ≤ n.natAbs then some .longNumeral else none
  | .str s => if Text.hasHalf s then some .unencodable else none
  | _ => none

mutual

/-- What has been written when something is met that cannot be written, and the fault that it is. -/
def stoppedAt? (style : Layout) (depth : Nat) : Json → Option (List Char × Fault)
  | .arr (x :: xs) => stoppedInItems? style (depth + 1) ('[' :: style.inside (depth + 1)) (x :: xs)
  | .obj (f :: fs) => stoppedInFields? style (depth + 1) ('{' :: style.inside (depth + 1)) (f :: fs)
  | j => (hindrance? j).map fun f => ([], f)

/-- The same for items, the first of which follows `lead`. The lead is written together with an item
without parts, and ahead of any other. -/
def stoppedInItems? (style : Layout) (depth : Nat) (lead : List Char) :
    List Json → Option (List Char × Fault)
  | [] => none
  | x :: xs =>
    match stoppedAt? style depth x with
    | some (t, f) => some (if (hindrance? x).isSome then t else lead ++ t, f)
    | none =>
      (stoppedInItems? style depth (',' :: style.between depth) xs).map
        fun (t, f) => (lead ++ written style depth x ++ t, f)

/-- The same for fields, the first of which follows `lead`. -/
def stoppedInFields? (style : Layout) (depth : Nat) (lead : List Char) :
    List (String × Json) → Option (List Char × Fault)
  | [] => none
  | (name, x) :: fs =>
    match hindrance? (.str name) with
    | some f => some (lead, f)
    | none =>
      match stoppedAt? style depth x with
      | some (t, f) => some (lead ++ writtenText name ++ ':' :: ' ' :: t, f)
      | none =>
        (stoppedInFields? style depth (',' :: style.between depth) fs).map
          fun (t, f) => (lead ++ writtenText name ++ ':' :: ' ' :: written style depth x ++ t, f)

end

end Questbook.Json
