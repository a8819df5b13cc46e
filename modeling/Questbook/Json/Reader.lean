import Questbook.Json.Basic

set_option autoImplicit false

/-! # Reading JSON

`Json.read` reads a text that holds one JSON value. Beside the standard it accepts `NaN`,
`Infinity` and `-Infinity`; blanks between the parts are spaces, tabs, line feeds and carriage
returns only. When an object repeats a name, the first place and the last value count. A whole
number with too many digits is reported apart from other mistakes, and of several mistakes the
first in the text counts.

The text that is read consists of characters. The texts in the value may have unpaired halves, which
are written by their numbers (`Text.kept`).

The readers of values work on the rest of the text and carry a bound on their depth; the text's
length bounds it (`Json.read`).
-/

namespace Questbook.Json

/-- Why a text is not read. -/
inductive ReadFault
  | malformed
  | longNumeral
  deriving DecidableEq, Repr

/-- The text after blanks between the parts of a value. -/
def skipGap : List Char → List Char
  | c :: cs => if c = ' ' ∨ c = '\t' ∨ c = '\n' ∨ c = '\r' then skipGap cs else c :: cs
  | [] => []

/-! ## Texts -/

/-- The value of a hexadecimal digit. -/
def hexValue? (c : Char) : Option Nat :=
  let n := c.toNat
  if 48 ≤ n ∧ n ≤ 57 then some (n - 48)
  else if 97 ≤ n ∧ n ≤ 102 then some (n - 87)
  else if 65 ≤ n ∧ n ≤ 70 then some (n - 55)
  else none

/-- The value of four hexadecimal digits. -/
def hexUnit? (a b c d : Char) : Option Nat := do
  let a ← hexValue? a
  let b ← hexValue? b
  let c ← hexValue? c
  let d ← hexValue? d
  pure (((a * 16 + b) * 16 + c) * 16 + d)

/-- The character that an escape of one letter stands for. -/
def escaped? : Char → Option Char
  | '"' => some '"'
  | '\\' => some '\\'
  | '/' => some '/'
  | 'b' => some '\x08'
  | 'f' => some '\x0c'
  | 'n' => some '\n'
  | 'r' => some '\r'
  | 't' => some '\t'
  | _ => none

/-- The code point of a pair of 16-bit units. -/
def pairPoint (high low : Nat) : Nat :=
  0x10000 + (high - 0xD800) * 0x400 + (low - 0xDC00)

/-- The result of a reader with a code point put in front of the text read. -/
def consPoint (n : Nat) (r : Except ReadFault (List Char × List Char)) :
    Except ReadFault (List Char × List Char) :=
  r.map fun p => (Text.kept n ++ p.1, p.2)

/-- Reads a text whose opening quote has been read, up to its closing quote. -/
def readText : List Char → Except ReadFault (List Char × List Char)
  | '"' :: cs => .ok ([], cs)
  | '\\' :: 'u' :: a :: b :: c :: d :: cs =>
    match hexUnit? a b c d with
    | none => .error .malformed
    | some n =>
      match cs with
      | '\\' :: 'u' :: e :: f :: g :: h :: rest =>
        match hexUnit? e f g h with
        | none => .error .malformed
        | some m =>
          -- two halves make one character; otherwise the second is read anew
          if 0xD800 ≤ n ∧ n < 0xDC00 ∧ 0xDC00 ≤ m ∧ m < 0xE000 then
            consPoint (pairPoint n m) (readText rest)
          else
            consPoint n (readText ('\\' :: 'u' :: e :: f :: g :: h :: rest))
      | cs => consPoint n (readText cs)
  | '\\' :: c :: cs =>
    match escaped? c with
    | some e => consPoint e.toNat (readText cs)
    | none => .error .malformed
  | c :: cs =>
    if c.toNat < 0x20 ∨ c = '\\' then .error .malformed else consPoint c.toNat (readText cs)
  | [] => .error .malformed

/-! ## Numbers -/

/-- The values of the digits a text starts with, and the text after them. -/
def spanDigits : List Char → List Nat × List Char
  | [] => ([], [])
  | c :: cs =>
    match Text.asciiDigitValue? c with
    | some d =>
      let r := spanDigits cs
      (d :: r.1, r.2)
    | none => ([], c :: cs)

/-- The digits after a point, if a point and a digit follow. -/
def readFraction (cs : List Char) : List Nat × List Char :=
  match cs with
  | '.' :: rest =>
    match spanDigits rest with
    | ([], _) => ([], cs)
    | r => r
  | _ => ([], cs)

/-- The exponent, if one follows. -/
def readExponent (cs : List Char) : Option Int × List Char :=
  match cs with
  | c :: rest =>
    if c = 'e' ∨ c = 'E' then
      let (negative, digits) := Numeral.cutSign rest
      match spanDigits digits with
      | ([], _) => (none, cs)
      | (ds, r) => (some (Numeral.signed negative (Numeral.ofDigits ds)), r)
    else (none, cs)
  | [] => (none, cs)

/-- The digits before the point: a zero, or digits that do not start with one. -/
def readWholePart (cs : List Char) : List Nat × List Char :=
  match cs with
  | '0' :: rest => ([0], rest)
  | _ => spanDigits cs

/-- The value of a number from its parts. -/
def numberOf (negative : Bool) (whole fraction : List Nat) (exponent : Option Int) :
    Except ReadFault Json :=
  -- a fraction or an exponent makes a float, even of a whole value
  if fraction.isEmpty ∧ exponent.isNone then
    if Numeral.maxDigits < whole.length then .error .longNumeral
    else .ok (.int (Numeral.signed negative (Numeral.ofDigits whole)))
  else
    let power := exponent.getD 0 - fraction.length
    .ok (.float (Binary64.ofDecimal negative (Numeral.ofDigits (whole ++ fraction)) power))

/-- Reads a number. -/
def readNumber (cs : List Char) : Except ReadFault (Json × List Char) :=
  let (negative, body) := match cs with
    | '-' :: rest => (true, rest)
    | _ => (false, cs)
  match readWholePart body with
  | ([], _) => .error .malformed
  | (whole, rest) =>
    let (fraction, rest) := readFraction rest
    let (exponent, rest) := readExponent rest
    (numberOf negative whole fraction exponent).map fun j => (j, rest)

/-! ## Values -/

/-- The fields with a further one, which takes the place of an earlier one of its name. -/
def putField (fs : List (String × Json)) (name : String) (value : Json) : List (String × Json) :=
  match fs with
  | [] => [(name, value)]
  | f :: fs => if f.1 = name then (f.1, value) :: fs else f :: putField fs name value

/-- Fields with each name once: its first place, its last value. -/
def mergeFields (fs : List (String × Json)) : List (String × Json) :=
  fs.foldl (fun acc f => putField acc f.1 f.2) []

mutual

/-- Reads a value at the start of a text. -/
def readValue : Nat → List Char → Except ReadFault (Json × List Char)
  | 0, _ => .error .malformed
  | depth + 1, cs =>
    match cs with
    | '"' :: rest => (readText rest).map fun p => (.str (String.ofList p.1), p.2)
    | '[' :: rest =>
      match skipGap rest with
      | ']' :: rest => .ok (.arr [], rest)
      | rest => (readItems depth rest).map fun p => (.arr p.1, p.2)
    | '{' :: rest =>
      match skipGap rest with
      | '}' :: rest => .ok (.obj [], rest)
      | rest => (readFields depth rest).map fun p => (.obj (mergeFields p.1), p.2)
    | 'n' :: 'u' :: 'l' :: 'l' :: rest => .ok (.null, rest)
    | 't' :: 'r' :: 'u' :: 'e' :: rest => .ok (.bool true, rest)
    | 'f' :: 'a' :: 'l' :: 's' :: 'e' :: rest => .ok (.bool false, rest)
    | 'N' :: 'a' :: 'N' :: rest => .ok (.float .nan, rest)
    | 'I' :: 'n' :: 'f' :: 'i' :: 'n' :: 'i' :: 't' :: 'y' :: rest =>
      .ok (.float (.infinite false), rest)
    | '-' :: 'I' :: 'n' :: 'f' :: 'i' :: 'n' :: 'i' :: 't' :: 'y' :: rest =>
      .ok (.float (.infinite true), rest)
    | _ => readNumber cs

/-- Reads the items of a list, of which there is one at least, and the closing bracket. -/
def readItems : Nat → List Char → Except ReadFault (List Json × List Char)
  | 0, _ => .error .malformed
  | depth + 1, cs =>
    match readValue depth cs with
    | .error e => .error e
    | .ok (x, rest) =>
      match skipGap rest with
      | ',' :: rest => (readItems depth (skipGap rest)).map fun p => (x :: p.1, p.2)
      | ']' :: rest => .ok ([x], rest)
      | _ => .error .malformed

/-- Reads the fields of an object, of which there is one at least, and the closing brace. -/
def readFields : Nat → List Char → Except ReadFault (List (String × Json) × List Char)
  | 0, _ => .error .malformed
  | depth + 1, cs =>
    match cs with
    | '"' :: rest =>
      match readText rest with
      | .error e => .error e
      | .ok (name, rest) =>
        match skipGap rest with
        | ':' :: rest =>
          match readValue depth (skipGap rest) with
          | .error e => .error e
          | .ok (x, rest) =>
            match skipGap rest with
            | ',' :: rest =>
              (readFields depth (skipGap rest)).map fun p =>
                ((String.ofList name, x) :: p.1, p.2)
            | '}' :: rest => .ok ([(String.ofList name, x)], rest)
            | _ => .error .malformed
        | _ => .error .malformed
    | _ => .error .malformed

end

/-- Reads a text that holds one value and blanks around it. -/
def readChars (cs : List Char) : Except ReadFault Json :=
  match readValue (2 * cs.length + 2) (skipGap cs) with
  | .error e => .error e
  | .ok (j, rest) => if (skipGap rest).isEmpty then .ok j else .error .malformed

/-- **Reads a JSON text.** -/
def read (s : String) : Except ReadFault Json :=
  readChars s.toList

/-- Reads a JSON text from its bytes in UTF-8. -/
def readBytes (bytes : ByteArray) : Except ReadFault Json :=
  match String.fromUTF8? bytes with
  | some s => read s
  | none => .error .malformed

end Questbook.Json
