import Questbook.Fault
import Questbook.Text.Blank
import Questbook.Text.Decimal

set_option autoImplicit false

/-! # Numerals of whole numbers

Two ways of writing a whole number are read here. A **plain numeral** is an optional sign and ASCII
digits (`parsePlain?`); a **loose numeral** may use the digits of any script and single low lines
between digits (`readLoose`). Blank characters around either are ignored, save that a loose numeral
takes the separators of ASCII for no blanks. Both, and the decimal text that is written
(`decimalText`), are limited to `maxDigits` digits.
-/

namespace Questbook.Numeral

/-- The greatest number of digits a numeral may have. -/
def maxDigits : Nat := 4300

/-- The value of a list of digits, the most significant first. -/
def ofDigits (ds : List Nat) : Nat :=
  ds.foldl (fun n d => n * 10 + d) 0

/-- The sign of a numeral and the text after it. -/
def cutSign : List Char → Bool × List Char
  | '+' :: cs => (false, cs)
  | '-' :: cs => (true, cs)
  | cs => (false, cs)

/-- The whole number with a sign and a magnitude. -/
def signed (negative : Bool) (n : Nat) : Int :=
  if negative then -(n : Int) else n

/-- The values of the characters, if all are ASCII digits and there is one at least. -/
def plainDigits? : List Char → Option (List Nat)
  | [] => none
  | [c] => (Text.asciiDigitValue? c).map fun d => [d]
  | c :: cs => do
    let d ← Text.asciiDigitValue? c
    let ds ← plainDigits? cs
    pure (d :: ds)

/-- The values of the digits of a loose numeral: digits of any script, single low lines between
them. -/
def looseDigits? : List Char → Option (List Nat)
  | [] => none
  | [c] => (Text.digitValue? c).map fun d => [d]
  | c :: '_' :: cs => do
    let d ← Text.digitValue? c
    let ds ← looseDigits? cs
    pure (d :: ds)
  | c :: cs => do
    let d ← Text.digitValue? c
    let ds ← looseDigits? cs
    pure (d :: ds)

/-- The value of digits under a sign, unless they are too many. -/
def valueOf (negative : Bool) (ds : List Nat) : Except Fault Int :=
  if maxDigits < ds.length then .error .longNumeral else .ok (signed negative (ofDigits ds))

/-- **Reads a plain numeral.** A text that is none gives `none`; one with too many digits is a
fault. -/
def parsePlain? (cs : List Char) : Except Fault (Option Int) :=
  let (negative, digits) := cutSign (Text.trimChars cs)
  match plainDigits? digits with
  | none => .ok none
  | some ds => (valueOf negative ds).map some

/-- Whether a character may surround a loose numeral: a blank one that is none of the four
separators of ASCII. -/
def isPadding (c : Char) : Bool :=
  Text.isBlankChar c && !(0x1C ≤ c.toNat && c.toNat ≤ 0x1F)

/-- The text without what may surround a loose numeral. -/
def withoutPadding (cs : List Char) : List Char :=
  ((cs.dropWhile isPadding).reverse.dropWhile isPadding).reverse

/-- **Reads a loose numeral.** -/
def readLoose (cs : List Char) : Except Fault Int :=
  let (negative, digits) := cutSign (withoutPadding cs)
  match looseDigits? digits with
  | none => .error .badNumeral
  | some ds => valueOf negative ds

/-- The least magnitude that has too many digits to be written. -/
def writeLimit : Nat := Nat.pow 10 maxDigits

/-- **The decimal text of a whole number,** unless it is too long. -/
def decimalText (n : Int) : Except Fault String :=
  if n.natAbs < writeLimit then .ok (toString n) else .error .longNumeral

/-- The decimal text of a whole number with its sign written in every case. -/
def signedText (n : Int) : Except Fault String := do
  let text ← decimalText n
  pure (if n < 0 then text else "+" ++ text)

theorem ofDigits_append_singleton (ds : List Nat) (d : Nat) :
    ofDigits (ds ++ [d]) = ofDigits ds * 10 + d := by
  simp [ofDigits]

end Questbook.Numeral
