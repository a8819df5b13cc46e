set_option autoImplicit false

/-! # Code points

A document may write a character beyond the first 65536 as a pair of 16-bit units, U+D800 to U+DBFF
and U+DC00 to U+DFFF. One half of a pair without the other is no character, but a document may state
it all the same. So a text is a row of code points, some of which are unpaired halves, and it is kept
as a row of characters:

* a half is kept as the private-use character U+100000 and its number (`ofHalf`);
* the characters that halves are kept as, U+10D800 to U+10DFFF, and U+10E000 are reserved: each of them
  is kept as U+10E000 (`mark`) in front of the private-use character that comes 0x801 later;
* every other character is kept as it is.

`kept` is what a code point is kept as, and `points` are the code points of a text. Halves and reserved
characters are no letters, digits, blanks or separators, and neither is what they are kept as, so that
texts are cut, compared and folded character by character.

Halves cannot be encoded: no file holds one, and a text with a half cannot be written to a file.
-/

namespace Questbook.Text

/-! ## Halves -/

/-- Whether a 16-bit unit is half of a pair. -/
def isHalfUnit (n : Nat) : Bool := 0xD800 ≤ n && n < 0xE000

/-- What halves are added to. -/
def halfBase : Nat := 0x100000

/-- The character that a half is kept as. -/
def ofHalf (n : Nat) : Char := Char.ofNat (halfBase + n)

/-- **The half that a character is kept for,** if it is kept for one. -/
def half? (c : Char) : Option Nat :=
  if 0x10D800 ≤ c.toNat ∧ c.toNat < 0x10E000 then some (c.toNat - halfBase) else none

/-- Whether a half stands for a byte of a name that is not UTF-8. Names of files may hold these. -/
def isByteHalf (n : Nat) : Bool := 0xDC80 ≤ n && n < 0xDD00

/-- Whether a text can be the name of a file as far as its halves are concerned. -/
def isEncodableName (s : String) : Bool :=
  s.toList.all fun c => (half? c).all isByteHalf

/-! ## Code points -/

/-- Whether a code point is one of the reserved characters. -/
def isReserved (n : Nat) : Bool := 0x10D800 ≤ n && n ≤ 0x10E000

/-- What stands in front of a character that is kept for a reserved one. -/
def mark : Char := Char.ofNat 0x10E000

/-- How much later the character comes that is kept for a reserved one. -/
def markShift : Nat := 0x801

/-- The reserved character that a character is kept for, if a mark stands in front of it. -/
def marked? (c : Char) : Option Nat :=
  if isReserved (c.toNat - markShift) then some (c.toNat - markShift) else none

/-- The number of a mark that marks nothing. It is beyond all code points. -/
def looseMark : Nat := 0x110000

/-- **What a code point is kept as.** -/
def kept (n : Nat) : List Char :=
  if isReserved n then [mark, Char.ofNat (n + markShift)]
  else if isHalfUnit n then [ofHalf n]
  else if n = looseMark then [mark]
  else [Char.ofNat n]

/-- The code point of a character that is not marked. -/
def pointOf (c : Char) : Nat :=
  if c = mark then looseMark else (half? c).getD c.toNat

/-- **The code points of a text.** -/
def points : List Char → List Nat
  | [] => []
  | [c] => [pointOf c]
  | c :: d :: cs =>
    match if c = mark then marked? d else none with
    | some n => n :: points cs
    | none => pointOf c :: points (d :: cs)

/-- The number of code points of a text. -/
def size (s : String) : Nat := (points s.toList).length

/-- The text of a row of code points. -/
def ofPoints (ns : List Nat) : String := String.ofList (ns.flatMap kept)

/-- The text that a row of characters is kept as. -/
def ofCharacters (s : String) : String := ofPoints (s.toList.map Char.toNat)

/-- The characters of a text without halves. -/
def characters (s : String) : String := String.ofList ((points s.toList).map Char.ofNat)

/-- Whether a code point is that of a character. -/
def isScalar (n : Nat) : Bool := n < 0x110000 && !isHalfUnit n

/-- Whether a text holds an unpaired half, or a mark that marks nothing. -/
def hasHalf (s : String) : Bool := !(points s.toList).all isScalar

end Questbook.Text
