import Questbook.Text.Half

set_option autoImplicit false

/-! # Names of files

The name of a file is a row of bytes. A byte that is not part of a UTF-8 character is kept in the text
of the name as an unpaired half, and a text may hold such halves as well. Several of them in a row may
be the bytes of a character: then the file has this character in its name, and not the halves
(`diskName`).
-/

namespace Questbook.Text

/-- The half that stands for the byte 0, if there were one: only bytes from 128 on have halves. -/
def byteBase : Nat := 0xDC00

/-- The byte that a character is kept for, if it is kept for one. -/
def byte? (c : Char) : Option Nat :=
  ((half? c).filter isByteHalf).map fun n => n - byteBase

/-- The six bits of a byte that goes on with a character. -/
def furtherBits? (c : Char) : Option Nat :=
  ((byte? c).filter fun b => b < 0xC0).map fun b => b - 0x80

/-- Takes the bits of a number of bytes. -/
def takeBits? : (count : Nat) → (bits : Nat) → List Char → Option Nat
  | 0, bits, _ => some bits
  | _ + 1, _, [] => none
  | count + 1, bits, c :: cs =>
    match furtherBits? c with
    | some more => takeBits? count (bits * 64 + more) cs
    | none => none

/-- What a first byte tells of a character: the number of further bytes, its own bits, and the least
code point that is written with so many bytes. -/
def leadingByte? (b : Nat) : Option (Nat × Nat × Nat) :=
  if b < 0xC0 then none
  else if b < 0xE0 then some (1, b - 0xC0, 0x80)
  else if b < 0xF0 then some (2, b - 0xE0, 0x800)
  else if b < 0xF8 then some (3, b - 0xF0, 0x10000)
  else none

/-- **The character that halves in front of a text spell,** by its code point, and the number of halves
after the first one. -/
def spelled? : List Char → Option (Nat × Nat)
  | [] => none
  | c :: cs =>
    match (byte? c).bind leadingByte? with
    | none => none
    | some (count, bits, least) =>
      match takeBits? count bits cs with
      | none => none
      | some n => if least ≤ n ∧ isScalar n = true then some (n, count) else none

/-- A text with the characters that halves in it spell, after skipping some of its characters. -/
def joinHalves (skip : Nat) : List Char → List Char
  | [] => []
  | c :: cs =>
    match skip with
    | skip + 1 => joinHalves skip cs
    | 0 =>
      match spelled? (c :: cs) with
      | some (n, count) => kept n ++ joinHalves count cs
      | none => c :: joinHalves 0 cs

/-- **The name that a file gets** when it is given a text as its name. -/
def diskName (s : String) : String :=
  String.ofList (joinHalves 0 s.toList)

/-- Whether a row of numbers does not come after another one: the first difference counts, and a row
comes before the longer ones that begin with it. -/
def rowLe : List Nat → List Nat → Bool
  | [], _ => true
  | _ :: _, [] => false
  | a :: as, b :: bs => a < b || a == b && rowLe as bs

/-- Whether a name does not come after another one. -/
def nameLe (a b : String) : Bool :=
  rowLe (points a.toList) (points b.toList)

end Questbook.Text
