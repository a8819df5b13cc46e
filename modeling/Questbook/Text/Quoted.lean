import Questbook.Text.Half
import Questbook.Text.Printable

set_option autoImplicit false

/-! # Quoted texts

A text inside a message is quoted: with single quotes, or with double quotes when the text holds
a single quote and no double quote. The quote in use and the backslash are escaped, as are line
feed, carriage return and tab, and every other character that is not printable is written by its
number in two, four or eight hexadecimal digits. So is an unpaired half.
-/

namespace Questbook.Text

/-- The hexadecimal digit of a number below sixteen. -/
def hexDigit (n : Nat) : Char :=
  if n < 10 then Char.ofNat (48 + n) else Char.ofNat (87 + n)

/-- The last `width` hexadecimal digits of a number. -/
def hexDigits : (width : Nat) → (n : Nat) → List Char
  | 0, _ => []
  | width + 1, n => hexDigits width (n / 16) ++ [hexDigit (n % 16)]

/-- A code point inside a text quoted with `quote`. -/
def quotedPoint (quote : Char) (n : Nat) : List Char :=
  -- for a half this is the character 0, which is not shown as it is either
  let c := Char.ofNat n
  if c = quote ∨ c = '\\' then ['\\', c]
  else if c = '\n' then ['\\', 'n']
  else if c = '\r' then ['\\', 'r']
  else if c = '\t' then ['\\', 't']
  else if isPrintable c then [c]
  else if n < 0x100 then '\\' :: 'x' :: hexDigits 2 n
  else if n < 0x10000 then '\\' :: 'u' :: hexDigits 4 n
  else '\\' :: 'U' :: hexDigits 8 n

/-- The quote used around a text. -/
def quoteFor (cs : List Char) : Char :=
  if cs.contains '\'' && !cs.contains '"' then '"' else '\''

/-- **A text in quotes.** -/
def quoted (cs : List Char) : List Char :=
  let q := quoteFor cs
  q :: (points cs).flatMap (quotedPoint q) ++ [q]

end Questbook.Text
