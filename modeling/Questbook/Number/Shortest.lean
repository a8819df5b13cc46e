import Questbook.Number.Binary64

set_option autoImplicit false

/-! # The shortest decimal of a floating-point number

Of all decimals that read back as a given number, `shortest` finds the one with the fewest digits,
and among those the nearest to the number. For each count of digits only the two neighbours of the
number on the grid of decimals with that many digits need to be looked at: if any decimal of the
grid reads back, so does one of these two. Seventeen digits always suffice.

`floatText` writes the decimal: positional for magnitudes from a ten-thousandth up to below ten to
the sixteenth, otherwise with an exponent of at least two digits.
-/

namespace Questbook.Binary64

/-- A decimal `digits · 10 ^ power`. -/
structure Decimal where
  digits : Nat
  power : Int
  deriving DecidableEq, Repr

/-- A positive number as `value / unit`, with the half-gaps down and up to its neighbours as
`below / unit` and `above / unit`. Both ends read back when `closed`. -/
structure Interval where
  value : Nat
  below : Nat
  above : Nat
  unit : Nat
  closed : Bool

/-- The reals that round to `m · 2 ^ e`, for a positive significand `m`. -/
def intervalOf (m : Nat) (e : Int) : Interval :=
  let lowest := m = twoTo 52 ∧ minExponent < e
  let scale := twoTo e.toNat
  { value := 4 * m * scale
    below := (if lowest then 1 else 2) * scale
    above := 2 * scale
    unit := 4 * twoTo (-e).toNat
    closed := m % 2 = 0 }

/-- Whether `d · num / den` lies in the interval. -/
def Interval.holds (i : Interval) (d num den : Nat) : Bool :=
  let x := d * num * i.unit
  let low := (i.value - i.below) * den
  let high := (i.value + i.above) * den
  if i.closed then low ≤ x && x ≤ high else low < x && x < high

/-- The grid step `10 ^ power` as a quotient. -/
def gridStep (power : Int) : Nat × Nat :=
  if 0 ≤ power then (tenTo power.toNat, 1) else (1, tenTo (-power).toNat)

/-- The decimal of the grid with step `10 ^ power` that reads back and is nearest, if one reads
back. A number halfway between two of them takes the even one. -/
def onGrid? (i : Interval) (power : Int) : Option Nat :=
  let (num, den) := gridStep power
  let d := i.value * den / (i.unit * num)
  let twice := 2 * i.value * den
  let middle := (2 * d + 1) * i.unit * num
  match i.holds d num den, i.holds (d + 1) num den with
  | true, true =>
    some (if twice < middle then d else if middle < twice then d + 1 else d + d % 2)
  | true, false => some d
  | false, true => some (d + 1)
  | false, false => none

/-- The number of decimal digits. -/
def digitCount (n : Nat) : Nat := (Nat.toDigits 10 n).length

/-- The power of ten just above the number: the place of its decimal point counted from the first
digit. -/
def pointPlace (i : Interval) : Int :=
  let q := i.value / i.unit
  if 0 < q then digitCount q
  else
    -- below one: the quotient upside down tells how many zeros follow the point
    let r := (i.unit - 1) / i.value
    1 - digitCount r

/-- The first decimal found on grids of ever more digits, `count` digits being tried next. -/
def firstOnGrid (i : Interval) (place : Int) : (tries count : Nat) → Decimal
  | 0, count => ⟨(onGrid? i (place - count)).getD 0, place - count⟩
  | tries + 1, count =>
    match onGrid? i (place - count) with
    | some d => ⟨d, place - count⟩
    | none => firstOnGrid i place tries (count + 1)

/-- A decimal without zeros at the end of its digits; `fuel` bounds their number. -/
def dropZeros : (fuel : Nat) → Decimal → Decimal
  | 0, x => x
  | fuel + 1, x =>
    if x.digits ≠ 0 ∧ x.digits % 10 = 0 then dropZeros fuel ⟨x.digits / 10, x.power + 1⟩ else x

/-- **The shortest decimal** that reads back as `m · 2 ^ e`, for a positive significand. -/
def shortest (m : Nat) (e : Int) : Decimal :=
  let i := intervalOf m e
  dropZeros 20 (firstOnGrid i (pointPlace i) 17 1)

/-- **How floats are written.** -/
structure Layout where
  /-- Positional below ten to this power. -/
  positionalBelow : Int
  /-- Positional from one tenth to this power of ten upwards. -/
  positionalFrom : Int
  /-- The least number of digits of an exponent. -/
  exponentDigits : Nat

/-- Floats are written positionally from 0.0001 to below 10 ^ 16, and exponents have a sign and two
digits at least. -/
def layout : Layout := ⟨16, -3, 2⟩

/-- The digits of an exponent, filled up with zeros. -/
def paddedExponent (width : Nat) (n : Nat) : List Char :=
  let digits := Nat.toDigits 10 n
  List.replicate (width - digits.length) '0' ++ digits

/-- The text of a decimal with the point at `place` digits from the first. -/
def placed (style : Layout) (digits : List Char) (place : Int) : List Char :=
  if style.positionalFrom ≤ place ∧ place ≤ style.positionalBelow then
    if place ≤ 0 then '0' :: '.' :: List.replicate (-place).toNat '0' ++ digits
    else
      let whole := digits.take place.toNat
      let part := digits.drop place.toNat
      whole ++ List.replicate (place.toNat - digits.length) '0' ++
        '.' :: (if part.isEmpty then ['0'] else part)
  else
    let power := place - 1
    let head := digits.take 1
    let tail := digits.drop 1
    head ++ (if tail.isEmpty then [] else '.' :: tail) ++
      'e' :: (if power < 0 then '-' else '+') :: paddedExponent style.exponentDigits power.natAbs

/-- The text of a finite number without its sign. -/
def magnitudeText (m : Nat) (e : Int) : List Char :=
  if m = 0 then ['0', '.', '0']
  else
    let x := shortest m e
    let digits := Nat.toDigits 10 x.digits
    placed layout digits (x.power + digits.length)

/-- How an infinite number and the one that is no number are spelled. -/
structure Spelling where
  infinity : String
  nan : String

/-- The spelling inside messages. -/
def messageSpelling : Spelling := ⟨"inf", "nan"⟩

/-- The spelling inside documents. -/
def documentSpelling : Spelling := ⟨"Infinity", "NaN"⟩

/-- **The text of a floating-point number.** -/
def floatText (spelling : Spelling) : Binary64 → String
  | .finite s m e => String.ofList ((if s then ['-'] else []) ++ magnitudeText m e)
  | .infinite s => (if s then "-" else "") ++ spelling.infinity
  | .nan => spelling.nan

end Questbook.Binary64
