set_option autoImplicit false

/-! # Floating-point numbers with exact arithmetic

A `Binary64` is a value of the IEEE 754 format of that name. A finite one is `± significand · 2 ^
exponent` with a significand below `2 ^ 53` and an exponent of at least `-1074`; `ofRatio` produces
the nearest one to a quotient of natural numbers, ties going to the even significand. Sums and
decimal readings are computed exactly and rounded once by it, and comparisons are exact.
-/

namespace Questbook

/-- **A number of the binary64 format.** Zero has a sign. -/
inductive Binary64
  | finite (negative : Bool) (significand : Nat) (exponent : Int)
  | infinite (negative : Bool)
  | nan
  deriving DecidableEq, Repr

namespace Binary64

/-- The least exponent of a finite number. -/
def minExponent : Int := -1074

/-- The greatest exponent of a finite number. -/
def maxExponent : Int := 971

/-- Zero with a sign. -/
def zero (negative : Bool) : Binary64 := .finite negative 0 minExponent

/-- The quotient `num / den` rounded to a whole number, a half going to the even neighbour. -/
def divNearestEven (num den : Nat) : Nat :=
  let q := num / den
  let r := num % den
  if 2 * r < den then q
  else if 2 * r = den then q + q % 2
  else q + 1

/-- A power of two. -/
def twoTo (k : Nat) : Nat := Nat.pow 2 k

/-- A power of ten. -/
def tenTo (k : Nat) : Nat := Nat.pow 10 k

/-- The numerator and denominator of `num / den / 2 ^ e`. -/
def scaleDown (num den : Nat) (e : Int) : Nat × Nat :=
  if 0 ≤ e then (num, den * twoTo e.toNat) else (num * twoTo (-e).toNat, den)

/-- The exponent at which `num / den` has a significand of 53 bits, or the least exponent if that
is greater. -/
def exponentFor (num den : Nat) : Int :=
  let e : Int := (num.log2 : Int) - (den.log2 : Int) - 52
  let (n, d) := scaleDown num den e
  max minExponent (if n / d < twoTo 52 then e - 1 else e)

/-- **The nearest number to `num / den`,** with the given sign. -/
def ofRatio (negative : Bool) (num den : Nat) : Binary64 :=
  if num = 0 then zero negative
  else
    let e := exponentFor num den
    let (n, d) := scaleDown num den e
    let m := divNearestEven n d
    let (m, e) := if m = twoTo 53 then (twoTo 52, e + 1) else (m, e)
    if maxExponent < e then .infinite negative else .finite negative m e

/-- A power of ten that a positive number reaches: `10 ^ tensBelow n ≤ n`. -/
def tensBelow (n : Nat) : Nat := n.log2 * 30102 / 100000

/-- A power of ten that a positive number stays below: `n < 10 ^ tensAbove n`. -/
def tensAbove (n : Nat) : Nat := (n.log2 + 1) * 30103 / 100000 + 1

/-- The nearest number to `digits · 10 ^ power`. Numbers of `10 ^ 310` and more are infinite and
numbers below `10 ^ (-324)` are zero, so powers far outside the range need not be computed. -/
def ofDecimal (negative : Bool) (digits : Nat) (power : Int) : Binary64 :=
  if digits = 0 then zero negative
  else if 310 ≤ tensBelow digits + power then .infinite negative
  else if tensAbove digits + power ≤ -324 then zero negative
  else if 0 ≤ power then ofRatio negative (digits * tenTo power.toNat) 1
  else ofRatio negative digits (tenTo (-power).toNat)

/-- The nearest number to a whole number, or `none` if it is beyond the finite numbers. -/
def ofInt? (n : Int) : Option Binary64 :=
  match ofRatio (n < 0) n.natAbs 1 with
  | .infinite _ => none
  | x => some x

/-- The significand of a finite number with its sign. -/
def signedSignificand (negative : Bool) (m : Nat) : Int :=
  if negative then -(m : Int) else m

/-- The two integers that stand to each other as `a · 2 ^ e` to `b · 2 ^ f`. -/
def align (a : Int) (e : Int) (b : Int) (f : Int) : Int × Int :=
  (a * twoTo (e - min e f).toNat, b * twoTo (f - min e f).toNat)

/-- The number `n · 2 ^ e`, rounded; `negativeZero` is the sign given to zero. -/
def ofScaled (negativeZero : Bool) (n : Int) (e : Int) : Binary64 :=
  if n = 0 then zero negativeZero
  else if 0 ≤ e then ofRatio (n < 0) (n.natAbs * twoTo e.toNat) 1
  else ofRatio (n < 0) n.natAbs (twoTo (-e).toNat)

/-- **The sum,** rounded to the nearest number. -/
def add : Binary64 → Binary64 → Binary64
  | .finite s m e, .finite t n f =>
    let (a, b) := align (signedSignificand s m) e (signedSignificand t n) f
    ofScaled (s && t) (a + b) (min e f)
  | .nan, _ => .nan
  | _, .nan => .nan
  | .infinite s, .infinite t => if s = t then .infinite s else .nan
  | .infinite s, .finite _ _ _ => .infinite s
  | .finite _ _ _, .infinite t => .infinite t

/-- The number with the other sign. -/
def neg : Binary64 → Binary64
  | .finite s m e => .finite (!s) m e
  | .infinite s => .infinite (!s)
  | .nan => .nan

/-- **How two numbers compare;** `none` when one of them is not a number. -/
def compare? : Binary64 → Binary64 → Option Ordering
  | .finite s m e, .finite t n f =>
    let (a, b) := align (signedSignificand s m) e (signedSignificand t n) f
    some (compare a b)
  | .nan, _ => none
  | _, .nan => none
  | .infinite s, .infinite t => some (if s = t then .eq else if s then .lt else .gt)
  | .infinite s, .finite _ _ _ => some (if s then .lt else .gt)
  | .finite _ _ _, .infinite t => some (if t then .gt else .lt)

/-- How a number compares with a whole number. -/
def compareInt? (x : Binary64) (n : Int) : Option Ordering :=
  match x with
  | .finite s m e =>
    let (a, b) := align (signedSignificand s m) e n 0
    some (compare a b)
  | .infinite s => some (if s then .lt else .gt)
  | .nan => none

/-- The whole number next to a finite number in the direction of zero. -/
def truncate (negative : Bool) (m : Nat) (e : Int) : Int :=
  let magnitude := if 0 ≤ e then m * twoTo e.toNat else m / twoTo (-e).toNat
  signedSignificand negative magnitude

/-- Whether the number is zero, of either sign. -/
def isZero : Binary64 → Bool
  | .finite _ m _ => m = 0
  | _ => false

end Binary64

end Questbook
