import Questbook.Number.Numeral
import Questbook.Number.Shortest

set_option autoImplicit false

/-! # Numbers of game data

A `Number` is a whole number of any size or a floating-point number. Sums and differences of whole
numbers are exact; as soon as a float takes part, the other operand is turned into a float first.
Comparisons are exact in every combination. A float that is not a number compares with nothing.
-/

namespace Questbook

/-- **A number of game data.** -/
inductive Number
  | whole (n : Int)
  | real (x : Binary64)
  deriving DecidableEq, Repr

namespace Number

/-- The float nearest to a whole number, unless the number is too large. -/
def floatOf (n : Int) : Except Fault Binary64 :=
  match Binary64.ofInt? n with
  | some x => .ok x
  | none => .error .tooLargeForFloat

/-- The sum. -/
def add : Number → Number → Except Fault Number
  | whole a, whole b => .ok (whole (a + b))
  | whole a, real y => do pure (real (Binary64.add (← floatOf a) y))
  | real x, whole b => do pure (real (Binary64.add x (← floatOf b)))
  | real x, real y => .ok (real (Binary64.add x y))

/-- The number with the other sign. -/
def neg : Number → Number
  | whole a => whole (-a)
  | real x => real x.neg

/-- The difference. -/
def sub (a b : Number) : Except Fault Number :=
  add a b.neg

/-- How two numbers compare; `none` when one is not a number. -/
def compare? : Number → Number → Option Ordering
  | whole a, whole b => some (compare a b)
  | real x, whole b => x.compareInt? b
  | whole a, real y => (y.compareInt? a).map Ordering.swap
  | real x, real y => x.compare? y

/-- Whether the first number is at most the second. -/
def le (a b : Number) : Bool :=
  match a.compare? b with
  | some .lt | some .eq => true
  | _ => false

/-- Whether the first number is less than the second. -/
def lt (a b : Number) : Bool :=
  a.compare? b = some .lt

/-- Whether the numbers are equal in value. -/
def eqv (a b : Number) : Bool :=
  a.compare? b = some .eq

/-- The number if it is above zero, otherwise the whole number zero. -/
def floorZero (a : Number) : Number :=
  -- what does not compare is not above zero
  if (whole 0).lt a then a else whole 0

/-- Whether the number is zero. -/
def isZero : Number → Bool
  | whole a => a = 0
  | real x => x.isZero

/-- The text of a number in a message. -/
def text : Number → Except Fault String
  | whole a => Numeral.decimalText a
  | real x => .ok (Binary64.floatText Binary64.messageSpelling x)

/-- The text of a whole number with its sign; a float has no such text. -/
def signedText : Number → Except Fault String
  | whole a => Numeral.signedText a
  | real _ => .error .notWhole

/-- The whole number next to a number in the direction of zero. -/
def truncate : Number → Except Fault Int
  | whole a => .ok a
  | real (.finite s m e) => .ok (Binary64.truncate s m e)
  | real (.infinite _) => .error .infinite
  | real .nan => .error .notANumber

@[simp] theorem add_whole (a b : Int) : add (whole a) (whole b) = .ok (whole (a + b)) := rfl

@[simp] theorem sub_whole (a b : Int) : sub (whole a) (whole b) = .ok (whole (a - b)) := rfl

@[simp] theorem le_whole (a b : Int) : le (whole a) (whole b) = decide (a ≤ b) := by
  simp only [le, compare?]
  rcases Int.lt_trichotomy a b with h | h | h
  · have : compare a b = .lt := by simp [compare, compareOfLessAndEq, h]
    simp [this, Int.le_of_lt h]
  · subst h
    simp [compare, compareOfLessAndEq]
  · have : compare a b = .gt := by
      simp [compare, compareOfLessAndEq, Int.not_lt.mpr (Int.le_of_lt h), Int.ne_of_gt h]
    simp [this, h]

@[simp] theorem lt_whole (a b : Int) : lt (whole a) (whole b) = decide (a < b) := by
  simp only [lt, compare?]
  by_cases h : a < b
  · simp [compare, compareOfLessAndEq, h]
  · by_cases h' : a = b <;> simp [compare, compareOfLessAndEq, h, h']

@[simp] theorem floorZero_whole (a : Int) : floorZero (whole a) = whole (max 0 a) := by
  simp only [floorZero, lt_whole]
  by_cases h : 0 < a
  · simp [h, Int.max_eq_right (Int.le_of_lt h)]
  · simp [h, Int.max_eq_left (Int.not_lt.mp h)]

end Number

end Questbook
