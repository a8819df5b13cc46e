import Questbook.Json.Basic

set_option autoImplicit false

/-! # Comparing and adding values of any kind

Numbers compare by value, texts by their characters, and lists by the first items in which they
differ (`Json.le`). Adding puts texts and lists one after the other (`Json.plus`). Values of two
kinds neither compare nor add, and neither do null and objects.
-/

namespace Questbook.Json

mutual

/-- **Whether a value is at most another one.** -/
def le : Json → Json → Except Fault Bool
  | .str s, .str t => .ok (!(t < s))
  | .arr xs, .arr ys => leItems xs ys
  | x, y =>
    match x.number?, y.number? with
    | some a, some b => .ok (a.le b)
    | _, _ => .error .notComparable

/-- Whether a list is at most another one. Items that are the same on both sides are passed over. -/
def leItems : List Json → List Json → Except Fault Bool
  | [], _ => .ok true
  | _ :: _, [] => .ok false
  | x :: xs, y :: ys => if same x y then leItems xs ys else le x y

end

/-- Whether a value lies between two others. The upper bound counts only above the lower one. -/
def isWithin (j low high : Json) : Except Fault Bool := do
  if ← low.le j then j.le high else pure false

/-- **The sum of two values.** -/
def plus : Json → Json → Except Fault Json
  | .str s, .str t => .ok (.str (s ++ t))
  | .arr xs, .arr ys => .ok (.arr (xs ++ ys))
  | x, y =>
    match x.number?, y.number? with
    | some a, some b => (a.add b).map ofNumber
    | _, _ => .error .notSummable

@[simp] theorem le_int (m n : Int) : le (.int m) (.int n) = .ok (decide (m ≤ n)) := by
  simp [le, number?]

@[simp] theorem plus_int (m n : Int) : plus (.int m) (.int n) = .ok (.int (m + n)) := rfl

end Questbook.Json
