import Questbook.Json.Basic

set_option autoImplicit false

/-! # Values that are the same

Whether two values are the same is found out by going through both (`Json.eq_of_isSame`), so that what a
text states can be checked by reading it.
-/

namespace Questbook.Json

mutual

/-- Whether two values are the same. -/
def isSame : Json → Json → Bool
  | .null, .null => true
  | .bool a, .bool b => a == b
  | .int m, .int n => m == n
  | .float x, .float y => x == y
  | .str s, .str t => s == t
  | .arr xs, .arr ys => areSame xs ys
  | .obj fs, .obj gs => fieldsAreSame fs gs
  | _, _ => false

/-- Whether lists hold the same items. -/
def areSame : List Json → List Json → Bool
  | [], [] => true
  | x :: xs, y :: ys => isSame x y && areSame xs ys
  | _, _ => false

/-- Whether lists hold the same fields, in the same order. -/
def fieldsAreSame : List (String × Json) → List (String × Json) → Bool
  | [], [] => true
  | f :: fs, g :: gs => f.1 == g.1 && isSame f.2 g.2 && fieldsAreSame fs gs
  | _, _ => false

end

mutual

theorem eq_of_isSame : (j k : Json) → isSame j k = true → j = k
  | .null, k => fun h => by cases k <;> simp_all [isSame]
  | .bool _, k => fun h => by cases k <;> simp_all [isSame]
  | .int _, k => fun h => by cases k <;> simp_all [isSame]
  | .float _, k => fun h => by cases k <;> simp_all [isSame]
  | .str _, k => fun h => by cases k <;> simp_all [isSame]
  | .arr xs, k => fun h => by
      cases k with
      | arr ys => exact congrArg Json.arr (eq_of_areSame xs ys h)
      | _ => cases h
  | .obj fs, k => fun h => by
      cases k with
      | obj gs => exact congrArg Json.obj (eq_of_fieldsAreSame fs gs h)
      | _ => cases h

theorem eq_of_areSame : (xs ys : List Json) → areSame xs ys = true → xs = ys
  | [], [] => fun _ => rfl
  | [], _ :: _ => fun h => by cases h
  | _ :: _, [] => fun h => by cases h
  | x :: xs, y :: ys => fun h => by
      have hboth : isSame x y = true ∧ areSame xs ys = true := by simpa [areSame] using h
      rw [eq_of_isSame x y hboth.1, eq_of_areSame xs ys hboth.2]

theorem eq_of_fieldsAreSame : (fs gs : List (String × Json)) → fieldsAreSame fs gs = true → fs = gs
  | [], [] => fun _ => rfl
  | [], _ :: _ => fun h => by cases h
  | _ :: _, [] => fun h => by cases h
  | f :: fs, g :: gs => fun h => by
      have hall : (f.1 = g.1 ∧ isSame f.2 g.2 = true) ∧ fieldsAreSame fs gs = true := by
        simpa [fieldsAreSame] using h
      rw [Prod.ext hall.1.1 (eq_of_isSame f.2 g.2 hall.1.2), eq_of_fieldsAreSame fs gs hall.2]

end

/-- What was read is checked against a value. -/
theorem eq_ok_of_isSame {ε : Type} {r : Except ε Json} {j : Json}
    (h : r.toOption.any (isSame j) = true) : r = .ok j := by
  cases r with
  | error e => cases h
  | ok k => rw [eq_of_isSame j k h]

end Questbook.Json
