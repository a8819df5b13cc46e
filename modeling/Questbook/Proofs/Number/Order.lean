import Mathlib.Algebra.Order.Field.Power
import Mathlib.Algebra.Order.Ring.Rat
import Mathlib.Order.Compare
import Mathlib.Order.WithBot
import Questbook.Number.Basic

set_option autoImplicit false

/-! # The order of numbers

A float stands for a fraction or for an infinity, or else is not a number (`Binary64.value?`). Numbers
compare as what they stand for (`Number.compare?_eq`), whole numbers with floats as well. Hence they are
in the order of their values (`Number.le_iff`, `Number.lt_iff`).
-/

namespace Questbook

/-- **The value of a float,** with an infinity at each end. -/
def Binary64.value? : Binary64 → Option (WithBot (WithTop ℚ))
  | .finite s m e => some (((signedSignificand s m : ℚ) * 2 ^ e : ℚ) : WithTop ℚ)
  | .infinite true => some ⊥
  | .infinite false => some ⊤
  | .nan => none

/-- The value of a whole number. -/
def Number.wholeValue (n : Int) : WithBot (WithTop ℚ) := ((n : ℚ) : WithTop ℚ)

/-- **The value of a number.** -/
def Number.value? : Number → Option (WithBot (WithTop ℚ))
  | .whole n => some (wholeValue n)
  | .real x => x.value?

theorem cmp_coe (a b : ℚ) :
    cmp ((a : WithTop ℚ) : WithBot (WithTop ℚ)) ((b : WithTop ℚ) : WithBot (WithTop ℚ)) = cmp a b :=
  (WithBot.coe_strictMono.comp WithTop.coe_strictMono).cmp_map_eq a b

namespace Binary64

/-- Aligned numbers stand to each other as the numbers do. -/
theorem compare_align (a e b f : Int) :
    compare (align a e b f).1 (align a e b f).2 = cmp ((a : ℚ) * 2 ^ e) ((b : ℚ) * 2 ^ f) := by
  have hscaled : ∀ n d : Int, min e f ≤ d →
      ((n * twoTo (d - min e f).toNat : Int) : ℚ) * 2 ^ min e f = (n : ℚ) * 2 ^ d := by
    intro n d hd
    have hpower : ((twoTo (d - min e f).toNat : Int) : ℚ) = 2 ^ (d - min e f) := by
      obtain ⟨k, hk⟩ := Int.eq_ofNat_of_zero_le (Int.sub_nonneg_of_le hd)
      rw [hk, Int.toNat_natCast, zpow_natCast]
      exact Nat.cast_pow 2 k
    rw [Int.cast_mul, hpower, mul_assoc, ← zpow_add₀ two_ne_zero, Int.sub_add_cancel]
  have hmono : StrictMono fun n : Int => (n : ℚ) * 2 ^ min e f := fun _ _ h =>
    mul_lt_mul_of_pos_right (Int.cast_lt.mpr h) (zpow_pos two_pos _)
  rw [← hscaled a e (min_le_left e f), ← hscaled b f (min_le_right e f), ← cmp_eq_compare]
  exact (hmono.cmp_map_eq _ _).symm

/-- **Floats compare as their values.** -/
theorem compare?_eq (x y : Binary64) : x.compare? y = Option.map₂ cmp x.value? y.value? := by
  cases x with
  | nan => cases y <;> rfl
  | infinite s =>
      cases y with
      | nan => cases s <;> rfl
      | infinite t => cases s <;> cases t <;> rfl
      | finite t n f => cases s <;> rfl
  | finite s m e =>
      cases y with
      | nan => rfl
      | infinite t => cases t <;> rfl
      | finite t n f =>
          have hscale := compare_align (signedSignificand s m) e (signedSignificand t n) f
          exact congrArg some (hscale.trans (cmp_coe _ _).symm)

/-- A float compares with a whole number as their values do. -/
theorem compareInt?_eq (x : Binary64) (n : Int) :
    x.compareInt? n = Option.map₂ cmp x.value? (Number.whole n).value? := by
  cases x with
  | nan => rfl
  | infinite s => cases s <;> rfl
  | finite s m e =>
      have hscale := compare_align (signedSignificand s m) e n 0
      rw [zpow_zero, mul_one] at hscale
      exact congrArg some (hscale.trans (cmp_coe _ _).symm)

end Binary64

namespace Number

variable {a b : Number}

/-- **Numbers compare as their values.** -/
theorem compare?_eq (a b : Number) : a.compare? b = Option.map₂ cmp a.value? b.value? := by
  cases a with
  | whole a =>
      cases b with
      | whole b =>
          have hcast : cmp (a : ℚ) (b : ℚ) = cmp a b := Int.cast_strictMono.cmp_map_eq a b
          exact congrArg some (((cmp_coe _ _).trans hcast).trans (cmp_eq_compare a b)).symm
      | real y =>
          show (y.compareInt? a).map Ordering.swap = Option.map₂ cmp (whole a).value? y.value?
          rw [y.compareInt?_eq, Option.map_map₂]
          exact Option.map₂_comm fun x y => cmp_swap x y
  | real x =>
      cases b with
      | whole b => exact x.compareInt?_eq b
      | real y => exact x.compare?_eq y

/-- A number is at most another one if its value is. -/
theorem le_iff : a.le b = true ↔ ∃ x y, a.value? = some x ∧ b.value? = some y ∧ x ≤ y := by
  rw [le, compare?_eq]
  cases a.value? with
  | none =>
      refine iff_of_false Bool.false_ne_true ?_
      rintro ⟨x, y, ha, -⟩
      cases ha
  | some x =>
      cases b.value? with
      | none =>
          refine iff_of_false Bool.false_ne_true ?_
          rintro ⟨x, y, -, hb, -⟩
          cases hb
      | some y =>
          rw [Option.map₂_some_some]
          rcases lt_trichotomy x y with h | h | h
          · rw [h.cmp_eq_lt]
            simp [h.le]
          · rw [h.cmp_eq_eq]
            simp [h.le]
          · rw [h.cmp_eq_gt]
            simp [h.not_ge]

/-- A number is below another one if its value is. -/
theorem lt_iff : a.lt b = true ↔ ∃ x y, a.value? = some x ∧ b.value? = some y ∧ x < y := by
  rw [lt, compare?_eq, decide_eq_true_iff, Option.map₂_eq_some_iff]
  exact exists₂_congr fun x y => and_congr_right fun _ => and_congr_right fun _ => cmp_eq_lt_iff x y

/-! ## Values that are known -/

variable {x y : WithBot (WithTop ℚ)}

theorem le_iff_of_value (ha : a.value? = some x) (hb : b.value? = some y) :
    a.le b = true ↔ x ≤ y := by
  rw [le_iff, ha, hb]
  simp

theorem lt_iff_of_value (ha : a.value? = some x) (hb : b.value? = some y) :
    a.lt b = true ↔ x < y := by
  rw [lt_iff, ha, hb]
  simp

theorem wholeValue_lt_iff {m n : Int} : wholeValue m < wholeValue n ↔ m < n := by
  simp [wholeValue]

theorem wholeValue_le_iff {m n : Int} : wholeValue m ≤ wholeValue n ↔ m ≤ n := by
  simp [wholeValue]

end Number

end Questbook
