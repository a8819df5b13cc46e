import Questbook.Number.Basic
import Questbook.Proofs.Token.Numeral

set_option autoImplicit false

/-! # How large a float is

A finite float that a quotient is rounded to has a significand of at most `2 ^ 54` and an exponent of at
most 971 (`ofRatio_isBounded`), and so has one that decimals are rounded to. The whole number next to it
has far fewer digits than a numeral may have (`IsBounded.natAbs_lt`).
-/

namespace Questbook.Binary64

/-- **Whether a float is not too large:** the bounds of a finite one. -/
def IsBounded (x : Binary64) : Prop :=
  ∀ s m e, x = .finite s m e → m ≤ twoTo 54 ∧ e ≤ maxExponent

theorem isBounded_zero (negative : Bool) : (zero negative).IsBounded := by
  intro s m e h
  cases h
  exact ⟨Nat.zero_le _, by decide⟩

theorem isBounded_infinite (negative : Bool) : (infinite negative).IsBounded := nofun

theorem divNearestEven_le (num den : Nat) : divNearestEven num den ≤ num / den + 1 := by
  unfold divNearestEven
  dsimp only
  split
  · omega
  · split
    · have := Nat.mod_lt (num / den) (by decide : 0 < 2)
      omega
    · omega

/-- The exponent is at most one below the difference of the lengths, less 52. -/
theorem log2_sub_le_exponentFor (num den : Nat) :
    (num.log2 : Int) - den.log2 ≤ exponentFor num den + 53 := by
  unfold exponentFor
  dsimp only
  split <;> omega

/-- A quotient that is scaled down by its length is short. -/
theorem scaleDown_div_lt {num den : Nat} (hden : den ≠ 0) {e : Int}
    (h : (num.log2 : Int) - den.log2 ≤ e + 53) :
    (scaleDown num den e).1 / (scaleDown num den e).2 < twoTo 54 := by
  have hnum : num < 2 ^ (num.log2 + 1) := Nat.lt_log2_self
  have hpower : 2 ^ den.log2 ≤ den := Nat.log2_self_le hden
  unfold scaleDown
  by_cases he : 0 ≤ e
  · rw [if_pos he]
    refine Nat.div_lt_of_lt_mul ?_
    calc num < 2 ^ (num.log2 + 1) := hnum
      _ ≤ 2 ^ (den.log2 + e.toNat + 54) := Nat.pow_le_pow_right (by decide) (by omega)
      _ = 2 ^ den.log2 * 2 ^ e.toNat * 2 ^ 54 := by rw [Nat.pow_add, Nat.pow_add]
      _ ≤ den * 2 ^ e.toNat * 2 ^ 54 := Nat.mul_le_mul_right _ (Nat.mul_le_mul_right _ hpower)
  · rw [if_neg he]
    refine Nat.div_lt_of_lt_mul ?_
    calc num * 2 ^ (-e).toNat
        < 2 ^ (num.log2 + 1) * 2 ^ (-e).toNat := Nat.mul_lt_mul_of_pos_right hnum (Nat.two_pow_pos _)
      _ = 2 ^ (num.log2 + 1 + (-e).toNat) := (Nat.pow_add _ _ _).symm
      _ ≤ 2 ^ (den.log2 + 54) := Nat.pow_le_pow_right (by decide) (by omega)
      _ = 2 ^ den.log2 * 2 ^ 54 := Nat.pow_add _ _ _
      _ ≤ den * 2 ^ 54 := Nat.mul_le_mul_right _ hpower

/-- **A quotient is rounded to a float that is not too large.** -/
theorem ofRatio_isBounded (negative : Bool) {num den : Nat} (hden : den ≠ 0) :
    (ofRatio negative num den).IsBounded := by
  unfold ofRatio
  split
  · exact isBounded_zero negative
  dsimp only
  have hquotient := scaleDown_div_lt hden (log2_sub_le_exponentFor num den)
  have hrounded := divNearestEven_le (scaleDown num den (exponentFor num den)).1
    (scaleDown num den (exponentFor num den)).2
  intro s m e h
  -- the significand may be carried over to a smaller power of two
  split at h
  · split at h
    · cases h
    · next hexponent =>
      cases h
      exact ⟨Nat.pow_le_pow_right (by decide) (by decide : 52 ≤ 54), Int.not_lt.mp hexponent⟩
  · split at h
    · cases h
    · next hexponent =>
      cases h
      exact ⟨by omega, Int.not_lt.mp hexponent⟩

theorem ofDecimal_isBounded (negative : Bool) (digits : Nat) (power : Int) :
    (ofDecimal negative digits power).IsBounded := by
  have hten : ∀ k, tenTo k ≠ 0 := fun k => Nat.ne_of_gt (Nat.pow_pos (by decide))
  unfold ofDecimal
  split
  · exact isBounded_zero negative
  split
  · exact isBounded_infinite negative
  split
  · exact isBounded_zero negative
  split
  · exact ofRatio_isBounded negative (by decide)
  · exact ofRatio_isBounded negative (hten _)

/-- **The whole number next to a float that is not too large** can be written. -/
theorem IsBounded.natAbs_lt {x : Binary64} (h : x.IsBounded) {n : Int}
    (hn : (Number.real x).truncate = .ok n) : n.natAbs < Numeral.writeLimit := by
  cases x with
  | nan => cases hn
  | infinite s => cases hn
  | finite s m e =>
      cases hn
      obtain ⟨hm, he⟩ := h s m e rfl
      have hmagnitude : (if 0 ≤ e then m * twoTo e.toNat else m / twoTo (-e).toNat) ≤
          2 ^ (54 + e.toNat) := by
        rw [Nat.pow_add]
        split
        · exact Nat.mul_le_mul_right (2 ^ e.toNat) hm
        · calc m / twoTo (-e).toNat ≤ m := Nat.div_le_self _ _
            _ ≤ 2 ^ 54 := hm
            _ ≤ 2 ^ 54 * 2 ^ e.toNat := Nat.le_mul_of_pos_right _ (Nat.two_pow_pos _)
      have hlimit : 2 ^ (54 + e.toNat) < Numeral.writeLimit := by
        have hdigits : 54 + e.toNat ≤ Numeral.maxDigits := by
          unfold maxExponent at he
          unfold Numeral.maxDigits
          omega
        have hsome : Numeral.maxDigits ≠ 0 := by decide
        unfold Numeral.writeLimit
        generalize Numeral.maxDigits = k at hdigits hsome ⊢
        calc 2 ^ (54 + e.toNat) ≤ 2 ^ k := Nat.pow_le_pow_right (by decide) hdigits
          _ < 10 ^ k := Nat.pow_lt_pow_left (by decide) hsome
      show (Numeral.signed s _).natAbs < Numeral.writeLimit
      rw [Numeral.natAbs_signed]
      exact Nat.lt_of_le_of_lt hmagnitude hlimit

end Questbook.Binary64
