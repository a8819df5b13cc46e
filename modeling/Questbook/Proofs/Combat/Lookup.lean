import Mathlib.Data.List.Basic
import Questbook.Proofs.Combat.Sound
import Questbook.Proofs.Number.Order

set_option autoImplicit false

/-! # Bands by ratio

In a sound table, the position of the band for a ratio (`CombatTable.position?`) is that of the band the
ratio lies in, the first one for a ratio before all bands, and the last one for every other ratio
(`CombatTable.FoundAt`). The last case is not only that of ratios beyond all bands: a ratio in a gap
between two bands (`CombatTable.InGap`) is taken to the last band, too.

Positions therefore increase with the ratio, except from a gap to a band before the last one
(`position?_le_iff`).
-/

namespace Questbook

open Number

variable {b c : RatioBand} {t : CombatTable} {r s : Number} {x y : WithBot (WithTop ℚ)} {i j : Nat}

theorem RatioBand.contains_iff (hr : r.value? = some x) :
    b.contains r = true ↔ wholeValue b.min ≤ x ∧ x ≤ wholeValue b.max := by
  rw [contains, Bool.and_eq_true, le_iff_of_value rfl hr, le_iff_of_value hr rfl]

namespace CombatTable

/-! ## Positions -/

/-- **The position of the band** that gives the losses at a ratio. -/
def position? (t : CombatTable) (ratio : Number) : Option Nat :=
  (t.findBand? ratio).map t.bands.idxOf

/-- **Whether a ratio lies in a gap,** with bands on both sides of it. -/
structure InGap (t : CombatTable) (ratio : Number) : Prop where
  outside : ∀ b ∈ t.bands, b.contains ratio = false
  passed : ∃ b ∈ t.bands, (Number.whole b.max).lt ratio = true
  ahead : ∃ b ∈ t.bands, ratio.lt (.whole b.min) = true

/-- What the position found for the value of a ratio says of it. -/
inductive FoundAt (t : CombatTable) (x : WithBot (WithTop ℚ)) : Nat → Prop
  /-- The ratio lies in the band. -/
  | inside {i : Nat} {b : RatioBand} (at_position : t.bands[i]? = some b)
      (above : wholeValue b.min ≤ x) (below : x ≤ wholeValue b.max) : FoundAt t x i
  /-- The ratio lies before all bands. -/
  | before (ahead : ∀ b ∈ t.bands, x < wholeValue b.min) : FoundAt t x 0
  /-- The ratio lies in no band and beyond the first one. -/
  | beyond (outside : ∀ b ∈ t.bands, ¬ (wholeValue b.min ≤ x ∧ x ≤ wholeValue b.max))
      (passed : ∃ b ∈ t.bands, wholeValue b.max < x) : FoundAt t x (t.bands.length - 1)

theorem findBand?_of_find? (h : t.bands.find? (fun b => b.contains r) = some b) :
    t.findBand? r = some b := by
  unfold findBand?
  cases hbands : t.bands with
  | nil =>
      rw [hbands] at h
      cases h
  | cons first rest =>
      rw [hbands] at h
      simp only [h]

theorem findBand?_of_outside (hnone : t.bands.find? (fun b => b.contains r) = none)
    (hne : t.bands ≠ []) :
    t.findBand? r = some (if r.lt (.whole (t.bands.head hne).min) then t.bands.head hne
      else t.bands.getLast hne) := by
  obtain ⟨bands⟩ := t
  unfold findBand?
  cases bands with
  | nil => exact absurd rfl hne
  | cons first rest =>
      simp only [hnone, List.head_cons, apply_ite some, List.getLastD_cons, List.getLast_eq_getLastD]

/-- The band for a ratio is one of the table. -/
theorem mem_of_findBand? (h : t.findBand? r = some b) : b ∈ t.bands := by
  cases hfind : t.bands.find? fun b => b.contains r with
  | some c =>
      rw [findBand?_of_find? hfind] at h
      cases h
      exact List.mem_of_find?_eq_some hfind
  | none =>
      have hne : t.bands ≠ [] := by
        intro hempty
        unfold findBand? at h
        rw [hempty] at h
        cases h
      rw [findBand?_of_outside hfind hne] at h
      split at h
      · cases h
        exact List.head_mem hne
      · cases h
        exact List.getLast_mem hne

namespace Sound

theorem max_lt_min (h : t.Sound) (hb : t.bands[i]? = some b) (hc : t.bands[j]? = some c)
    (hij : i < j) : b.max < c.min := by
  obtain ⟨hi, rfl⟩ := List.getElem?_eq_some_iff.mp hb
  obtain ⟨hj, rfl⟩ := List.getElem?_eq_some_iff.mp hc
  exact List.pairwise_iff_getElem.mp h.apart i j hi hj hij

theorem nodup (h : t.Sound) : t.bands.Nodup := by
  refine h.apart.imp_of_mem fun {b c} hb _ hbc heq => ?_
  subst heq
  exact absurd (h.bounds b hb) (Int.not_le.mpr hbc)

/-- The first band begins before the others. -/
theorem head_min_le (h : t.Sound) (hb : b ∈ t.bands) : (t.bands.head h.nonempty).min ≤ b.min := by
  have hbounds := h.bounds _ (List.head_mem h.nonempty)
  obtain ⟨i, hi⟩ := List.mem_iff_getElem?.mp hb
  have hhead : t.bands[0]? = some (t.bands.head h.nonempty) := by
    rw [← List.head?_eq_getElem?, List.head?_eq_some_head h.nonempty]
  rcases Nat.eq_zero_or_pos i with rfl | hpos
  · exact le_of_eq (congrArg RatioBand.min (Option.some.inj (hhead.symm.trans hi)))
  · have hlt := h.max_lt_min hhead hi hpos
    omega

/-- **The position of each ratio is found.** -/
theorem foundAt (h : t.Sound) (hr : r.value? = some x) :
    ∃ i, t.position? r = some i ∧ t.FoundAt x i := by
  unfold position?
  cases hfind : t.bands.find? fun b => b.contains r with
  | some b =>
      have hb : b ∈ t.bands := List.mem_of_find?_eq_some hfind
      have hcontains := List.find?_some (p := fun b : RatioBand => b.contains r) hfind
      obtain ⟨habove, hbelow⟩ := (RatioBand.contains_iff hr).mp hcontains
      rw [findBand?_of_find? hfind]
      exact ⟨t.bands.idxOf b, rfl, .inside (List.getElem?_idxOf hb) habove hbelow⟩
  | none =>
      have houtside : ∀ b ∈ t.bands, ¬ (wholeValue b.min ≤ x ∧ x ≤ wholeValue b.max) := fun b hb =>
        (RatioBand.contains_iff hr).not.mp (List.find?_eq_none.mp hfind b hb)
      have hpositive : 0 < t.bands.length := List.length_pos_iff.mpr h.nonempty
      have hhead := List.head_mem h.nonempty
      rw [findBand?_of_outside hfind h.nonempty]
      split
      · next hlt =>
        have hfirst : t.bands.idxOf (t.bands.head h.nonempty) = 0 := by
          rw [List.head_eq_getElem, h.nodup.idxOf_getElem]
        refine ⟨0, congrArg some hfirst, .before fun b hb => ?_⟩
        exact ((lt_iff_of_value hr rfl).mp hlt).trans_le (wholeValue_le_iff.mpr (h.head_min_le hb))
      · next hge =>
        have hlast : t.bands.idxOf (t.bands.getLast h.nonempty) = t.bands.length - 1 := by
          rw [List.getLast_eq_getElem, h.nodup.idxOf_getElem]
        have hmin : wholeValue (t.bands.head h.nonempty).min ≤ x :=
          not_lt.mp ((lt_iff_of_value hr rfl).not.mp hge)
        have hmax : wholeValue (t.bands.head h.nonempty).max < x :=
          not_le.mp fun hle => houtside _ hhead ⟨hmin, hle⟩
        exact ⟨_, congrArg some hlast, .beyond houtside ⟨_, hhead, hmax⟩⟩

end Sound

/-! ## Two ratios -/

theorem inGap_iff (hr : r.value? = some x) :
    t.InGap r ↔ (∀ b ∈ t.bands, ¬ (wholeValue b.min ≤ x ∧ x ≤ wholeValue b.max)) ∧
      (∃ b ∈ t.bands, wholeValue b.max < x) ∧ ∃ b ∈ t.bands, x < wholeValue b.min := by
  have hpassed (b : RatioBand) : wholeValue b.max < x ↔ (whole b.max).lt r = true :=
    (lt_iff_of_value rfl hr).symm
  have hahead (b : RatioBand) : x < wholeValue b.min ↔ r.lt (whole b.min) = true :=
    (lt_iff_of_value hr rfl).symm
  simp only [← RatioBand.contains_iff hr, Bool.not_eq_true, hpassed, hahead]
  exact ⟨fun h => ⟨h.outside, h.passed, h.ahead⟩, fun ⟨houtside, hpassed, hahead⟩ =>
    ⟨houtside, hpassed, hahead⟩⟩

theorem mem_dropLast_bands_iff :
    b ∈ t.bands.dropLast ↔ ∃ i < t.bands.length - 1, t.bands[i]? = some b := by
  rw [List.mem_iff_getElem?]
  refine exists_congr fun i => ?_
  rw [List.getElem?_dropLast]
  split
  · next hi => simp [hi]
  · next hi => simp [hi]

theorem FoundAt.le_last (h : t.FoundAt x i) : i ≤ t.bands.length - 1 := by
  cases h with
  | inside hb _ _ =>
      obtain ⟨hi, -⟩ := List.getElem?_eq_some_iff.mp hb
      omega
  | before _ => exact Nat.zero_le _
  | beyond _ _ => exact Nat.le_refl _

/-- A greater ratio is not found before a smaller one, unless the smaller one lies in a gap. -/
theorem Sound.le_of_foundAt (h : t.Sound) (hr : r.value? = some x) (hs : s.value? = some y)
    (hx : t.FoundAt x i) (hy : t.FoundAt y j) (hxy : x ≤ y)
    (hgap : ¬ (t.InGap r ∧ ∃ b ∈ t.bands.dropLast, b.contains s = true)) : i ≤ j := by
  cases hy with
  | beyond _ _ => exact hx.le_last
  | before hahead =>
      cases hx with
      | inside hb habove _ =>
          exact absurd (habove.trans hxy) (not_le.mpr (hahead _ (List.mem_of_getElem? hb)))
      | before _ => exact Nat.le_refl 0
      | beyond _ hpassed =>
          obtain ⟨b, hb, hmax⟩ := hpassed
          have hmin : wholeValue b.min < x := (wholeValue_le_iff.mpr (h.bounds b hb)).trans_lt hmax
          exact absurd (hmin.le.trans hxy) (not_le.mpr (hahead b hb))
  | @inside _ c hc habove hbelow =>
      by_contra hij
      have hji : j < i := Nat.lt_of_not_le hij
      -- whatever is found behind the band of `y` begins after it
      have hbehind : ∀ {k : Nat} {b : RatioBand}, t.bands[k]? = some b → j < k →
          x < wholeValue b.min := fun hb hjk =>
        (hxy.trans hbelow).trans_lt (wholeValue_lt_iff.mpr (h.max_lt_min hc hb hjk))
      cases hx with
      | inside hb hmin _ => exact absurd hmin (not_le.mpr (hbehind hb hji))
      | before _ => exact absurd hji (Nat.not_lt_zero j)
      | beyond houtside hpassed =>
          have hlast : t.bands[t.bands.length - 1]? = some (t.bands.getLast h.nonempty) := by
            rw [← List.getLast?_eq_getElem?, List.getLast?_eq_some_getLast h.nonempty]
          have hahead : ∃ b ∈ t.bands, x < wholeValue b.min :=
            ⟨_, List.getLast_mem h.nonempty, hbehind hlast hji⟩
          exact hgap ⟨(inGap_iff hr).mpr ⟨houtside, hpassed, hahead⟩, c,
            mem_dropLast_bands_iff.mpr ⟨j, hji, hc⟩,
            (RatioBand.contains_iff hs).mpr ⟨habove, hbelow⟩⟩

/-- A ratio in a gap is found behind all ratios in bands before the last one. -/
theorem Sound.lt_of_foundAt (h : t.Sound) (hr : r.value? = some x) (hs : s.value? = some y)
    (hx : t.FoundAt x i) (hy : t.FoundAt y j) (hgap : t.InGap r)
    (hb : b ∈ t.bands.dropLast) (hcontains : b.contains s = true) : j < i := by
  obtain ⟨houtside, ⟨c, hc, hpassed⟩, -⟩ := (inGap_iff hr).mp hgap
  obtain ⟨k, hk, hbk⟩ := mem_dropLast_bands_iff.mp hb
  obtain ⟨habove, hbelow⟩ := (RatioBand.contains_iff hs).mp hcontains
  have hmem : b ∈ t.bands := List.mem_of_getElem? hbk
  -- the ratio in the gap is taken to the last band
  have hi : i = t.bands.length - 1 := by
    cases hx with
    | inside hd hmin hmax => exact absurd ⟨hmin, hmax⟩ (houtside _ (List.mem_of_getElem? hd))
    | before hahead =>
        have hmin : wholeValue c.min < x := (wholeValue_le_iff.mpr (h.bounds c hc)).trans_lt hpassed
        exact absurd (hahead c hc) (not_lt.mpr hmin.le)
    | beyond _ _ => rfl
  cases hy with
  | @inside _ d hd hmin _ =>
      by_contra hij
      have hlt : b.max < d.min := h.max_lt_min hbk hd (by omega)
      exact absurd (hmin.trans hbelow) (not_le.mpr (wholeValue_lt_iff.mpr hlt))
  | before hahead => exact absurd habove (not_le.mpr (hahead b hmem))
  | beyond hnone _ => exact absurd ⟨habove, hbelow⟩ (hnone b hmem)

/-- **A better ratio gives no earlier band, unless a gap is left for a band before the last one.** In a
table with which nothing is wrong, each ratio is given a band, and of two ratios in ascending order the
second is given an earlier one just when the first lies in a gap and the second in a band that is not the
last. -/
theorem position?_le_iff (t : CombatTable) (r s : Number) (h : t.problems = .ok [])
    (hle : r.le s = true) :
    ∃ i j, t.position? r = some i ∧ t.position? s = some j ∧
      (i ≤ j ↔ ¬ (t.InGap r ∧ ∃ b ∈ t.bands.dropLast, b.contains s = true)) := by
  have hsound : t.Sound := problems_eq_nil_iff.mp h
  obtain ⟨x, y, hr, hs, hxy⟩ := le_iff.mp hle
  obtain ⟨i, hi, hx⟩ := hsound.foundAt hr
  obtain ⟨j, hj, hy⟩ := hsound.foundAt hs
  refine ⟨i, j, hi, hj, fun hij hgap => ?_, hsound.le_of_foundAt hr hs hx hy hxy⟩
  obtain ⟨hgap, b, hb, hcontains⟩ := hgap
  exact absurd hij (Nat.not_le.mpr (hsound.lt_of_foundAt hr hs hx hy hgap hb hcontains))

/-- A table with gaps between its bands. -/
def withGaps : CombatTable where
  bands := [⟨0, 4, [{ roll := 0 }]⟩, ⟨10, 14, [{ roll := 0 }]⟩, ⟨20, 24, [{ roll := 0 }]⟩]

/-- The ratios 12 and 30 are given bands in their order. -/
theorem position?_le_iff_thirty :
    withGaps.problems = .ok [] ∧ (Number.whole 12).le (.whole 30) = true ∧
      ∃ i j, withGaps.position? (.whole 12) = some i ∧ withGaps.position? (.whole 30) = some j ∧
        (i ≤ j ↔ ¬ (withGaps.InGap (.whole 12) ∧
          ∃ b ∈ withGaps.bands.dropLast, b.contains (.whole 30) = true)) :=
  ⟨rfl, rfl, position?_le_iff withGaps (.whole 12) (.whole 30) rfl rfl⟩

/-- **A better ratio is given an earlier band:** the ratio 7 lies in a gap and is taken to the last band,
although the band of the ratio 11 comes before it. -/
theorem position?_seven_after_eleven :
    withGaps.problems = .ok [] ∧ (Number.whole 7).le (.whole 11) = true ∧
      withGaps.position? (.whole 7) = some 2 ∧ withGaps.position? (.whole 11) = some 1 :=
  ⟨rfl, rfl, by decide, by decide⟩

end CombatTable

end Questbook
