import Mathlib.Order.Bounds.Basic
import Questbook.Proofs.Combat.Bands
import Questbook.Proofs.Combat.Lookup
import Questbook.Proofs.NameMap.Same

set_option autoImplicit false

/-! # Ratios that bands hold

A table with which nothing is wrong holds no ratio twice. Apart from rows and bounds nothing else is
asked of it: sorted bands that hold no ratio at two positions follow each other without overlap, although
the search for problems compares neighbours only (`problems_ofBands_eq_nil_iff`).

Where each band begins one above the end of the band before it (`CombatTable.Contiguous`), every ratio
between the ends of the table is held by exactly one band. A ratio beyond the ends is then looked up as
the end it is beyond, and the order in which the bands were given does not matter (`lookup_contiguous`).
-/

namespace Questbook

variable {b : RatioBand} {bands others : List RatioBand} {t : CombatTable} {n : Int}

/-! ## Bands and rows -/

theorem RatioBand.contains_whole_iff : b.contains (.whole n) = true ↔ b.min ≤ n ∧ n ≤ b.max := by
  simp [contains]

/-- **The row of a band that gives the losses at a roll:** the first row of this roll, or the first row of
all if no row is of this roll. -/
inductive RatioBand.RowAt (b : RatioBand) (roll : Int) : CombatRow → Prop
  | exact {before after : List CombatRow} {row : CombatRow} (rows : b.rows = before ++ row :: after)
      (same : row.roll = roll) (earlier : ∀ r ∈ before, r.roll ≠ roll) : RowAt b roll row
  | otherwise {after : List CombatRow} {row : CombatRow} (rows : b.rows = row :: after)
      (none : ∀ r ∈ b.rows, r.roll ≠ roll) : RowAt b roll row

/-- A band with rows gives the losses of one of them. -/
theorem RatioBand.exists_rowAt (hrows : b.rows ≠ []) (roll : Int) :
    ∃ row, b.RowAt roll row ∧ b.losses (.int roll) = row.losses := by
  obtain ⟨first, rest, hfirst⟩ := List.exists_cons_of_ne_nil hrows
  have hlosses : b.losses (.int roll) =
      ((b.rows.find? fun r => Json.same (.int r.roll) (.int roll)).getD first).losses := by
    unfold losses
    rw [hfirst]
  rw [hlosses]
  cases hfind : b.rows.find? fun r => Json.same (.int r.roll) (.int roll) with
  | some row =>
      obtain ⟨hsame, before, after, hsplit, hbefore⟩ := List.find?_eq_some_iff_append.mp hfind
      refine ⟨row, .exact hsplit (Json.same_int.mp hsame) ?_, rfl⟩
      intro r hr hroll
      have hother := hbefore r hr
      simp [Json.same_int.mpr hroll] at hother
  | none =>
      refine ⟨first, .otherwise hfirst ?_, rfl⟩
      intro r hr hroll
      exact List.find?_eq_none.mp hfind r hr (Json.same_int.mpr hroll)

namespace CombatTable

/-! ## No ratio twice -/

/-- **Whether no ratio lies in the bands at two positions.** -/
def NoneTwice (t : CombatTable) : Prop :=
  ∀ (ratio : Int) (i j : Nat) (b c : RatioBand), t.bands[i]? = some b → t.bands[j]? = some c →
    b.contains (.whole ratio) = true → c.contains (.whole ratio) = true → i = j

theorem Sound.noneTwice (h : t.Sound) : t.NoneTwice := by
  intro ratio i j b c hb hc hbr hcr
  rw [RatioBand.contains_whole_iff] at hbr hcr
  by_contra hne
  rcases Nat.lt_or_gt_of_ne hne with hij | hji
  · have hlt := h.max_lt_min hb hc hij
    omega
  · have hlt := h.max_lt_min hc hb hji
    omega

/-- Bands in ascending order that share no ratio follow each other: where a band begins, no band before it
goes on. -/
theorem NoneTwice.apart (h : t.NoneTwice) (hascending : t.bands.Pairwise fun b c => b.min ≤ c.min)
    (hbounds : ∀ b ∈ t.bands, b.min ≤ b.max) : t.bands.Pairwise fun b c => b.max < c.min := by
  rw [List.pairwise_iff_getElem] at hascending ⊢
  intro i j hi hj hij
  have hmin := hascending i j hi hj hij
  have hmax := hbounds _ (List.getElem_mem hj)
  by_contra hover
  have hfirst : t.bands[i].contains (.whole t.bands[j].min) = true := by
    rw [RatioBand.contains_whole_iff]
    omega
  have hsecond : t.bands[j].contains (.whole t.bands[j].min) = true := by
    rw [RatioBand.contains_whole_iff]
    omega
  have hsame : i = j := h _ i j _ _ (List.getElem?_eq_getElem hi) (List.getElem?_eq_getElem hj)
    hfirst hsecond
  omega

/-- **Nothing is wrong with a table exactly if it has bands, all of them with rows and none of them
reversed, and holds no ratio twice.** -/
theorem problems_ofBands_eq_nil_iff (bands : List RatioBand) :
    (ofBands bands).problems = .ok [] ↔
      (ofBands bands).bands ≠ [] ∧
        (∀ b ∈ (ofBands bands).bands, b.rows ≠ [] ∧ b.min ≤ b.max) ∧ (ofBands bands).NoneTwice := by
  rw [problems_eq_nil_iff]
  constructor
  · intro h
    exact ⟨h.nonempty, fun b hb => ⟨h.rows b hb, h.bounds b hb⟩, h.noneTwice⟩
  · rintro ⟨hne, hbands, htwice⟩
    have hbounds : ∀ b ∈ (ofBands bands).bands, b.min ≤ b.max := fun b hb => (hbands b hb).2
    exact ⟨hne, fun b hb => (hbands b hb).1, hbounds,
      htwice.apart (sortedStably_sortBands bands).ascending hbounds⟩

/-- Bands may be given in any order, and gaps between them are no problem. -/
example : (ofBands [⟨5, 9, [⟨0, 1, 1⟩]⟩, ⟨0, 3, [⟨0, 1, 1⟩]⟩]).problems = .ok [] := rfl

/-! ## Exactly one band -/

/-- **Whether each band begins one above the end of the band before it.** -/
def Contiguous (t : CombatTable) : Prop :=
  t.bands.IsChain fun b c => c.min = b.max + 1

/-- No other band holds a ratio that a band holds. -/
theorem Sound.filter_contains (h : t.Sound) (hb : b ∈ t.bands) (hn : b.contains (.whole n) = true) :
    t.bands.filter (fun c => c.contains (.whole n)) = [b] := by
  obtain ⟨before, after, hsplit⟩ := List.append_of_mem hb
  have hapart := h.apart
  rw [hsplit, List.pairwise_append, List.pairwise_cons] at hapart
  obtain ⟨-, ⟨hafter, -⟩, hbefore⟩ := hapart
  have hin := RatioBand.contains_whole_iff.mp hn
  rw [List.filter_eq_cons_iff]
  refine ⟨before, after, hsplit, ?_, hn, ?_⟩
  · intro c hc hcontains
    have hlt := hbefore c hc b (List.mem_cons_self ..)
    rw [RatioBand.contains_whole_iff] at hcontains
    omega
  · rw [List.filter_eq_nil_iff]
    intro c hc hcontains
    have hlt := hafter c hc
    rw [RatioBand.contains_whole_iff] at hcontains
    omega

/-- The band that holds a ratio is found for it. -/
theorem Sound.findBand?_of_contains (h : t.Sound) (hb : b ∈ t.bands)
    (hn : b.contains (.whole n) = true) : t.findBand? (.whole n) = some b := by
  apply findBand?_of_find?
  rw [← List.head?_filter, h.filter_contains hb hn]
  rfl

/-- The last band ends behind the others. -/
theorem Sound.max_le_getLast (h : t.Sound) (hb : b ∈ t.bands) :
    b.max ≤ (t.bands.getLast h.nonempty).max := by
  have hbounds := h.bounds _ (List.getLast_mem h.nonempty)
  obtain ⟨i, hi⟩ := List.mem_iff_getElem?.mp hb
  have hlast : t.bands[t.bands.length - 1]? = some (t.bands.getLast h.nonempty) := by
    rw [← List.getLast?_eq_getElem?, List.getLast?_eq_some_getLast h.nonempty]
  obtain ⟨hlength, -⟩ := List.getElem?_eq_some_iff.mp hi
  by_cases hend : i = t.bands.length - 1
  · rw [hend, hlast] at hi
    exact le_of_eq (congrArg RatioBand.max (Option.some.inj hi.symm))
  · have hlt := h.max_lt_min hi hlast (by omega)
    omega

/-- No band holds a ratio beyond one of the ends of a table. -/
theorem Sound.find?_eq_none (h : t.Sound)
    (hbeyond : n < (t.bands.head h.nonempty).min ∨ (t.bands.getLast h.nonempty).max < n) :
    t.bands.find? (fun b => b.contains (.whole n)) = none := by
  rw [List.find?_eq_none]
  intro b hb hcontains
  have hmin := h.head_min_le hb
  have hmax := h.max_le_getLast hb
  rw [RatioBand.contains_whole_iff] at hcontains
  omega

/-- A chain of bands that touch leaves no ratio out between its ends. -/
theorem exists_contains_of_isChain {bs : List RatioBand}
    (h : (b :: bs).IsChain fun b c => c.min = b.max + 1) (hlow : b.min ≤ n)
    (hhigh : n ≤ ((b :: bs).getLast (List.cons_ne_nil b bs)).max) :
    ∃ c ∈ b :: bs, c.contains (.whole n) = true := by
  induction bs generalizing b with
  | nil => exact ⟨b, List.mem_cons_self .., RatioBand.contains_whole_iff.mpr ⟨hlow, hhigh⟩⟩
  | cons c bs ih =>
      obtain ⟨htouch, hrest⟩ := List.isChain_cons_cons.mp h
      by_cases hn : n ≤ b.max
      · exact ⟨b, List.mem_cons_self .., RatioBand.contains_whole_iff.mpr ⟨hlow, hn⟩⟩
      · rw [List.getLast_cons_cons] at hhigh
        obtain ⟨d, hd, hcontains⟩ := ih hrest (by omega) hhigh
        exact ⟨d, List.mem_cons_of_mem b hd, hcontains⟩

/-- **A ratio is looked up as it is clamped to the ends of the table,** and one band holds it then. -/
theorem Sound.exists_findBand? (h : t.Sound) (hcontiguous : t.Contiguous) (ratio : Int) :
    ∃ b ∈ t.bands,
      b.contains (.whole (max (t.bands.head h.nonempty).min
        (min ratio (t.bands.getLast h.nonempty).max))) = true ∧
      t.findBand? (.whole ratio) = some b := by
  have hfirst := List.head_mem h.nonempty
  have hlast := List.getLast_mem h.nonempty
  have hends := h.max_le_getLast hfirst
  have hfirstBounds := h.bounds _ hfirst
  have hlastBounds := h.bounds _ hlast
  by_cases hlow : ratio < (t.bands.head h.nonempty).min
  · -- before the first band
    refine ⟨_, hfirst, RatioBand.contains_whole_iff.mpr (by omega), ?_⟩
    rw [findBand?_of_outside (h.find?_eq_none (.inl hlow)) h.nonempty]
    simp [hlow]
  · by_cases hhigh : (t.bands.getLast h.nonempty).max < ratio
    · -- behind the last band
      refine ⟨_, hlast, RatioBand.contains_whole_iff.mpr (by omega), ?_⟩
      rw [findBand?_of_outside (h.find?_eq_none (.inr hhigh)) h.nonempty]
      simp [hlow]
    · -- between the ends
      obtain ⟨b, hb, hcontains⟩ : ∃ b ∈ t.bands, b.contains (.whole ratio) = true := by
        obtain ⟨first, rest, hbands⟩ := List.exists_cons_of_ne_nil h.nonempty
        unfold Contiguous at hcontiguous
        simp only [hbands, List.head_cons] at hcontiguous hlow hhigh ⊢
        exact exists_contains_of_isChain hcontiguous (by omega) (by omega)
      have hclamped : max (t.bands.head h.nonempty).min
          (min ratio (t.bands.getLast h.nonempty).max) = ratio := by
        omega
      rw [hclamped]
      exact ⟨b, hb, hcontains, h.findBand?_of_contains hb hcontains⟩

/-- A sound table is the same whatever the order in which its bands are given. -/
theorem ofBands_eq_of_perm (h : (ofBands bands).Sound) (hperm : others.Perm bands) :
    ofBands others = ofBands bands := by
  have hleft := sortedStably_sortBands others
  have hright := sortedStably_sortBands bands
  have hsorted : (sortBands others).Perm (sortBands bands) :=
    hleft.perm.trans (hperm.trans hright.perm.symm)
  have heq : sortBands others = sortBands bands := by
    refine List.Perm.eq_of_pairwise ?_ hleft.ascending hright.ascending hsorted
    -- two bands that begin alike are one, since bands at two positions are apart
    intro b c hb hc hbc hcb
    obtain ⟨i, hi⟩ := List.mem_iff_getElem?.mp (hsorted.mem_iff.mp hb)
    obtain ⟨j, hj⟩ := List.mem_iff_getElem?.mp hc
    have hbounds := h.bounds b (hsorted.mem_iff.mp hb)
    have hcontains : b.contains (.whole b.min) = true := by
      rw [RatioBand.contains_whole_iff]
      omega
    have hcontains' : c.contains (.whole b.min) = true := by
      have hbounds' := h.bounds c hc
      rw [RatioBand.contains_whole_iff]
      omega
    obtain rfl : i = j := h.noneTwice b.min i j b c hi hj hcontains hcontains'
    exact Option.some.inj (hi.symm.trans hj)
  unfold ofBands
  rw [heq]

/-- **Looking up a ratio in a table without gaps.** The order of the bands does not matter. A ratio is
clamped to the ends of the table; exactly one of the bands holds it then and is the one that is found. A
roll finds the first row of this roll, or else the first row of the band. -/
theorem lookup_contiguous (bands : List RatioBand) (hproblems : (ofBands bands).problems = .ok [])
    (hcontiguous : (ofBands bands).Contiguous) :
    (∀ others, others.Perm bands → ofBands others = ofBands bands) ∧
    ∃ low high, IsLeast {n | ∃ b ∈ bands, b.min = n} low ∧
      IsGreatest {n | ∃ b ∈ bands, b.max = n} high ∧
      ∀ ratio : Int, ∃ b,
        bands.filter (fun c => c.contains (.whole (max low (min ratio high)))) = [b] ∧
        (ofBands bands).findBand? (.whole ratio) = some b ∧
        ∀ roll : Int, ∃ row, b.RowAt roll row ∧
          (ofBands bands).losses (.whole ratio) (.int roll) = row.losses := by
  have hsound : (ofBands bands).Sound := problems_eq_nil_iff.mp hproblems
  have hperm : (ofBands bands).bands.Perm bands := (sortedStably_sortBands bands).perm
  refine ⟨fun others hothers => ofBands_eq_of_perm hsound hothers,
    ((ofBands bands).bands.head hsound.nonempty).min,
    ((ofBands bands).bands.getLast hsound.nonempty).max, ⟨?_, ?_⟩, ⟨?_, ?_⟩, fun ratio => ?_⟩
  · exact ⟨_, hperm.mem_iff.mp (List.head_mem _), rfl⟩
  · rintro _ ⟨b, hb, rfl⟩
    exact hsound.head_min_le (hperm.mem_iff.mpr hb)
  · exact ⟨_, hperm.mem_iff.mp (List.getLast_mem _), rfl⟩
  · rintro _ ⟨b, hb, rfl⟩
    exact hsound.max_le_getLast (hperm.mem_iff.mpr hb)
  · obtain ⟨b, hb, hcontains, hfound⟩ := hsound.exists_findBand? hcontiguous ratio
    refine ⟨b, ?_, hfound, fun roll => ?_⟩
    · rw [← List.perm_singleton, ← hsound.filter_contains hb hcontains]
      exact hperm.symm.filter _
    · obtain ⟨row, hrow, hlosses⟩ := RatioBand.exists_rowAt (hsound.rows b hb) roll
      refine ⟨row, hrow, ?_⟩
      rw [← hlosses]
      simp only [CombatTable.losses, hfound]

/-- Two bands that touch, the upper one first. -/
def descending : List RatioBand :=
  [⟨1, 99, [⟨3, 0, 9⟩, ⟨0, 1, 8⟩]⟩, ⟨-99, 0, [⟨0, 6, 0⟩]⟩]

/-- The ratio 120 is looked up as the end of the upper band, and the roll 7 as its first row. -/
theorem lookup_contiguous_descending :
    (ofBands descending).problems = .ok [] ∧ (ofBands descending).Contiguous ∧
      ofBands descending.reverse = ofBands descending ∧
      ∃ low high, IsLeast {n | ∃ b ∈ descending, b.min = n} low ∧
        IsGreatest {n | ∃ b ∈ descending, b.max = n} high ∧ ∃ b,
          descending.filter (fun c => c.contains (.whole (max low (min 120 high)))) = [b] ∧
          (ofBands descending).findBand? (.whole 120) = some b ∧
          ∃ row, b.RowAt 7 row ∧ (ofBands descending).losses (.whole 120) (.int 7) = row.losses := by
  have hproblems : (ofBands descending).problems = .ok [] := rfl
  have hcontiguous : (ofBands descending).Contiguous := by
    unfold Contiguous
    decide
  obtain ⟨hperm, low, high, hlow, hhigh, hlookup⟩ :=
    lookup_contiguous descending hproblems hcontiguous
  obtain ⟨b, hfilter, hfound, hlosses⟩ := hlookup 120
  exact ⟨hproblems, hcontiguous, hperm _ (List.reverse_perm descending), low, high, hlow, hhigh, b,
    hfilter, hfound, hlosses 7⟩

end CombatTable

end Questbook
