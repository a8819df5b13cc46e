import Mathlib.Data.List.Induction
import Questbook.Combat.Table

set_option autoImplicit false

/-! # Sorting bands

The bands of a table are sorted by insertion, one after the other. What comes of it is the stable sorting
by `min`: the same bands, in ascending order, and those that begin alike in the order in which they were
given (`sortedStably_sortBands`).
-/

namespace Questbook

variable {b c : RatioBand} {bands sorted : List RatioBand}

/-- **Whether a list is the stable sorting of bands** by `min`. -/
structure SortedStably (sorted bands : List RatioBand) : Prop where
  perm : sorted.Perm bands
  ascending : sorted.Pairwise fun a b => a.min ≤ b.min
  stable : ∀ m, sorted.filter (fun b => b.min = m) = bands.filter fun b => b.min = m

theorem perm_insertBand (b : RatioBand) (sorted : List RatioBand) :
    (insertBand b sorted).Perm (b :: sorted) := by
  induction sorted with
  | nil => exact List.Perm.refl [b]
  | cons c cs ih =>
      unfold insertBand
      split
      · exact List.Perm.refl (b :: c :: cs)
      · exact (ih.cons c).trans (List.Perm.swap b c cs)

theorem ascending_insertBand (b : RatioBand) (h : sorted.Pairwise fun a b => a.min ≤ b.min) :
    (insertBand b sorted).Pairwise fun a b => a.min ≤ b.min := by
  induction sorted with
  | nil => exact List.pairwise_singleton _ b
  | cons c cs ih =>
      have hfirst : ∀ d ∈ cs, c.min ≤ d.min := fun d hd => List.rel_of_pairwise_cons h hd
      have hrest := ih (List.Pairwise.of_cons h)
      unfold insertBand
      split
      · next hlt =>
        refine List.pairwise_cons.mpr ⟨?_, h⟩
        intro d hd
        rcases List.mem_cons.mp hd with rfl | hd
        · omega
        · have hle := hfirst d hd
          omega
      · next hge =>
        refine List.pairwise_cons.mpr ⟨?_, hrest⟩
        intro d hd
        rcases List.mem_cons.mp ((perm_insertBand b cs).mem_iff.mp hd) with rfl | hd
        · omega
        · exact hfirst d hd

/-- A band is put behind those that begin where it begins. -/
theorem filter_insertBand (b : RatioBand) (h : sorted.Pairwise fun a b => a.min ≤ b.min) (m : Int) :
    (insertBand b sorted).filter (fun b => b.min = m) =
      (sorted ++ [b]).filter fun b => b.min = m := by
  induction sorted with
  | nil => rfl
  | cons c cs ih =>
      unfold insertBand
      split
      · next hlt =>
        -- all the others begin later
        have hnone : b.min = m → (c :: cs).filter (fun b => b.min = m) = [] := by
          intro hb
          apply List.filter_eq_nil_iff.mpr
          intro d hd
          have hle : c.min ≤ d.min := by
            rcases List.mem_cons.mp hd with rfl | hd
            · exact Int.le_refl _
            · exact List.rel_of_pairwise_cons h hd
          simp only [decide_eq_true_eq]
          omega
        rw [List.filter_cons, List.filter_append]
        by_cases hb : b.min = m
        · simp [hb, hnone hb]
        · simp [hb]
      · rw [List.filter_cons, List.cons_append, List.filter_cons, ih (List.Pairwise.of_cons h)]

/-- One more band is sorted in. -/
theorem SortedStably.insertBand (h : SortedStably sorted bands) (b : RatioBand) :
    SortedStably (insertBand b sorted) (bands ++ [b]) where
  perm := by
    have hperm : (b :: sorted).Perm (bands ++ [b]) :=
      (h.perm.cons b).trans (List.perm_append_singleton b bands).symm
    exact (perm_insertBand b sorted).trans hperm
  ascending := ascending_insertBand b h.ascending
  stable m := by
    rw [filter_insertBand b h.ascending, List.filter_append, h.stable, List.filter_append]

/-- **Bands are sorted stably.** -/
theorem sortedStably_sortBands (bands : List RatioBand) : SortedStably (sortBands bands) bands := by
  -- the last band given is the last one sorted in
  induction bands using List.reverseRecOn with
  | nil => exact ⟨List.Perm.refl [], List.Pairwise.nil, fun _ => rfl⟩
  | append_singleton bands b ih =>
      have hstep : sortBands (bands ++ [b]) = Questbook.insertBand b (sortBands bands) := by
        simp [sortBands]
      rw [hstep]
      exact ih.insertBand b

end Questbook
