import Mathlib.Data.List.Forall2
import Mathlib.Data.List.Perm.Subperm
import Questbook.Proofs.Json.Parts
import Questbook.Proofs.Number.Order

set_option autoImplicit false

/-! # Values that are equal

Two values are the same (`Json.same`) if they are equal numbers, or equal otherwise, item by item and name
by name. This is said here of each kind of value on the left (`same_of_number`, `same_arr_iff`,
`same_obj_iff`). Among values in which no object names a field twice (`Proper`), to be the same is an
equivalence: `Proper.same_refl`, `Proper.same_symm` and `Proper.same_trans` go by induction on the value
on the left.
-/

namespace Questbook

/-! ## Numbers -/

/-- Whether two numbers are the same: they have the same value, or none is a number and they are alike. -/
def Number.Same (a b : Number) : Prop :=
  a = b ∨ ∃ x, a.value? = some x ∧ b.value? = some x

namespace Number

variable {a b c : Number}

theorem eqv_iff : a.eqv b = true ↔ ∃ x, a.value? = some x ∧ b.value? = some x := by
  rw [eqv, compare?_eq, decide_eq_true_iff, Option.map₂_eq_some_iff]
  constructor
  · rintro ⟨x, y, ha, hb, hxy⟩
    rw [cmp_eq_eq_iff] at hxy
    exact ⟨x, ha, hxy ▸ hb⟩
  · rintro ⟨x, ha, hb⟩
    exact ⟨x, x, ha, hb, cmp_self_eq_eq x⟩

theorem Same.symm (h : a.Same b) : b.Same a := by
  rcases h with rfl | ⟨x, ha, hb⟩
  · exact Or.inl rfl
  · exact Or.inr ⟨x, hb, ha⟩

theorem Same.trans (hab : a.Same b) (hbc : b.Same c) : a.Same c := by
  rcases hab with rfl | ⟨x, ha, hb⟩
  · exact hbc
  · rcases hbc with rfl | ⟨y, hb', hc⟩
    · exact Or.inr ⟨x, ha, hb⟩
    · cases hb.symm.trans hb'
      exact Or.inr ⟨x, ha, hc⟩

/-- A whole number is the same as the numbers of its value. -/
theorem same_whole_iff {n : Int} : (whole n).Same b ↔ (whole n).eqv b = true := by
  rw [eqv_iff]
  constructor
  · rintro (rfl | h)
    · exact ⟨_, rfl, rfl⟩
    · exact h
  · exact Or.inr

end Number

namespace Json

variable {j k l : Json}

/-! ## One kind of value after the other -/

theorem sameNumber_iff {x : Number} :
    sameNumber x k = true ↔ ∃ y, k.number? = some y ∧ x.eqv y = true := by
  unfold sameNumber
  cases k.number? with
  | none => simp
  | some y => simp

theorem sameNumber_whole_iff {n : Int} :
    sameNumber (.whole n) k = true ↔ ∃ y, k.number? = some y ∧ (Number.whole n).Same y := by
  rw [sameNumber_iff]
  simp only [Number.same_whole_iff]

theorem same_float_iff {x : Binary64} :
    same (.float x) k = true ↔ ∃ y, k.number? = some y ∧ (Number.real x).Same y := by
  cases k with
  | float y =>
      rw [same, Bool.or_eq_true, decide_eq_true_eq, Number.eqv_iff]
      simp [number?, Number.Same]
  | bool _ | int _ =>
      rw [same, sameNumber_iff]
      · simp [number?, Number.Same, Number.eqv_iff]
      · intro y hy
        cases hy
  | null | str _ | arr _ | obj _ => simp [same, sameNumber, number?]

/-- **A number is the same** as the numbers of its value; a truth value is a number as well. -/
theorem same_of_number {x : Number} (hj : j.number? = some x) :
    same j k = true ↔ ∃ y, k.number? = some y ∧ x.Same y := by
  cases j with
  | bool b =>
      cases hj
      rw [← sameNumber_whole_iff, same]
  | int n =>
      cases hj
      rw [← sameNumber_whole_iff, same]
  | float x =>
      cases hj
      exact same_float_iff
  | _ => cases hj

theorem same_null_iff : same .null k = true ↔ k = .null := by
  cases k <;> simp [same]

theorem same_str_iff {s : String} : same (.str s) k = true ↔ k = .str s := by
  cases k <;> simp [same, eq_comm]

theorem sameItems_iff {xs ys : List Json} :
    sameItems xs ys = true ↔ List.Forall₂ (fun x y => same x y = true) xs ys := by
  induction xs generalizing ys with
  | nil => cases ys <;> simp [sameItems]
  | cons x xs ih => cases ys <;> simp [sameItems, ih]

theorem sameFields_iff {fs gs : List (String × Json)} :
    sameFields fs gs = true ↔ ∀ f ∈ fs, ∃ y, field? f.1 gs = some y ∧ same f.2 y = true := by
  induction fs with
  | nil => simp [sameFields]
  | cons f fs ih =>
      rw [sameFields, Bool.and_eq_true, ih, List.forall_mem_cons]
      refine and_congr_left fun _ => ?_
      cases field? f.1 gs <;> simp

/-- **A list is the same** as the lists of the same items in the same order. -/
theorem same_arr_iff {xs : List Json} : same (.arr xs) k = true ↔
    ∃ ys, k = .arr ys ∧ List.Forall₂ (fun x y => same x y = true) xs ys := by
  cases k <;> simp [same, sameItems_iff]

/-- **An object is the same** as the objects of as many names that have the same values under its names. -/
theorem same_obj_iff {fs : List (String × Json)} : same (.obj fs) k = true ↔
    ∃ gs, k = .obj gs ∧ fs.length = gs.length ∧
      ∀ f ∈ fs, ∃ y, field? f.1 gs = some y ∧ same f.2 y = true := by
  cases k <;> simp [same, sameFields_iff]

/-! ## Values without repeated names -/

/-- **Whether no object in a value names a field twice.** -/
inductive Proper : Json → Prop
  | null : Proper .null
  | str (s : String) : Proper (.str s)
  | number {j : Json} {x : Number} (isNumber : j.number? = some x) : Proper j
  | arr {xs : List Json} (items : ∀ x ∈ xs, Proper x) : Proper (.arr xs)
  | obj {fs : List (String × Json)} (distinct : (fs.map Prod.fst).Nodup)
      (values : ∀ f ∈ fs, Proper f.2) : Proper (.obj fs)

theorem handsDown_proper : HandsDown Proper where
  null := .null
  str := .str
  items := by
    rintro xs (_ | _ | hnumber | hitems | _)
    · cases hnumber
    · exact hitems
  fields := by
    rintro fs (_ | _ | hnumber | _ | ⟨-, hvalues⟩)
    · cases hnumber
    · exact hvalues

theorem field?_of_mem {fs : List (String × Json)} (hdistinct : (fs.map Prod.fst).Nodup) {f : String × Json}
    (hf : f ∈ fs) : field? f.1 fs = some f.2 := by
  induction fs with
  | nil => cases hf
  | cons g fs ih =>
      obtain ⟨hnew, hrest⟩ := List.nodup_cons.mp hdistinct
      rcases List.mem_cons.mp hf with rfl | hf
      · rw [field?, if_pos rfl]
      · have hother : g.1 ≠ f.1 := fun hname => hnew (hname ▸ List.mem_map_of_mem hf)
        rw [field?, if_neg hother, ih hrest hf]

/-- **A value is the same as itself.** -/
theorem Proper.same_refl (hj : j.Proper) : same j j = true := by
  induction hj with
  | null => rfl
  | str s => exact same_str_iff.mpr rfl
  | number hnumber => exact (same_of_number hnumber).mpr ⟨_, hnumber, Or.inl rfl⟩
  | arr hitems ih => exact same_arr_iff.mpr ⟨_, rfl, List.forall₂_same.mpr ih⟩
  | obj hdistinct hvalues ih =>
      exact same_obj_iff.mpr ⟨_, rfl, rfl, fun f hf => ⟨f.2, field?_of_mem hdistinct hf, ih f hf⟩⟩

/-- The same number of different names, all of them found in a second list, are the names there. -/
theorem names_perm {fs gs : List (String × Json)} (hdistinct : (fs.map Prod.fst).Nodup)
    (hlength : fs.length = gs.length) (hfound : ∀ f ∈ fs, ∃ y, field? f.1 gs = some y) :
    (fs.map Prod.fst).Perm (gs.map Prod.fst) := by
  have hsubset : fs.map Prod.fst ⊆ gs.map Prod.fst := by
    intro name hname
    obtain ⟨f, hf, rfl⟩ := List.mem_map.mp hname
    obtain ⟨y, hy⟩ := hfound f hf
    exact List.mem_map.mpr ⟨_, mem_of_field? hy, rfl⟩
  refine (hdistinct.subperm hsubset).perm_of_length_le ?_
  rw [List.length_map, List.length_map, hlength]

/-- **What is the same on one side is the same on the other.** -/
theorem Proper.same_symm (hj : j.Proper) (h : same j k = true) : same k j = true := by
  induction hj generalizing k with
  | null =>
      cases same_null_iff.mp h
      rfl
  | str s =>
      cases same_str_iff.mp h
      exact same_str_iff.mpr rfl
  | number hnumber =>
      obtain ⟨y, hk, hsame⟩ := (same_of_number hnumber).mp h
      exact (same_of_number hk).mpr ⟨_, hnumber, hsame.symm⟩
  | @arr xs hitems ih =>
      obtain ⟨ys, rfl, hall⟩ := same_arr_iff.mp h
      refine same_arr_iff.mpr ⟨xs, rfl, ?_⟩
      clear h
      induction hall with
      | nil => exact .nil
      | cons hxy _ ihall =>
          obtain ⟨hx, hxs⟩ := List.forall_mem_cons.mp ih
          exact .cons (hx hxy) (ihall (fun y hy => hitems y (by simp [hy])) hxs)
  | @obj fs hdistinct hvalues ih =>
      obtain ⟨gs, rfl, hlength, hall⟩ := same_obj_iff.mp h
      have hperm := names_perm hdistinct hlength fun f hf => (hall f hf).imp fun _ hy => hy.1
      refine same_obj_iff.mpr ⟨fs, rfl, hlength.symm, fun g hg => ?_⟩
      -- the names of both are the same, so each one on the right stands on the left
      obtain ⟨f, hf, hname⟩ := List.mem_map.mp (hperm.symm.subset (List.mem_map_of_mem hg))
      obtain ⟨y, hy, hsame⟩ := hall f hf
      have hgfound := field?_of_mem (hperm.nodup_iff.mp hdistinct) hg
      rw [← hname, hy] at hgfound
      cases hgfound
      exact ⟨f.2, hname ▸ field?_of_mem hdistinct hf, ih f hf hsame⟩

/-- **What is the same as the same value is the same.** -/
theorem Proper.same_trans (hj : j.Proper) (hjk : same j k = true) (hkl : same k l = true) :
    same j l = true := by
  induction hj generalizing k l with
  | null =>
      cases same_null_iff.mp hjk
      exact hkl
  | str s =>
      cases same_str_iff.mp hjk
      exact hkl
  | number hnumber =>
      obtain ⟨y, hk, hxy⟩ := (same_of_number hnumber).mp hjk
      obtain ⟨z, hl, hyz⟩ := (same_of_number hk).mp hkl
      exact (same_of_number hnumber).mpr ⟨z, hl, hxy.trans hyz⟩
  | @arr xs hitems ih =>
      obtain ⟨ys, rfl, hxys⟩ := same_arr_iff.mp hjk
      obtain ⟨zs, rfl, hyzs⟩ := same_arr_iff.mp hkl
      refine same_arr_iff.mpr ⟨zs, rfl, ?_⟩
      clear hjk hkl
      induction hxys generalizing zs with
      | nil => exact hyzs
      | cons hxy _ ihall =>
          obtain ⟨hx, hxs⟩ := List.forall_mem_cons.mp ih
          cases hyzs with
          | cons hyz hrest =>
              exact .cons (hx hxy hyz) (ihall (fun y hy => hitems y (by simp [hy])) hxs _ hrest)
  | @obj fs hdistinct hvalues ih =>
      obtain ⟨gs, rfl, hlength, hall⟩ := same_obj_iff.mp hjk
      obtain ⟨hs, rfl, hlength', hall'⟩ := same_obj_iff.mp hkl
      refine same_obj_iff.mpr ⟨hs, rfl, hlength.trans hlength', fun f hf => ?_⟩
      obtain ⟨y, hy, hsame⟩ := hall f hf
      obtain ⟨z, hz, hsame'⟩ := hall' _ (mem_of_field? hy)
      exact ⟨z, hz, ih f hf hsame hsame'⟩

end Json

end Questbook
