import Questbook.Json.Fields
import Questbook.Proofs.Outcome

set_option autoImplicit false

/-! # Reading the fields that were written

A record is written as an object with a field for each of its parts. What is read from such a field is what was
written there, or the default if that does not count as given. The records of a list are read one by one,
whatever each of them gives (`records_obj_map`).
-/

namespace Questbook

open Json

variable {fs : List (String × Json)} {name : String} {v : Json}

/-! ## Fields of objects -/

theorem fieldOr_obj (h : field? name fs = some v) (default : Json) :
    (Json.obj fs).fieldOr name default = .ok v := by
  unfold fieldOr
  rw [field_obj_of_field? h]
  rfl

theorem givenOr_obj (h : field? name fs = some v) (default : Json) :
    (Json.obj fs).givenOr name default = .ok (v.orElse default) := by
  unfold givenOr
  rw [fieldOr_obj h]
  rfl

theorem wholeOr_obj {n : Int} (h : field? name fs = some (.int n)) (default : Int) :
    (Json.obj fs).wholeOr name default = .ok n := by
  unfold wholeOr
  rw [fieldOr_obj h]
  rfl

theorem listed_obj {xs : List Json} (h : field? name fs = some (.arr xs)) :
    (Json.obj fs).listed name = .ok xs := by
  unfold listed
  rw [fieldOr_obj h]
  cases xs <;> rfl

/-- What has been written of each element of a list is read element by element. -/
theorem mapM_map_of_read {α β : Type} {write : α → Json} {readRecord : Json → Except Fault β}
    {back : α → β} {as : List α} (hread : ∀ a ∈ as, readRecord (write a) = .ok (back a)) :
    (as.map write).mapM readRecord = .ok (as.map back) := by
  induction as with
  | nil => rfl
  | cons a as ih =>
      obtain ⟨hfirst, hrest⟩ := List.forall_mem_cons.mp hread
      rw [List.map_cons, List.mapM_cons, hfirst, ih hrest]
      rfl

/-- **The records of a list are read** as what each of them gives. -/
theorem records_obj_map {α β : Type} {write : α → Json} {readRecord : Json → Except Fault β}
    {back : α → β} {as : List α} (hread : ∀ a ∈ as, readRecord (write a) = .ok (back a))
    (h : field? name fs = some (.arr (as.map write))) :
    records readRecord (.obj fs) name = .ok (as.map back) := by
  unfold records
  rw [listed_obj h]
  exact mapM_map_of_read hread

/-- The records of a list are read back if each of them is. -/
theorem records_obj {α : Type} {write : α → Json} {readRecord : Json → Except Fault α} {as : List α}
    (hread : ∀ a ∈ as, readRecord (write a) = .ok a)
    (h : field? name fs = some (.arr (as.map write))) :
    records readRecord (.obj fs) name = .ok as := by
  have hmap : records readRecord (.obj fs) name = .ok (as.map id) := records_obj_map hread h
  rwa [List.map_id] at hmap

/-! ## Defaults -/

theorem map_eq_self_iff {α : Type} {f : α → α} {xs : List α} : xs.map f = xs ↔ ∀ x ∈ xs, f x = x := by
  have hmap : xs.map f = xs.map id ↔ ∀ x ∈ xs, f x = id x := List.map_eq_map_iff
  rwa [List.map_id] at hmap

theorem orElse_str (s : String) : (Json.str s).orElse (.str "") = .str s := by
  by_cases hs : s = ""
  · subst hs
    rfl
  · exact orElse_of_isGiven (by simp [hs])

theorem orElse_obj (fs : List (String × Json)) : (Json.obj fs).orElse (.obj []) = .obj fs := by
  cases fs <;> rfl

/-- A default is not replaced once more. -/
theorem Json.orElse_orElse (v default : Json) :
    (v.orElse default).orElse default = v.orElse default := by
  cases h : v.isGiven with
  | true => rw [orElse_of_isGiven h, orElse_of_isGiven h]
  | false =>
      unfold orElse
      simp [h]

theorem Json.isGiven_orElse {v default : Json} (h : default.isGiven = true) :
    (v.orElse default).isGiven = true := by
  unfold orElse
  split
  · assumption
  · exact h

/-- What was read with a default keeps it. -/
theorem Json.orElse_of_givenOr {j v : Json} {name : String} {default : Json}
    (h : j.givenOr name default = .ok v) : v.orElse default = v := by
  obtain ⟨w, -, rfl⟩ := map_eq_ok_iff.mp h
  exact orElse_orElse w default

end Questbook
