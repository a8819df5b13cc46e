import Questbook.Json.Fields
import Questbook.Proofs.Outcome

set_option autoImplicit false

/-! # What holds of the parts of a value

A property of values is handed down when it holds of texts, of null and of the parts of every value that
has it (`HandsDown`). Then it holds of everything that is asked of such a value: of its fields with their
defaults, of what it lists, and of the values that its records are read from.
-/

namespace Questbook.Json

/-- **Whether a property of values is handed down** to the items of lists and the values of objects. -/
structure HandsDown (P : Json → Prop) : Prop where
  null : P .null
  str : ∀ s, P (.str s)
  items : ∀ {xs}, P (.arr xs) → ∀ x ∈ xs, P x
  fields : ∀ {fs}, P (.obj fs) → ∀ f ∈ fs, P f.2

theorem mem_of_field? {fs : List (String × Json)} {name : String} {v : Json}
    (h : field? name fs = some v) : (name, v) ∈ fs := by
  induction fs with
  | nil => cases h
  | cons f fs ih =>
      rw [field?] at h
      split at h
      · next hname =>
        cases h
        rw [← hname]
        exact List.mem_cons_self
      · exact List.mem_cons_of_mem f (ih h)

namespace HandsDown

variable {P : Json → Prop} {j default v : Json} {name : String}

theorem of_field (h : HandsDown P) (hj : P j) (hv : j.field name = .ok (some v)) : P v := by
  unfold field at hv
  split at hv
  · next fs =>
    split at hv
    · next w hw =>
      cases hv
      exact h.fields hj _ (mem_of_field? hw)
    · exact h.fields hj _ (mem_of_field? (Except.ok.inj hv))
  · cases hv
  · cases hv
  · cases hv

theorem of_fieldOr (h : HandsDown P) (hj : P j) (hdefault : P default)
    (hv : j.fieldOr name default = .ok v) : P v := by
  obtain ⟨w, hw, rfl⟩ := map_eq_ok_iff.mp hv
  cases w with
  | none => exact hdefault
  | some w => exact h.of_field hj hw

theorem orElse (hj : P j) (hdefault : P default) : P (j.orElse default) := by
  unfold Json.orElse
  split
  · exact hj
  · exact hdefault

theorem of_givenOr (h : HandsDown P) (hj : P j) (hdefault : P default)
    (hv : j.givenOr name default = .ok v) : P v := by
  obtain ⟨w, hw, rfl⟩ := map_eq_ok_iff.mp hv
  exact orElse (h.of_fieldOr hj hdefault hw) hdefault

theorem of_items (h : HandsDown P) (hj : P j) {xs : List Json} (hxs : j.items = .ok xs) :
    ∀ x ∈ xs, P x := by
  unfold Json.items at hxs
  split at hxs
  · cases hxs
    exact h.items hj
  · cases hxs
    intro x hx
    obtain ⟨f, -, rfl⟩ := List.mem_map.mp hx
    exact h.str f.1
  · cases hxs
    intro x hx
    obtain ⟨n, -, rfl⟩ := List.mem_map.mp hx
    exact h.str (Text.ofPoints [n])
  · cases hxs

theorem of_listed (h : HandsDown P) (hj : P j) {xs : List Json} (hxs : j.listed name = .ok xs) :
    ∀ x ∈ xs, P x := by
  obtain ⟨v, hv, hxs⟩ := bind_eq_ok_iff.mp hxs
  split at hxs
  · exact h.of_items (h.of_fieldOr hj h.null hv) hxs
  · cases hxs
    exact List.forall_mem_nil _

/-- The records of a list are read from values that have the property. -/
theorem exists_of_mem_records {α : Type} {readRecord : Json → Except Fault α} (h : HandsDown P)
    (hj : P j) {ys : List α} (hys : records readRecord j name = .ok ys) :
    ∀ y ∈ ys, ∃ x, P x ∧ readRecord x = .ok y := by
  obtain ⟨xs, hxs, hys⟩ := bind_eq_ok_iff.mp hys
  intro y hy
  obtain ⟨x, hx, hread⟩ := mem_of_mapM hys y hy
  exact ⟨x, h.of_listed hj hxs x hx, hread⟩

end HandsDown

end Questbook.Json
