import Mathlib.Data.List.Perm.Subperm
import Questbook.Proofs.NameMap

set_option autoImplicit false

/-! # Maps that are the same

Two maps are the same exactly if under every name they have the same value (`same_iff`): neither the
order of the entries nor the spelling of the names counts. For maps of whole numbers this is to have the
same numbers (`Whole.same_iff`); two such maps stay the same when a number is written or added under a name,
whatever spelling of it each of them is given (`SameWhole`).
-/

namespace Questbook

theorem Json.same_int {m n : Int} : Json.same (.int m) (.int n) = true ↔ m = n := by
  show decide (some (compare m n) = some Ordering.eq) = true ↔ m = n
  rw [decide_eq_true_eq, Option.some.injEq, Int.compare_eq_eq]

namespace NameMap

section

variable {α : Type} {m n : NameMap α}

theorem length_keysOf (m : NameMap α) : (keysOf m.entries).length = m.size :=
  List.length_map _

/-- A map with the names of another one and no more of them has no other names. -/
theorem keys_subset_of_size_eq (h : keysOf m.entries ⊆ keysOf n.entries) (hsize : m.size = n.size) :
    keysOf n.entries ⊆ keysOf m.entries := by
  have hlength : (keysOf n.entries).length ≤ (keysOf m.entries).length := by
    rw [length_keysOf, length_keysOf]
    exact Nat.le_of_eq hsize.symm
  exact ((m.distinct.subperm h).perm_of_length_le hlength).symm.subset

/-- Maps with the same names have as many of them. -/
theorem size_eq_of_keys (hmn : keysOf m.entries ⊆ keysOf n.entries)
    (hnm : keysOf n.entries ⊆ keysOf m.entries) : m.size = n.size := by
  rw [← length_keysOf, ← length_keysOf]
  exact Nat.le_antisymm (m.distinct.subperm hmn).length_le (n.distinct.subperm hnm).length_le

end

variable {m n : NameMap Json}

/-- Whether what two maps have under a name is missing in both, or the same. -/
def SameUnder (m n : NameMap Json) (name : String) : Prop :=
  Option.Rel (fun v w => Json.same v w = true) (m.get? name) (n.get? name)

/-- Whether the values of one map stand in another one. -/
theorem all_found_iff :
    (∀ e ∈ m.entries, (match n.get? e.1 with
      | some v => Json.same e.2 v
      | none => false) = true) ↔
    ∀ name v, m.get? name = some v → ∃ w, n.get? name = some w ∧ Json.same v w = true := by
  constructor
  · intro h name v hv
    obtain ⟨e, he, hname, rfl⟩ := entry_of_lookup? hv
    have hfound := h e he
    rw [n.get?_congr hname] at hfound
    cases hw : n.get? name with
    | none =>
        rw [hw] at hfound
        cases hfound
    | some w =>
        rw [hw] at hfound
        exact ⟨w, rfl, hfound⟩
  · intro h e he
    obtain ⟨w, hw, hsame⟩ := h e.1 e.2 (m.get?_of_mem he)
    rw [hw]
    exact hsame

theorem keys_subset_of_found {R : Json → Json → Prop}
    (h : ∀ name v, m.get? name = some v → ∃ w, n.get? name = some w ∧ R v w) :
    keysOf m.entries ⊆ keysOf n.entries := by
  intro key hkey
  obtain ⟨e, he, rfl⟩ := List.mem_map.mp hkey
  obtain ⟨w, hw, -⟩ := h e.1 e.2 (m.get?_of_mem he)
  rw [← contains_iff, contains, hw]
  rfl

/-- **Maps are the same** exactly if under every name they have the same value, or none. -/
theorem same_iff : m.same n = true ↔ ∀ name, SameUnder m n name := by
  unfold same
  rw [Bool.and_eq_true, decide_eq_true_eq, List.all_eq_true]
  refine (and_congr_right fun _ => all_found_iff).trans ?_
  unfold SameUnder
  constructor
  · rintro ⟨hsize, hfound⟩ name
    have hkeys := keys_subset_of_size_eq (keys_subset_of_found hfound) hsize
    cases hv : m.get? name with
    | some v =>
        obtain ⟨w, hw, hsame⟩ := hfound name v hv
        rw [hw]
        exact .some hsame
    | none =>
        -- no name of the second map is missing in the first
        have hmissing : n.get? name = none := by
          rw [← Option.not_isSome_iff_eq_none]
          intro hn
          have hm := (m.contains_iff name).mpr (hkeys ((n.contains_iff name).mp hn))
          rw [contains, hv] at hm
          cases hm
        rw [hmissing]
        exact .none
  · intro h
    have hmn : ∀ name v, m.get? name = some v → ∃ w, n.get? name = some w ∧ Json.same v w = true := by
      intro name v hv
      have hname := h name
      rw [hv] at hname
      generalize n.get? name = found at hname
      cases hname with
      | some hsame => exact ⟨_, rfl, hsame⟩
    have hnm : ∀ name w, n.get? name = some w → ∃ v, m.get? name = some v ∧ Json.same v w = true := by
      intro name w hw
      have hname := h name
      rw [hw] at hname
      generalize m.get? name = found at hname
      cases hname with
      | some hsame => exact ⟨_, rfl, hsame⟩
    exact ⟨size_eq_of_keys (keys_subset_of_found hmn) (keys_subset_of_found hnm), hmn⟩

/-- **Maps of whole numbers are the same** if they have the same number under every name. -/
theorem Whole.same_iff (hm : m.Whole) (hn : n.Whole) :
    m.same n = true ↔ ∀ name, m.whole? name = n.whole? name := by
  rw [NameMap.same_iff]
  refine forall_congr' fun name => ?_
  unfold SameUnder
  rw [hm.get?_eq, hn.get?_eq]
  cases m.whole? name <;> cases n.whole? name <;> simp [Json.same_int]

/-- **Whether two maps of whole numbers are the same.** -/
structure SameWhole (m n : NameMap Json) : Prop where
  left : m.Whole
  right : n.Whole
  same : m.same n = true

namespace SameWhole

variable {a b : String}

theorem whole?_eq (h : m.SameWhole n) (hname : Text.fold a = Text.fold b) :
    m.whole? a = n.whole? b := by
  rw [m.whole?_congr hname, (h.left.same_iff h.right).mp h.same]

theorem get?_eq (h : m.SameWhole n) (hname : Text.fold a = Text.fold b) : m.get? a = n.get? b := by
  rw [h.left.get?_eq, h.right.get?_eq, h.whole?_eq hname]

theorem contains_eq (h : m.SameWhole n) (hname : Text.fold a = Text.fold b) :
    m.contains a = n.contains b := by
  unfold contains
  rw [h.get?_eq hname]

theorem set (h : m.SameWhole n) (hname : Text.fold a = Text.fold b) (k : Int) :
    (m.set a (.int k)).SameWhole (n.set b (.int k)) := by
  refine ⟨h.left.set a k, h.right.set b k, ?_⟩
  rw [(h.left.set a k).same_iff (h.right.set b k)]
  intro name
  rw [whole?_set, whole?_set, hname, h.whole?_eq rfl]

theorem addUnder (h : m.SameWhole n) (hname : Text.fold a = Text.fold b) (delta : Int) :
    Both SameWhole (Questbook.addUnder m a delta) (Questbook.addUnder n b delta) := by
  rw [h.left.addUnder_eq, h.right.addUnder_eq, h.whole?_eq hname]
  exact both_ok (h.set hname _)

theorem updateUnder (h : m.SameWhole n) (hname : Text.fold a = Text.fold b) (u : Update) :
    Both SameWhole (Questbook.updateUnder m a u) (Questbook.updateUnder n b u) := by
  cases u with
  | set value => exact both_ok (h.set hname value)
  | shift delta => exact h.addUnder hname delta

end SameWhole

end NameMap

end Questbook
