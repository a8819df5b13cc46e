import Questbook.Proofs.Json.Fields

set_option autoImplicit false

/-! # Lists with entries that are skipped

A list of entries is read leniently: an entry gives something or is skipped, and only some of the faults in
an entry break the reading off (`ReadsEntry`). What is read from a list is what its entries give, in their
order (`filterMap_of_records`), unless one of them breaks the reading off or there is no list at all
(`records_eq_error_iff_breaks`).
-/

namespace Questbook.Json

/-- **What breaks off the reading of the entries that a field lists:** a number in the place of a list, or
the first entry that `breaks`. -/
inductive ListBreaks (j : Json) (name : String) (breaks : Json → Fault → Prop) : Fault → Prop
  | notIterable (h : j.HasNumber name) : ListBreaks j name breaks .notIterable
  | entry {before after : List Json} {x : Json} {f : Fault}
      (hlisted : j.listed name = .ok (before ++ x :: after))
      (hbefore : ∀ y ∈ before, ∀ g, ¬ breaks y g) (hx : breaks x f) : ListBreaks j name breaks f

variable {α : Type} {entry : Json → Except Fault (Option α)} {entryOf? : Json → Option α}
  {breaks : Json → Fault → Prop}

/-- **Whether an entry is read** as what it gives, if it gives anything, or breaks the reading off. -/
structure ReadsEntry (entry : Json → Except Fault (Option α)) (entryOf? : Json → Option α)
    (breaks : Json → Fault → Prop) (x : Json) : Prop where
  gives : ∀ a?, entry x = .ok a? → a? = entryOf? x
  stops : ∀ f, entry x = .error f ↔ breaks x f

theorem ReadsEntry.of_ok {x : Json} (hentry : entry x = .ok (entryOf? x))
    (hnone : ∀ f, ¬ breaks x f) : ReadsEntry entry entryOf? breaks x := by
  refine ⟨fun a? ha => Except.ok.inj (ha.symm.trans hentry), fun f => ?_⟩
  rw [hentry]
  exact ⟨nofun, fun hf => absurd hf (hnone f)⟩

theorem ReadsEntry.exists_iff {x : Json} (h : ReadsEntry entry entryOf? breaks x) :
    (∃ a?, entry x = .ok a?) ↔ ∀ f, ¬ breaks x f := by
  cases hx : entry x with
  | ok a? =>
      refine ⟨fun _ f hf => ?_, fun _ => ⟨a?, rfl⟩⟩
      rw [← h.stops, hx] at hf
      cases hf
  | error f => exact ⟨nofun, fun hnone => absurd ((h.stops f).mp hx) (hnone f)⟩

theorem filterMap_of_mapM {xs : List Json} (h : ∀ x ∈ xs, ReadsEntry entry entryOf? breaks x)
    {found : List (Option α)} (hfound : xs.mapM entry = .ok found) :
    found.filterMap id = xs.filterMap entryOf? := by
  induction xs generalizing found with
  | nil =>
      cases hfound
      rfl
  | cons x xs ih =>
      obtain ⟨hx, hxs⟩ := List.forall_mem_cons.mp h
      rw [List.mapM_cons] at hfound
      obtain ⟨a?, ha, hfound⟩ := bind_eq_ok_iff.mp hfound
      obtain ⟨rest, hrest, hfound⟩ := bind_eq_ok_iff.mp hfound
      obtain rfl : a? :: rest = found := Except.ok.inj hfound
      rw [List.filterMap_cons, List.filterMap_cons, ih hxs hrest, ← hx.gives a? ha]
      rfl

/-- What reads a list entry by entry reads all entries and keeps what they give. -/
theorem read_eq_mapM (read : List Json → Except Fault (List α)) (hnil : read [] = .ok [])
    (hcons : ∀ x xs, read (x :: xs) =
      (entry x >>= fun a? => (read xs).map fun rest => a?.toList ++ rest)) (xs : List Json) :
    read xs = (xs.mapM entry).map fun found => found.filterMap id := by
  induction xs with
  | nil => exact hnil
  | cons x xs ih =>
      rw [hcons, List.mapM_cons, ih]
      cases entry x with
      | error f => rfl
      | ok a? => cases a? <;> cases xs.mapM entry <;> rfl

/-- What is made of the entries that a field lists. -/
theorem listed_bind_eq {β : Type} (read : List Json → Except Fault (List α)) (hnil : read [] = .ok [])
    (hcons : ∀ x xs, read (x :: xs) =
      (entry x >>= fun a? => (read xs).map fun rest => a?.toList ++ rest))
    (make : List α → β) (j : Json) (name : String) :
    (j.listed name >>= fun xs => read xs >>= fun found => pure (make found)) =
      (records entry j name).map fun found => make (found.filterMap id) := by
  unfold records
  cases j.listed name with
  | error f => rfl
  | ok xs =>
      show (read xs >>= fun found => pure (make found)) = (xs.mapM entry).map _
      rw [read_eq_mapM read hnil hcons]
      cases xs.mapM entry <;> rfl

section

variable {fs : List (String × Json)} {name : String}

/-- **What is read from a list** is what its entries give. -/
theorem filterMap_of_records
    (h : ∀ xs, (Json.obj fs).listed name = .ok xs → ∀ x ∈ xs, ReadsEntry entry entryOf? breaks x)
    {found : List (Option α)} (hfound : records entry (.obj fs) name = .ok found) :
    ∃ xs, (Json.obj fs).listed name = .ok xs ∧ found.filterMap id = xs.filterMap entryOf? := by
  obtain ⟨xs, hxs, hfound⟩ := bind_eq_ok_iff.mp hfound
  exact ⟨xs, hxs, filterMap_of_mapM (h xs hxs) hfound⟩

/-- **Nothing is read from a list** if its reading is broken off. -/
theorem records_eq_error_iff_breaks
    (h : ∀ xs, (Json.obj fs).listed name = .ok xs → ∀ x ∈ xs, ReadsEntry entry entryOf? breaks x)
    {f : Fault} :
    records entry (.obj fs) name = .error f ↔ (Json.obj fs).ListBreaks name breaks f := by
  unfold records
  rw [bind_eq_error_iff, listed_eq_error_iff]
  constructor
  · rintro (⟨rfl, hnumber⟩ | ⟨xs, hxs, hstop⟩)
    · exact .notIterable hnumber
    · -- what is read before the first fault does not break the reading off
      have hentries := h xs hxs
      obtain ⟨before, x, after, rfl, hbefore, hx⟩ := mapM_eq_error_iff.mp hstop
      refine .entry hxs (fun y hy => ?_) (((hentries x (by simp)).stops f).mp hx)
      exact (hentries y (by simp [hy])).exists_iff.mp (hbefore y hy)
  · intro hbreaks
    cases hbreaks with
    | notIterable hnumber => exact Or.inl ⟨rfl, hnumber⟩
    | @entry before after x f hlisted hbefore hx =>
        have hentries := h _ hlisted
        have hfirst : ∀ y ∈ before, ∃ a?, entry y = .ok a? :=
          fun y hy => (hentries y (by simp [hy])).exists_iff.mpr (hbefore y hy)
        have hstop := ((hentries x (by simp)).stops f).mpr hx
        exact Or.inr ⟨_, hlisted, mapM_eq_error_iff.mpr ⟨before, x, after, rfl, hfirst, hstop⟩⟩

end

end Questbook.Json
