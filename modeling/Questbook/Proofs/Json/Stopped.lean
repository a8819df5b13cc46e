import Questbook.Proofs.Json.RoundTrip

set_option autoImplicit false

/-! # Texts that break off

A value that cannot be written stops the writing in the midst. What has been written until then is
not a value, so it is not read (`readBytes_of_stopped`): a file that was not written to its end is
always found out.
-/

namespace Questbook.Json

open Text Numeral

/-- **Whether a text breaks off** before what a reader looks for is over. The reader's bound is twice
the length of the text and some `slack`. -/
structure BreaksOff {α : Type} (read : Nat → List Char → Except ReadFault α) (slack : Nat)
    (cs : List Char) : Prop where
  starts : StartsValue cs
  fails : ∀ fuel, 2 * cs.length + slack ≤ fuel → ∃ e, read fuel cs = .error e

theorem breaksOff_readValue_nil : BreaksOff readValue 0 [] := by
  refine ⟨startsValue_nil, ?_⟩
  intro fuel _
  cases fuel <;> exact ⟨.malformed, rfl⟩

theorem breaksOff_readFields_nil : BreaksOff readFields 1 [] := by
  refine ⟨startsValue_nil, ?_⟩
  intro fuel _
  cases fuel <;> exact ⟨.malformed, rfl⟩

/-- A list breaks off where its items do. -/
theorem BreaksOff.bracket {cs : List Char} (h : BreaksOff readItems 1 cs) (depth : Nat) :
    BreaksOff readValue 0 ('[' :: (lineGap depth ++ cs)) := by
  refine ⟨startsValue_cons (by decide), ?_⟩
  intro fuel hfuel
  rw [List.length_cons, List.length_append] at hfuel
  obtain ⟨fuel, rfl⟩ : ∃ k, fuel = k + 1 := ⟨fuel - 1, by omega⟩
  obtain ⟨e, he⟩ := h.fails fuel (by omega)
  rw [readValue_bracket h.starts, he]
  exact ⟨e, rfl⟩

/-- An object breaks off where its fields do. -/
theorem BreaksOff.brace {cs : List Char} (h : BreaksOff readFields 1 cs) (depth : Nat) :
    BreaksOff readValue 0 ('{' :: (lineGap depth ++ cs)) := by
  refine ⟨startsValue_cons (by decide), ?_⟩
  intro fuel hfuel
  rw [List.length_cons, List.length_append] at hfuel
  obtain ⟨fuel, rfl⟩ : ∃ k, fuel = k + 1 := ⟨fuel - 1, by omega⟩
  obtain ⟨e, he⟩ := h.fails fuel (by omega)
  rw [readValue_brace h.starts, he]
  exact ⟨e, rfl⟩

/-- The first of the items breaks off. -/
theorem BreaksOff.firstItem {cs : List Char} (h : BreaksOff readValue 0 cs) :
    BreaksOff readItems 1 cs := by
  refine ⟨h.starts, ?_⟩
  intro fuel hfuel
  obtain ⟨fuel, rfl⟩ : ∃ k, fuel = k + 1 := ⟨fuel - 1, by omega⟩
  obtain ⟨e, he⟩ := h.fails fuel (by omega)
  rw [readItems, he]
  exact ⟨e, rfl⟩

/-- The text is over after an item. -/
theorem breaksOff_afterItem {x : Json} (hplain : x.Plain) {depth : Nat}
    (hwhole : stoppedAt? lines depth x = none) : BreaksOff readItems 1 (written lines depth x) := by
  have hstarts := startsValue_written lines depth hplain []
  rw [List.append_nil] at hstarts
  refine ⟨hstarts, ?_⟩
  intro fuel hfuel
  obtain ⟨fuel, rfl⟩ : ∃ k, fuel = k + 1 := ⟨fuel - 1, by omega⟩
  have hread := readValue_written hplain depth hwhole (Nat.le_of_succ_le_succ hfuel) endsNumber_nil
  rw [List.append_nil] at hread
  rw [readItems, hread]
  exact ⟨.malformed, rfl⟩

/-- The items after the first break off. -/
theorem BreaksOff.nextItem {cs : List Char} (h : BreaksOff readItems 1 cs) {x : Json}
    (hplain : x.Plain) {depth : Nat} (hwhole : stoppedAt? lines depth x = none) :
    BreaksOff readItems 1 (written lines depth x ++ ',' :: (lineGap depth ++ cs)) := by
  refine ⟨startsValue_written lines depth hplain _, ?_⟩
  intro fuel hfuel
  simp only [List.length_append, List.length_cons] at hfuel
  obtain ⟨fuel, rfl⟩ : ∃ k, fuel = k + 1 := ⟨fuel - 1, by omega⟩
  obtain ⟨e, he⟩ := h.fails fuel (by omega)
  have hread : readValue fuel (written lines depth x ++ ',' :: (lineGap depth ++ cs)) =
      .ok (x, ',' :: (lineGap depth ++ cs)) :=
    readValue_written hplain depth hwhole (by omega) (endsNumber_cons (by decide))
  rw [readItems_next hread h.starts, he]
  exact ⟨e, rfl⟩

/-- The value of the first of the fields breaks off. -/
theorem BreaksOff.firstField {cs : List Char} (h : BreaksOff readValue 0 cs) {name : String}
    (hname : hasHalf name = false) :
    BreaksOff readFields 1 (writtenText name ++ ':' :: ' ' :: cs) := by
  refine ⟨startsValue_writtenText name _, ?_⟩
  intro fuel hfuel
  simp only [List.length_append, List.length_cons] at hfuel
  obtain ⟨fuel, rfl⟩ : ∃ k, fuel = k + 1 := ⟨fuel - 1, by omega⟩
  obtain ⟨e, he⟩ := h.fails fuel (by omega)
  rw [readFields_writtenText hname h.starts, he]
  exact ⟨e, rfl⟩

/-- The fields after the first break off. -/
theorem BreaksOff.nextField {cs : List Char} (h : BreaksOff readFields 1 cs) {name : String}
    (hname : hasHalf name = false) {x : Json} (hplain : x.Plain) {depth : Nat}
    (hwhole : stoppedAt? lines depth x = none) :
    BreaksOff readFields 1 (writtenText name ++ ':' :: ' ' ::
      (written lines depth x ++ ',' :: (lineGap depth ++ cs))) := by
  refine ⟨startsValue_writtenText name _, ?_⟩
  intro fuel hfuel
  simp only [List.length_append, List.length_cons] at hfuel
  obtain ⟨fuel, rfl⟩ : ∃ k, fuel = k + 1 := ⟨fuel - 1, by omega⟩
  obtain ⟨e, he⟩ := h.fails fuel (by omega)
  have hread : readValue fuel (written lines depth x ++ ',' :: (lineGap depth ++ cs)) =
      .ok (x, ',' :: (lineGap depth ++ cs)) :=
    readValue_written hplain depth hwhole (by omega) (endsNumber_cons (by decide))
  rw [readFields_writtenText hname (startsValue_written lines depth hplain _), hread,
    readAfterField_next name h.starts, he]
  exact ⟨e, rfl⟩

/-! ## Stopped texts -/

theorem isAtom_of_hindrance? {j : Json} (h : (hindrance? j).isSome = true) : j.isAtom = true := by
  cases j with
  | arr xs => cases h
  | obj fs => cases h
  | _ => rfl

mutual

/-- **What has been written of a value when the writing is stopped** breaks off. -/
theorem breaksOff_of_stoppedAt? {j : Json} (hplain : j.Plain) {depth : Nat} {t : List Char}
    {f : Fault} (h : stoppedAt? lines depth j = some (t, f)) : BreaksOff readValue 0 t := by
  by_cases hatom : j.isAtom = true
  · rw [stoppedAt?_of_isAtom hatom] at h
    obtain ⟨g, -, hg⟩ := Option.map_eq_some_iff.mp h
    cases hg
    exact breaksOff_readValue_nil
  · rcases exists_parts hatom with ⟨x, xs, hj⟩ | ⟨name, x, fs, hj⟩
    · rw [hj] at hplain h
      rw [stoppedAt?] at h
      rcases breaksOff_of_stoppedInItems? hplain h with rfl | ⟨u, rfl, hu⟩
      · exact breaksOff_readValue_nil
      · exact hu.bracket (depth + 1)
    · rw [hj] at hplain h
      rw [stoppedAt?] at h
      obtain ⟨u, rfl, hu⟩ := breaksOff_of_stoppedInFields? hplain.2 h
      exact hu.brace (depth + 1)
termination_by sizeOf j
decreasing_by
  all_goals
    rw [hj]
    simp

/-- The same for items, of which nothing may have been written. -/
theorem breaksOff_of_stoppedInItems? {xs : List Json} (hplain : PlainItems xs) {depth : Nat}
    {lead t : List Char} {f : Fault} (h : stoppedInItems? lines depth lead xs = some (t, f)) :
    t = [] ∨ ∃ u, t = lead ++ u ∧ BreaksOff readItems 1 u := by
  cases xs with
  | nil => cases h
  | cons x xs =>
      rw [stoppedInItems?] at h
      split at h
      · next u g hx =>
        cases h
        by_cases hatom : (hindrance? x).isSome = true
        · rw [stoppedAt?_of_isAtom (isAtom_of_hindrance? hatom)] at hx
          obtain ⟨g', -, hg'⟩ := Option.map_eq_some_iff.mp hx
          cases hg'
          rw [if_pos hatom]
          exact Or.inl rfl
        · rw [if_neg hatom]
          exact Or.inr ⟨u, rfl, (breaksOff_of_stoppedAt? hplain.1 hx).firstItem⟩
      · next hx =>
        obtain ⟨⟨u, g⟩, hu, heq⟩ := Option.map_eq_some_iff.mp h
        cases heq
        refine Or.inr ⟨written lines depth x ++ u, List.append_assoc _ _ _, ?_⟩
        rcases breaksOff_of_stoppedInItems? hplain.2 hu with rfl | ⟨v, rfl, hv⟩
        · rw [List.append_nil]
          exact breaksOff_afterItem hplain.1 hx
        · exact hv.nextItem hplain.1 hx
termination_by sizeOf xs

/-- The same for fields. -/
theorem breaksOff_of_stoppedInFields? {fs : List (String × Json)} (hplain : PlainFields fs)
    {depth : Nat} {lead t : List Char} {f : Fault}
    (h : stoppedInFields? lines depth lead fs = some (t, f)) :
    ∃ u, t = lead ++ u ∧ BreaksOff readFields 1 u := by
  cases fs with
  | nil => cases h
  | cons field fs =>
      have hsize : sizeOf field = 1 + sizeOf field.1 + sizeOf field.2 := rfl
      obtain ⟨hx, hfs⟩ : field.2.Plain ∧ PlainFields fs := hplain
      have hstopped : stoppedInFields? lines depth lead ((field.1, field.2) :: fs) = some (t, f) := h
      rw [stoppedInFields?] at hstopped
      split at hstopped
      · cases hstopped
        exact ⟨[], (List.append_nil _).symm, breaksOff_readFields_nil⟩
      · next hindered =>
        have hname := hasHalf_of_hindrance? hindered
        split at hstopped
        · next u g hstop =>
          cases hstopped
          refine ⟨writtenText field.1 ++ ':' :: ' ' :: u, List.append_assoc _ _ _, ?_⟩
          exact (breaksOff_of_stoppedAt? hx hstop).firstField hname
        · next hwhole =>
          obtain ⟨⟨u, g⟩, hu, heq⟩ := Option.map_eq_some_iff.mp hstopped
          cases heq
          obtain ⟨v, rfl, hv⟩ := breaksOff_of_stoppedInFields? hfs hu
          refine ⟨_, ?_, hv.nextField hname hx hwhole⟩
          simp [lines]
termination_by sizeOf fs
decreasing_by
  all_goals
    subst_vars
    simp only [List.cons.sizeOf_spec]
    omega

end

/-! ## Documents -/

/-- **A text that was not written to its end is not read.** -/
theorem readChars_of_stopped {j : Json} (hplain : j.Plain) {t : List Char} {f : Fault}
    (h : stoppedAt? lines 0 j = some (t, f)) : ∃ e, readChars t = .error e := by
  have hbreaks := breaksOff_of_stoppedAt? hplain h
  obtain ⟨e, he⟩ := hbreaks.fails (2 * t.length + 2) (by omega)
  unfold readChars
  rw [skipGap_of_startsValue hbreaks.starts, he]
  exact ⟨e, rfl⟩

/-- The same for its bytes. -/
theorem readBytes_of_stopped {j : Json} (hplain : j.Plain) {t : List Char} {f : Fault}
    (h : stoppedAt? lines 0 j = some (t, f)) :
    ∃ e, readBytes (String.ofList t).toUTF8 = .error e := by
  obtain ⟨e, he⟩ := readChars_of_stopped hplain h
  refine ⟨e, ?_⟩
  unfold readBytes
  rw [fromUTF8?_toUTF8]
  show readChars (String.ofList t).toList = _
  rw [String.toList_ofList, he]

end Questbook.Json
