import Questbook.Proofs.Combat.Bands
import Questbook.Proofs.Json.Entries

set_option autoImplicit false

/-! # Reading combat tables

Of the entries of a table, those that are no objects are skipped, and so are the objects with a value of
the wrong type or content. What is left of the table are the bands that the entries state, sorted stably
(`CombatTable.sortedStably_of_ofJson`).

Two things are not skipped but break the reading off (`RatioBand.Breaks`): an infinite number where a whole
one is needed, and a row that is a list or a text.
-/

namespace Questbook

open Json

/-- **The band that an entry of a table states,** if it is an object that states one. -/
def bandOf? : Json → Option RatioBand
  | .obj fs => (RatioBand.ofJson (.obj fs)).toOption
  | _ => none

/-- **What in a row breaks off the reading of a table.** -/
def CombatRow.Breaks (j : Json) (f : Fault) : Prop :=
  (f = .notRecord ∧ j.IsNoRecord "roll") ∨
    (f = .infinite ∧ j.MeetsInfinity ["roll", "playerLoss", "enemyLoss"])

/-- **What in a band breaks off the reading of a table:** an infinite bound, or the first of its rows that
is not read, behind bounds that are whole numbers. -/
def RatioBand.Breaks (j : Json) (f : Fault) : Prop :=
  (f = .infinite ∧ j.MeetsInfinity ["min", "max"]) ∨
    (j.HasWhole "min" ∧ j.HasWhole "max" ∧
      j.StopsAt "rolls" CombatRow.ofJson fun row => CombatRow.Breaks row f)

theorem RatioBand.Breaks.exists_obj {j : Json} {f : Fault} (h : RatioBand.Breaks j f) :
    ∃ fs, j = .obj fs := by
  rcases h with ⟨-, h⟩ | ⟨h, -⟩
  · exact h.exists_obj
  · exact h.exists_obj

/-- What breaks the reading off is no value of the wrong type or content. -/
theorem RatioBand.Breaks.not_inTypeOrContent {j : Json} {f : Fault} (h : RatioBand.Breaks j f) :
    f.inTypeOrContent = false := by
  rcases h with ⟨rfl, -⟩ | ⟨-, -, _, _, _, -, -, ⟨rfl, -⟩ | ⟨rfl, -⟩⟩
  all_goals rfl

theorem CombatRow.passesOn_ofJson (j : Json) :
    PassesOn Fault.inTypeOrContent (CombatRow.ofJson j) (CombatRow.Breaks j) := by
  by_cases hobj : ∃ fs, j = .obj fs
  · obtain ⟨fs, rfl⟩ := hobj
    have hnumbers : OverflowsIf Fault.inTypeOrContent (CombatRow.ofJson (.obj fs))
        ((Json.obj fs).MeetsInfinity ["roll", "playerLoss", "enemyLoss"]) :=
      (overflowsIf_wholeOr_obj fs "roll" 0).wholeOr_bind fun _ =>
        (overflowsIf_wholeOr_obj fs "playerLoss" 0).wholeOr_bind fun _ =>
          (overflowsIf_wholeOr_obj fs "enemyLoss" 0).wholeOr_bind fun _ =>
            overflowsIf_nil (failsOnlyBy_ok _) _
    exact PassesOn.congr hnumbers fun f => by simp [Breaks, IsNoRecord]
  · -- the first field is not read
    intro f hf
    have hroll : ∀ n, j.wholeOr "roll" 0 ≠ .ok n :=
      fun n hn => hobj (exists_wholeOr_iff.mp ⟨n, hn⟩).exists_obj
    have hinfinite : ¬ j.HasInfinite "roll" := fun h => hobj h.exists_obj
    have hmeets : ¬ j.MeetsInfinity ["roll", "playerLoss", "enemyLoss"] := fun h => hobj h.exists_obj
    unfold CombatRow.ofJson Breaks
    rw [bind_eq_error_iff, passesOn_wholeOr j "roll" 0 f hf]
    simp [hroll, hinfinite, hmeets]

theorem failsByType_listed_obj (fs : List (String × Json)) (name : String) :
    FailsOnlyBy (fun f => f.inTypeOrContent = true) ((Json.obj fs).listed name) := by
  intro f hf
  obtain ⟨rfl, -⟩ := listed_eq_error_iff.mp hf
  rfl

theorem RatioBand.passesOn_ofJson (fs : List (String × Json)) :
    PassesOn Fault.inTypeOrContent (RatioBand.ofJson (.obj fs)) (RatioBand.Breaks (.obj fs)) := by
  have hrows := passesOn_records (failsByType_listed_obj fs "rolls") CombatRow.passesOn_ofJson
  have hread := PassesOn.bind (overflowsIf_wholeOr_obj fs "min" 0) fun min =>
    PassesOn.bind (overflowsIf_wholeOr_obj fs "max" 0) fun max =>
      PassesOn.bind hrows fun rows => (failsOnlyBy_ok (RatioBand.mk min max rows)).passesOn
  refine PassesOn.congr hread fun f => ?_
  -- the rows are reached behind two bounds; `Breaks` sorts by what is at fault instead
  simp only [exists_and_right, exists_wholeOr_iff, and_false, exists_false, or_false, Breaks,
    MeetsInfinity]
  constructor
  · rintro (⟨hf, hmin⟩ | ⟨hmin, ⟨hf, hmax⟩ | ⟨hmax, hstop⟩⟩)
    · exact Or.inl ⟨hf, Or.inl hmin⟩
    · exact Or.inl ⟨hf, Or.inr ⟨hmin, hmax⟩⟩
    · exact Or.inr ⟨hmin, hmax, hstop⟩
  · rintro (⟨hf, hmin | ⟨hmin, hmax⟩⟩ | ⟨hmin, hmax, hstop⟩)
    · exact Or.inl ⟨hf, hmin⟩
    · exact Or.inr ⟨hmin, Or.inl ⟨hf, hmax⟩⟩
    · exact Or.inr ⟨hmin, Or.inr ⟨hmax, hstop⟩⟩

/-! ## Tables -/

namespace CombatTable

/-- One entry of a table: a band, or nothing if it is skipped. -/
def bandEntry : Json → Except Fault (Option RatioBand)
  | .obj fs =>
    match RatioBand.ofJson (.obj fs) with
    | .ok b => .ok (some b)
    | .error f => if f.inTypeOrContent then .ok none else .error f
  | _ => .ok none

theorem readBands_cons (j : Json) (js : List Json) :
    readBands (j :: js) =
      (bandEntry j >>= fun b? => (readBands js).map fun bands => b?.toList ++ bands) := by
  cases j with
  | obj fs =>
      rw [readBands, bandEntry]
      cases RatioBand.ofJson (.obj fs) with
      | ok b => cases readBands js <;> rfl
      | error f =>
          cases hf : f.inTypeOrContent with
          | true => cases readBands js <;> simp [hf, bind, Except.bind, Except.map]
          | false => simp [hf, bind, Except.bind]
  | _ =>
      show readBands js = _
      cases readBands js <;> rfl

theorem readsEntry_of_ok {fs : List (String × Json)} {b : RatioBand}
    (h : RatioBand.ofJson (.obj fs) = .ok b) :
    ReadsEntry bandEntry bandOf? RatioBand.Breaks (.obj fs) := by
  have hentry : bandEntry (.obj fs) = .ok (some b) := by rw [bandEntry, h]
  have hband : bandOf? (.obj fs) = some b := by
    rw [bandOf?, h]
    rfl
  rw [← hband] at hentry
  refine .of_ok hentry fun f hf => ?_
  have herror := (RatioBand.passesOn_ofJson fs f hf.not_inTypeOrContent).mpr hf
  rw [h] at herror
  cases herror

theorem readsEntry_of_error {fs : List (String × Json)} {f : Fault}
    (h : RatioBand.ofJson (.obj fs) = .error f) :
    ReadsEntry bandEntry bandOf? RatioBand.Breaks (.obj fs) := by
  have hbreaks : ∀ g, RatioBand.Breaks (.obj fs) g → f = g := by
    intro g hg
    have herror := (RatioBand.passesOn_ofJson fs g hg.not_inTypeOrContent).mpr hg
    exact Except.error.inj (h.symm.trans herror)
  cases hf : f.inTypeOrContent with
  | true =>
      -- the entry is skipped, and nothing that is skipped breaks the reading off
      have hentry : bandEntry (.obj fs) = .ok (bandOf? (.obj fs)) := by
        simp [bandEntry, bandOf?, h, hf, Except.toOption]
      refine .of_ok hentry fun g hg => ?_
      have hcaught := hg.not_inTypeOrContent
      rw [← hbreaks g hg, hf] at hcaught
      cases hcaught
  | false =>
      have hentry : bandEntry (.obj fs) = .error f := by simp [bandEntry, h, hf]
      refine ⟨fun a? ha => ?_, fun g => ?_⟩
      · rw [hentry] at ha
        cases ha
      · rw [hentry]
        constructor
        · rintro ⟨⟩
          exact (RatioBand.passesOn_ofJson fs f hf).mp h
        · intro hg
          rw [hbreaks g hg]

/-- **An entry of a table is read** as the band that it states, is skipped, or breaks the reading
off. -/
theorem readsEntry_bandEntry (j : Json) : ReadsEntry bandEntry bandOf? RatioBand.Breaks j := by
  by_cases hobj : ∃ fs, j = .obj fs
  · obtain ⟨fs, rfl⟩ := hobj
    cases h : RatioBand.ofJson (.obj fs) with
    | ok b => exact readsEntry_of_ok h
    | error f => exact readsEntry_of_error h
  · have hentry : bandEntry j = .ok (bandOf? j) := by
      cases j with
      | obj fs => exact absurd ⟨fs, rfl⟩ hobj
      | _ => rfl
    exact .of_ok hentry fun f hf => hobj hf.exists_obj

theorem ofJson_obj (fs : List (String × Json)) :
    ofJson (.obj fs) =
      (records bandEntry (.obj fs) "ratios").map fun found => ofBands (found.filterMap id) := by
  cases fs with
  | nil => rfl
  | cons field fs => exact listed_bind_eq readBands rfl readBands_cons ofBands _ "ratios"

/-- **A table keeps the bands that its entries state,** sorted stably. -/
theorem sortedStably_of_ofJson {fs : List (String × Json)} {t : CombatTable}
    (h : ofJson (.obj fs) = .ok t) :
    ∃ js, (Json.obj fs).listed "ratios" = .ok js ∧ SortedStably t.bands (js.filterMap bandOf?) := by
  rw [ofJson_obj] at h
  obtain ⟨found, hfound, rfl⟩ := map_eq_ok_iff.mp h
  obtain ⟨js, hjs, hkept⟩ := filterMap_of_records (fun _ _ j _ => readsEntry_bandEntry j) hfound
  refine ⟨js, hjs, ?_⟩
  rw [hkept]
  exact sortedStably_sortBands _

/-- **A table is not read** exactly if the reading of its entries is broken off. -/
theorem ofJson_eq_error_iff {fs : List (String × Json)} {f : Fault} :
    ofJson (.obj fs) = .error f ↔ (Json.obj fs).ListBreaks "ratios" RatioBand.Breaks f := by
  rw [ofJson_obj, map_eq_error_iff]
  exact records_eq_error_iff_breaks fun _ _ j _ => readsEntry_bandEntry j

end CombatTable

end Questbook
