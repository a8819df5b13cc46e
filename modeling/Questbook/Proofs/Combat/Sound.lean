import Questbook.Combat.Table
import Questbook.Proofs.Outcome

set_option autoImplicit false

/-! # Sound tables

A combat table is *sound* (`CombatTable.Sound`) if it has bands, all of them with rows and none of them
reversed, and if each band begins after the bands before it have ended. Nothing is found wrong with a
table just when it is sound (`problems_eq_nil_iff`). The search for problems compares neighbours only,
and this is enough: what ends before the next band begins ends before it ends, too.
-/

namespace Questbook.CombatTable

variable {b : RatioBand} {previous : Option RatioBand} {bs : List RatioBand} {t : CombatTable}

/-- **Whether a table is sound.** -/
structure Sound (t : CombatTable) : Prop where
  nonempty : t.bands ≠ []
  rows : ∀ b ∈ t.bands, b.rows ≠ []
  bounds : ∀ b ∈ t.bands, b.min ≤ b.max
  apart : t.bands.Pairwise fun b c => b.max < c.min

/-! ## Lists of problems -/

/-- The text of a problem, if the problem is there. -/
def noted (problem : Prop) [Decidable problem] (text : Except Fault String) :
    Except Fault (List String) :=
  if problem then text >>= fun t => pure [t] else pure []

/-- Problems, and then further ones. -/
def joined (first second : Except Fault (List String)) : Except Fault (List String) :=
  first >>= fun xs => second >>= fun ys => pure (xs ++ ys)

theorem noted_eq_nil_iff {problem : Prop} [Decidable problem] {text : Except Fault String} :
    noted problem text = .ok [] ↔ ¬ problem := by
  unfold noted
  split
  · next h =>
    refine iff_of_false (fun hnil => ?_) (not_not_intro h)
    obtain ⟨t, -, ht⟩ := bind_eq_ok_iff.mp hnil
    cases ht
  · next h => exact iff_of_true rfl h

theorem joined_eq_nil_iff {first second : Except Fault (List String)} :
    joined first second = .ok [] ↔ first = .ok [] ∧ second = .ok [] := by
  constructor
  · intro h
    obtain ⟨xs, hxs, hrest⟩ := bind_eq_ok_iff.mp h
    obtain ⟨ys, hys, hall⟩ := bind_eq_ok_iff.mp hrest
    obtain ⟨rfl, rfl⟩ := List.append_eq_nil_iff.mp (Except.ok.inj hall)
    exact ⟨hxs, hys⟩
  · rintro ⟨rfl, rfl⟩
    rfl

/-! ## The problems of a table -/

/-- Whether a band overlaps the one before it. -/
def overlapNoted (previous : Option RatioBand) (b : RatioBand) : Except Fault (List String) :=
  match previous with
  | some p => noted (b.min ≤ p.max) (boundsText b >>= fun t => (boundsText p).map fun u =>
      "Ratio band " ++ t ++ " overlaps " ++ u ++ ".")
  | none => pure []

theorem bandProblems_eq (previous : Option RatioBand) (b : RatioBand) :
    bandProblems previous b =
      joined (noted (b.max < b.min) ((boundsText b).map fun t =>
          "Ratio band " ++ t ++ " has min greater than max."))
        (joined (noted (b.rows.isEmpty = true) ((boundsText b).map fun t =>
            "Ratio band " ++ t ++ " has no rolls."))
          (overlapNoted previous b)) := by
  unfold bandProblems overlapNoted noted
  cases previous with
  | none =>
      dsimp only
      split <;> split <;> cases boundsText b <;> rfl
  | some p =>
      dsimp only
      split <;> split <;> split <;> cases boundsText b <;> cases boundsText p <;> rfl

theorem overlapNoted_eq_nil_iff :
    overlapNoted previous b = .ok [] ↔ ∀ p ∈ previous, p.max < b.min := by
  cases previous with
  | none => exact iff_of_true rfl nofun
  | some p =>
      refine noted_eq_nil_iff.trans ⟨fun h q hq => ?_, fun h => Int.not_le.mpr (h p rfl)⟩
      cases hq
      exact Int.not_le.mp h

/-- **When nothing is wrong with a band.** -/
theorem bandProblems_eq_nil_iff :
    bandProblems previous b = .ok [] ↔
      b.min ≤ b.max ∧ b.rows ≠ [] ∧ ∀ p ∈ previous, p.max < b.min := by
  rw [bandProblems_eq, joined_eq_nil_iff, joined_eq_nil_iff, noted_eq_nil_iff, noted_eq_nil_iff,
    overlapNoted_eq_nil_iff, Int.not_lt, List.isEmpty_iff]

/-- When nothing is wrong with bands that follow a given one. -/
theorem problemsAfter_eq_nil_iff :
    problemsAfter previous bs = .ok [] ↔
      (∀ b ∈ bs, b.rows ≠ []) ∧ (∀ b ∈ bs, b.min ≤ b.max) ∧
        (previous.toList ++ bs).Pairwise fun b c => b.max < c.min := by
  induction bs generalizing previous with
  | nil => cases previous <;> simp [problemsAfter]
  | cons b bs ih =>
      have hcons : problemsAfter previous (b :: bs) =
          joined (bandProblems previous b) (problemsAfter (some b) bs) := rfl
      rw [hcons, joined_eq_nil_iff, bandProblems_eq_nil_iff, ih, Option.toList_some,
        List.singleton_append, List.pairwise_append, List.forall_mem_cons, List.forall_mem_cons]
      constructor
      · rintro ⟨⟨hbounds, hrows, hprevious⟩, hrest, hbs, hpairs⟩
        refine ⟨⟨hrows, hrest⟩, ⟨hbounds, hbs⟩, by cases previous <;> simp, hpairs, ?_⟩
        intro p hp c hc
        have hb : p.max < b.min := hprevious p (Option.mem_toList.mp hp)
        rcases List.mem_cons.mp hc with rfl | hc
        · exact hb
        · -- a later band begins after this one has ended
          have hlater : b.max < c.min := List.rel_of_pairwise_cons hpairs hc
          omega
      · rintro ⟨⟨hrows, hrest⟩, ⟨hbounds, hbs⟩, -, hpairs, hprevious⟩
        exact ⟨⟨hbounds, hrows, fun p hp => hprevious p (Option.mem_toList.mpr hp) b
          (List.mem_cons_self ..)⟩, hrest, hbs, hpairs⟩

/-- **Nothing is wrong with sound tables, and with no others.** -/
theorem problems_eq_nil_iff : t.problems = .ok [] ↔ t.Sound := by
  unfold problems isEmpty
  cases hbands : t.bands with
  | nil => exact iff_of_false nofun fun h => h.nonempty hbands
  | cons b bs =>
      refine problemsAfter_eq_nil_iff.trans ⟨fun ⟨hrows, hbounds, hpairs⟩ => ?_, fun h => ?_⟩
      · rw [← hbands] at hrows hbounds hpairs
        exact ⟨by rw [hbands]; exact List.cons_ne_nil b bs, hrows, hbounds, hpairs⟩
      · rw [← hbands]
        exact ⟨h.rows, h.bounds, h.apart⟩

end Questbook.CombatTable
