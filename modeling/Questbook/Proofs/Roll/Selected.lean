import Questbook.Roll.Outcomes

set_option autoImplicit false

/-! # The choices that a roll selects

A roll that is a whole number selects a choice if one of its outcomes holds it
(`exists_selectedBy`). Which labels are selected does not depend on the order of the choices, and a label
that stands for several choices is selected if the roll selects one of them.
-/

namespace Questbook

variable {κ : Type} [DecidableEq κ]

/-- Whether one of the outcomes of a choice holds a roll. -/
def Choice.Answers (c : Choice) (roll : Int) : Prop :=
  ∃ o ∈ c.outcomes, o.holds roll = true

theorem Choice.answers_int (c : Choice) (roll : Int) :
    ∃ b, c.answers (.int roll) = .ok b ∧ (b = true ↔ c.Answers roll) := by
  have hanswers : c.answers (.int roll) =
      .ok (!(c.outcomes.filter fun o => o.holds roll).isEmpty) := by
    unfold answers
    rw [c.matching_int]
    rfl
  refine ⟨_, hanswers, ?_⟩
  unfold Answers
  simp

/-- **What a roll selects** behind the labels that have been seen. -/
theorem exists_selectedAfter (roll : Int) (choices : List (κ × Choice)) (seen : List κ) :
    ∃ labels, selectedAfter (.int roll) seen (choices.map some) = .ok labels ∧
      ∀ k, k ∈ labels ↔ k ∉ seen ∧ ∃ c, (k, c) ∈ choices ∧ c.Answers roll := by
  -- a label is seen from the first choice on that is selected under it
  induction choices generalizing seen with
  | nil => exact ⟨[], rfl, by simp⟩
  | cons entry rest ih =>
      obtain ⟨label, choice⟩ := entry
      rw [List.map_cons, selectedAfter]
      by_cases hseen : label ∈ seen
      · obtain ⟨labels, hlabels, hmem⟩ := ih seen
        rw [if_pos hseen]
        refine ⟨labels, hlabels, fun k => (hmem k).trans (and_congr_right fun hnew => ?_)⟩
        -- a label that has not been seen is not that of the choice in front
        have hother : k ≠ label := fun hk => hnew (hk ▸ hseen)
        simp [hother]
      · obtain ⟨b, hb, hanswers⟩ := choice.answers_int roll
        rw [if_neg hseen, hb]
        cases b with
        | true =>
            obtain ⟨labels, hlabels, hmem⟩ := ih (label :: seen)
            refine ⟨label :: labels, ?_, fun k => ?_⟩
            · show (do pure (label :: (← selectedAfter (.int roll) (label :: seen) (rest.map some)))) = _
              rw [hlabels]
              rfl
            · rw [List.mem_cons, hmem]
              by_cases hk : k = label
              · have hchoice : choice.Answers roll := hanswers.mp rfl
                simp only [hk, true_or, true_iff]
                exact ⟨hseen, choice, List.mem_cons_self, hchoice⟩
              · simp [hk]
        | false =>
            obtain ⟨labels, hlabels, hmem⟩ := ih seen
            refine ⟨labels, hlabels, fun k => (hmem k).trans (and_congr_right fun _ => ?_)⟩
            have hsilent : ¬ choice.Answers roll := fun h => Bool.false_ne_true (hanswers.mpr h)
            constructor
            · rintro ⟨c, hc, h⟩
              exact ⟨c, List.mem_cons_of_mem _ hc, h⟩
            · rintro ⟨c, hc, h⟩
              rcases List.mem_cons.mp hc with heq | hc
              · cases heq
                exact absurd h hsilent
              · exact ⟨c, hc, h⟩

/-- The labels of the choices of a section that a roll selects, under labels for their places. -/
def Section.selectedUnder (s : Section) (label : Nat → κ) (roll : Json) : Except Fault (List κ) :=
  Questbook.selectedBy roll (s.choices.zipIdx.map fun c => some (label c.2, c.1))

/-- Where each place is its own label, these are the choices that the section selects. -/
theorem Section.selectedUnder_id (s : Section) (roll : Json) :
    s.selectedUnder (fun place => place) roll = s.selectedBy roll := rfl

/-- **A label is selected if a choice that it stands for answers the roll.** -/
theorem Section.exists_selectedUnder (s : Section) (label : Nat → κ) (roll : Int) :
    ∃ labels, s.selectedUnder label (.int roll) = .ok labels ∧
      ∀ k, k ∈ labels ↔ ∃ i c, s.choices[i]? = some c ∧ label i = k ∧ c.Answers roll := by
  have hentries : s.choices.zipIdx.map (fun c => some (label c.2, c.1)) =
      (s.choices.zipIdx.map fun c => (label c.2, c.1)).map some := by
    rw [List.map_map]
    rfl
  obtain ⟨labels, hlabels, hmem⟩ :=
    exists_selectedAfter roll (s.choices.zipIdx.map fun c => (label c.2, c.1)) []
  refine ⟨labels, ?_, fun k => (hmem k).trans ?_⟩
  · unfold selectedUnder Questbook.selectedBy
    rw [hentries]
    exact hlabels
  · constructor
    · rintro ⟨-, c, hc, hanswers⟩
      obtain ⟨entry, hentry, hpair⟩ := List.mem_map.mp hc
      obtain ⟨hlabel, hchoice⟩ := Prod.mk.inj hpair
      have hplace := List.mem_zipIdx_iff_getElem?.mp hentry
      exact ⟨entry.2, c, hchoice ▸ hplace, hlabel, hanswers⟩
    · rintro ⟨i, c, hi, rfl, hanswers⟩
      refine ⟨List.not_mem_nil, c, List.mem_map.mpr ⟨(c, i), ?_, rfl⟩, hanswers⟩
      exact List.mem_zipIdx_iff_getElem?.mpr hi

end Questbook
