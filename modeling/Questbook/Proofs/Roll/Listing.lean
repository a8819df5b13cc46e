import Mathlib.Data.List.Basic
import Mathlib.Data.List.Induction
import Questbook.Proofs.Roll.Selected

set_option autoImplicit false

/-! # Choices listed more than once

A roll is tried on a list in which one choice may stand several times, and different choices may be alike.
Labels say which is which, so here the list is one of labels, given together with the choice that each
label stands for (`listing`).

The selection remembers what it has selected, and not what it has seen: a choice that does not answer the
roll is asked again wherever it stands. It comes to the same as leaving out all repetitions first
(`selectedAfter_listing`), and so to the labels that answer, each once, in the order in which they first
stand in the list (`selection_of_listing`).
-/

namespace Questbook

variable {κ : Type} [DecidableEq κ]

/-! ## Lists without their repetitions -/

/-- A further element stays only if it is new. -/
theorem eraseDups_concat (xs : List κ) (x : κ) :
    (xs ++ [x]).eraseDups = xs.eraseDups ++ if x ∈ xs then [] else [x] := by
  have hsingle : [x].eraseDups = [x] := by rw [List.eraseDups_cons, List.filter_nil, List.eraseDups_nil]
  rw [List.eraseDups_append]
  by_cases hx : x ∈ xs <;> simp [List.removeAll, hx, hsingle]

/-- Elements may be left out before or after the repetitions are. -/
theorem eraseDups_filter (p : κ → Bool) (xs : List κ) :
    (xs.filter p).eraseDups = xs.eraseDups.filter p := by
  induction xs using List.reverseRecOn with
  | nil => rfl
  | append_singleton xs x ih =>
      rw [List.filter_append, eraseDups_concat, List.filter_append, ← ih]
      by_cases hp : p x = true
      · have hmem : x ∈ xs.filter p ↔ x ∈ xs := by simp [hp]
        rw [List.filter_cons_of_pos hp, List.filter_nil, eraseDups_concat]
        by_cases hx : x ∈ xs <;> simp [hmem, hx, hp]
      · rw [List.filter_cons_of_neg hp, List.filter_nil, List.append_nil]
        by_cases hx : x ∈ xs <;> simp [hx, hp]

/-- What is left without the repetitions keeps the order of the first places. -/
theorem pairwise_idxOf_eraseDups (xs : List κ) :
    xs.eraseDups.Pairwise fun a b => xs.idxOf a < xs.idxOf b := by
  induction xs using List.reverseRecOn with
  | nil => exact List.Pairwise.nil
  | append_singleton xs x ih =>
      have hkept : xs.eraseDups.Pairwise fun a b =>
          (xs ++ [x]).idxOf a < (xs ++ [x]).idxOf b := by
        refine ih.imp_of_mem fun ha hb hab => ?_
        rwa [List.idxOf_append_of_mem (List.mem_eraseDups.mp ha),
          List.idxOf_append_of_mem (List.mem_eraseDups.mp hb)]
      rw [eraseDups_concat]
      by_cases hx : x ∈ xs
      · rw [if_pos hx, List.append_nil]
        exact hkept
      · rw [if_neg hx]
        refine List.pairwise_append.mpr ⟨hkept, List.pairwise_singleton _ _, fun a ha b hb => ?_⟩
        obtain rfl := List.mem_singleton.mp hb
        have ha := List.mem_eraseDups.mp ha
        rw [List.idxOf_append_of_mem ha, List.idxOf_append_of_notMem hx]
        exact Nat.lt_of_lt_of_le (List.idxOf_lt_length_iff.mpr ha) (Nat.le_add_right _ _)

/-! ## What is selected -/

instance (c : Choice) : DecidablePred c.Answers := fun roll =>
  inferInstanceAs (Decidable (∃ o ∈ c.outcomes, o.holds roll = true))

/-- Choices that are listed by their labels. -/
def listing (choice : κ → Choice) (labels : List κ) : List (Option (κ × Choice)) :=
  labels.map fun k => some (k, choice k)

section

variable (choice : κ → Choice) (roll : Int)

/-- **The selection leaves out repetitions, and what does not answer the roll.** -/
theorem selectedAfter_listing (labels seen : List κ) :
    selectedAfter (.int roll) seen (listing choice labels) =
      .ok ((labels.filter fun k => k ∉ seen).eraseDups.filter fun k => (choice k).Answers roll) := by
  induction labels generalizing seen with
  | nil => rfl
  | cons k labels ih =>
      have hstep : listing choice (k :: labels) = some (k, choice k) :: listing choice labels := rfl
      rw [hstep, selectedAfter]
      by_cases hseen : k ∈ seen
      · rw [if_pos hseen, ih, List.filter_cons_of_neg (by simpa using hseen)]
      · obtain ⟨b, hb, hanswers⟩ := (choice k).answers_int roll
        rw [if_neg hseen, hb, List.filter_cons_of_pos (by simpa using hseen), List.eraseDups_cons]
        cases b with
        | true =>
            have hlater : (labels.filter fun l => l ∉ k :: seen) =
                (labels.filter fun l => l ∉ seen).filter fun l => !l == k := by
              rw [List.filter_filter]
              exact List.filter_congr fun l _ => by simp [beq_eq_decide]
            rw [List.filter_cons_of_pos (by simpa using hanswers.mp rfl), ← hlater]
            show (do pure (k :: (← selectedAfter (.int roll) (k :: seen) (listing choice labels)))) = _
            rw [ih]
            rfl
        | false =>
            -- the choice is not remembered, but where it stands again it does not answer either
            have hsilent : ¬ (choice k).Answers roll := fun h => Bool.false_ne_true (hanswers.mpr h)
            rw [List.filter_cons_of_neg (by simpa using hsilent), eraseDups_filter, List.filter_filter]
            refine (ih seen).trans (congrArg Except.ok (List.filter_congr fun l _ => ?_))
            by_cases hl : l = k
            · simp [hl, hsilent]
            · simp [hl]

/-- The labels of a listing that answer a roll, without repetitions. -/
def answering (labels : List κ) : List κ :=
  labels.eraseDups.filter fun k => (choice k).Answers roll

theorem selectedBy_listing (labels : List κ) :
    selectedBy (.int roll) (listing choice labels) = .ok (answering choice roll labels) := by
  have hall : (labels.filter fun k => k ∉ ([] : List κ)) = labels :=
    List.filter_eq_self.mpr fun k _ => by simp
  unfold selectedBy answering
  rw [selectedAfter_listing, hall]

theorem mem_answering {labels : List κ} {k : κ} :
    k ∈ answering choice roll labels ↔ k ∈ labels ∧ (choice k).Answers roll := by
  unfold answering
  rw [List.mem_filter, List.mem_eraseDups, decide_eq_true_iff]

/-- Behind a listing, only labels count that it does not have. -/
theorem answering_append (first second : List κ) :
    answering choice roll (first ++ second) = answering choice roll first ++
      (answering choice roll second).filter fun k => k ∉ answering choice roll first := by
  have hnew : second.removeAll first = second.filter fun k => k ∉ first :=
    List.filter_congr fun k _ => by simp
  have hsame : ((answering choice roll second).filter fun k => k ∉ answering choice roll first) =
      (answering choice roll second).filter fun k => k ∉ first := by
    refine List.filter_congr fun k hk => ?_
    have hanswers := (mem_answering choice roll).mp hk
    simp [mem_answering, hanswers.2]
  rw [hsame]
  unfold answering
  rw [List.eraseDups_append, List.filter_append, hnew, eraseDups_filter, List.filter_comm]

end

/-- **Whether labels are what a roll selects from a listing:** the listed labels that answer it, in the
order of their first places. -/
structure SelectsFrom (choice : κ → Choice) (roll : Int) (listed selected : List κ) : Prop where
  mem_iff : ∀ k, k ∈ selected ↔ k ∈ listed ∧ (choice k).Answers roll
  ordered : selected.Pairwise fun a b => listed.idxOf a < listed.idxOf b

theorem selectsFrom_answering (choice : κ → Choice) (roll : Int) (labels : List κ) :
    SelectsFrom choice roll labels (answering choice roll labels) :=
  ⟨fun _ => mem_answering choice roll, (pairwise_idxOf_eraseDups labels).filter _⟩

/-- No label is selected twice. -/
theorem SelectsFrom.nodup {choice : κ → Choice} {roll : Int} {listed selected : List κ}
    (h : SelectsFrom choice roll listed selected) : selected.Nodup := by
  refine List.nodup_iff_pairwise_ne.mpr (h.ordered.imp ?_)
  rintro a b hlt rfl
  exact Nat.lt_irrefl _ hlt

/-! ## The selection of a section -/

/-- **A roll selects each choice that answers it once,** at its first place in the list. Repetitions of
listed choices change nothing, and what follows in a longer list are the selected choices of the rest that
are not selected already. -/
theorem selection_of_listing (choice : κ → Choice) (roll : Int) (first : List κ) :
    ∃ selected, selectedBy (.int roll) (listing choice first) = .ok selected ∧
      SelectsFrom choice roll first selected ∧ selected.Nodup ∧
      (∀ again, (∀ k ∈ again, k ∈ first) →
        selectedBy (.int roll) (listing choice (first ++ again)) = .ok selected) ∧
      ∀ second, ∃ others, selectedBy (.int roll) (listing choice second) = .ok others ∧
        selectedBy (.int roll) (listing choice (first ++ second)) =
          .ok (selected ++ others.filter fun k => k ∉ selected) := by
  have hselects := selectsFrom_answering choice roll first
  refine ⟨_, selectedBy_listing choice roll first, hselects, hselects.nodup, fun again hagain => ?_,
    fun second => ⟨_, selectedBy_listing choice roll second, ?_⟩⟩
  · have hnothing :
        ((answering choice roll again).filter fun k => k ∉ answering choice roll first) = [] := by
      refine List.filter_eq_nil_iff.mpr fun k hk => ?_
      obtain ⟨hlisted, hanswers⟩ := (mem_answering choice roll).mp hk
      simpa [mem_answering, hanswers] using hagain k hlisted
    rw [selectedBy_listing, answering_append, hnothing, List.append_nil]
  · rw [selectedBy_listing, answering_append]

/-- The choices of a clearing: two paths that are alike, one that needs no roll, and a leap. -/
def clearing : Nat → Choice
  | 0 | 1 => { target := .str "path", outcomes := [{ max := 4 }] }
  | 2 => { target := .str "camp" }
  | _ => { target := .str "ravine", outcomes := [{ min := 8 }, { min := 3, max := 5 }] }

/-- Both paths are selected, each once, and so is the leap, however often they are listed. -/
theorem selection_of_listing_clearing :
    selectedBy (.int 3) (listing clearing ([3, 2, 1, 3, 0] ++ [0, 3, 2, 0])) = .ok [3, 1, 0] := by
  obtain ⟨selected, hselected, -, -, hagain, -⟩ := selection_of_listing clearing 3 [3, 2, 1, 3, 0]
  have hvalue : selectedBy (.int 3) (listing clearing [3, 2, 1, 3, 0]) = .ok [3, 1, 0] := by
    rw [selectedBy_listing]
    decide
  obtain rfl := Except.ok.inj (hselected.symm.trans hvalue)
  exact hagain [0, 3, 2, 0] (by decide)

end Questbook
