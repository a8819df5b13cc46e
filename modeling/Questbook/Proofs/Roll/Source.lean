import Questbook.Book.Basic
import Questbook.Roll.Source

set_option autoImplicit false

/-! # What sources of rolls yield

A source remembers what has been drawn from it (`RollSource.history`), and a roll adds what it gives
(`RollSource.history_roll`). A source yields rolls if each draw, however many there were before it,
gives a number on the Random Number Table (`RollSource.YieldsRolls`). A generator with a seed does
(`RollSource.yieldsRolls_seeded`), whatever its state.
-/

namespace Questbook

/-- **A number on the Random Number Table.** -/
def IsRoll (v : Json) : Prop := isBetween v minRoll maxRoll = .ok true

theorem isRoll_int {n : Int} : IsRoll (.int n) ↔ 0 ≤ n ∧ n ≤ 9 := by
  have hbetween : isBetween (.int n) minRoll maxRoll =
      .ok ((Number.whole minRoll).le (.whole n) && (Number.whole n).le (.whole maxRoll)) := rfl
  rw [IsRoll, hbetween, Except.ok.injEq, Bool.and_eq_true, Number.le_whole, Number.le_whole,
    decide_eq_true_eq, decide_eq_true_eq]
  rfl

theorem IsRoll.ne_null {v : Json} (h : IsRoll v) : v ≠ .null := by
  rintro rfl
  cases h

/-! ## The generator -/

namespace Twister

theorem drawUntil_lt {n bits tries : Nat} (t : Twister) (hn : 0 < n) :
    (drawUntil n bits tries t).1 < n := by
  induction tries generalizing t with
  | zero => exact hn
  | succ tries ih =>
      rw [drawUntil]
      split
      next v t' hdraw =>
      split
      · next hlt => exact hlt
      · exact ih t'

/-- **What is drawn lies below the bound.** -/
theorem below_lt {n : Nat} (t : Twister) (hn : 0 < n) : (below n t).1 < n :=
  drawUntil_lt t hn

end Twister

/-- What is drawn from a range lies in the range. -/
theorem SeededSource.mem_of_draw {s : SeededSource} {low high n : Int}
    (h : (s.draw low high).1 = .ok n) : low ≤ n ∧ n ≤ high := by
  unfold draw at h
  split at h
  · cases h
  · next hrange =>
    have hbelow := s.twister.below_lt (n := (high - low + 1).toNat) (by omega)
    have hn : low + ((s.twister.below (high - low + 1).toNat).1 : Int) = n := Except.ok.inj h
    omega

namespace RollSource

/-! ## The history -/

/-- **What has been drawn from a source,** the earliest first. -/
def history : RollSource → List Json
  | seeded source => source.log.map fun draw => .int draw.result
  | script values n => (List.range n).map values

/-- A roll adds what it gives to the history. -/
theorem history_roll {source : RollSource} {v : Json} (h : source.roll.1 = .ok v) :
    source.roll.2.history = source.history ++ [v] := by
  cases source with
  | script values n =>
      obtain rfl := Except.ok.inj h
      show (List.range (n + 1)).map values = _
      rw [List.range_succ, List.map_append]
      rfl
  | seeded s =>
      unfold roll at h ⊢
      have hrange : ¬ maxRoll < minRoll := by decide
      simp only [SeededSource.draw, if_neg hrange] at h ⊢
      obtain rfl := Except.ok.inj h
      show (s.log ++ [_]).map _ = _
      rw [List.map_append]
      rfl

/-! ## Yielding rolls -/

/-- The source after a number of draws. -/
def after (source : RollSource) : Nat → RollSource
  | 0 => source
  | n + 1 => source.roll.2.after n

/-- **Whether every draw gives a number on the Random Number Table.** -/
def YieldsRolls (source : RollSource) : Prop :=
  ∀ n, ∃ v, (source.after n).roll.1 = .ok v ∧ IsRoll v

theorem YieldsRolls.now {source : RollSource} (h : source.YieldsRolls) :
    ∃ v, source.roll.1 = .ok v ∧ IsRoll v :=
  h 0

theorem YieldsRolls.next {source : RollSource} (h : source.YieldsRolls) :
    source.roll.2.YieldsRolls :=
  fun n => h (n + 1)

/-- **A generator with a seed yields rolls,** in whatever state it is. -/
theorem yieldsRolls_seeded (s : SeededSource) : (seeded s).YieldsRolls := by
  intro n
  induction n generalizing s with
  | zero =>
      have hrange : ¬ maxRoll < minRoll := by decide
      have hdraw : ∃ m, (s.draw minRoll maxRoll).1 = .ok m := by
        rw [SeededSource.draw, if_neg hrange]
        exact ⟨_, rfl⟩
      obtain ⟨m, hm⟩ := hdraw
      refine ⟨.int m, ?_, isRoll_int.mpr (SeededSource.mem_of_draw hm)⟩
      show (s.draw minRoll maxRoll).1.map Json.int = _
      rw [hm]
      rfl
  | succ n ih => exact ih (s.draw minRoll maxRoll).2

/-- A script of rolls yields rolls. -/
theorem yieldsRolls_script {values : Nat → Json} (h : ∀ n, IsRoll (values n)) (drawn : Nat) :
    (script values drawn).YieldsRolls := by
  intro n
  induction n generalizing drawn with
  | zero => exact ⟨values drawn, rfl, h drawn⟩
  | succ n ih => exact ih (drawn + 1)

/-- Rolls that are given over and over again. -/
theorem yieldsRolls_cycling {values : List Json} (hne : values ≠ []) (h : ∀ v ∈ values, IsRoll v) :
    (cycling values).YieldsRolls := by
  refine yieldsRolls_script (fun n => ?_) 0
  have hlt : n % values.length < values.length := Nat.mod_lt n (List.length_pos_iff.mpr hne)
  have hvalue : values.getD (n % values.length) .null = values[n % values.length] := by
    rw [List.getD_eq_getElem?_getD, List.getElem?_eq_getElem hlt, Option.getD_some]
  rw [hvalue]
  exact h _ (List.getElem_mem hlt)

end RollSource

end Questbook
