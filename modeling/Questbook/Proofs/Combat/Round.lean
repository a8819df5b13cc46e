import Questbook.Combat.Round
import Questbook.Proofs.Combat.Lookup
import Questbook.Proofs.Json.Shown
import Questbook.Proofs.Token.WellFormed

set_option autoImplicit false

/-! # The numbers of a round

The losses of a round are those of a row of the table, or there are none (`CombatTable.AllLosses.losses`).
Where the combat skill of the character is a whole number, the ratio of a round is what the skill of the
enemy leaves of it (`ratio_of_resolveRound`). Against an enemy with whole numbers the round is resolved
unless the line that tells of it cannot be written (`resolveRound_int`), which it can as soon as its
numbers are short enough (`resolveRound_whole`).
-/

namespace Questbook

/-! ## Losses -/

/-- The losses of a band are those of one of its rows, or none. -/
theorem RatioBand.losses_cases (b : RatioBand) (roll : Json) :
    b.losses roll = {} ∨ ∃ row ∈ b.rows, b.losses roll = row.losses := by
  unfold losses
  cases hrows : b.rows with
  | nil => exact Or.inl rfl
  | cons first rest =>
      refine Or.inr ?_
      dsimp only
      cases hfind : (first :: rest).find? fun r => Json.same (.int r.roll) roll with
      | none => exact ⟨first, List.mem_cons_self, rfl⟩
      | some row => exact ⟨row, List.mem_of_find?_eq_some hfind, rfl⟩

/-- **Whether all losses of a table are of a kind.** -/
def CombatTable.AllLosses (P : Int → Prop) (t : CombatTable) : Prop :=
  ∀ b ∈ t.bands, ∀ row ∈ b.rows, P row.playerLoss ∧ P row.enemyLoss

theorem CombatTable.AllLosses.mono {P Q : Int → Prop} {t : CombatTable} (h : t.AllLosses P)
    (hPQ : ∀ n, P n → Q n) : t.AllLosses Q :=
  fun b hb row hrow => ⟨hPQ _ (h b hb row hrow).1, hPQ _ (h b hb row hrow).2⟩

/-- What all losses of a table are, those at a ratio and a roll are. -/
theorem CombatTable.AllLosses.losses {P : Int → Prop} {t : CombatTable} (h : t.AllLosses P) (hzero : P 0)
    (ratio : Number) (roll : Json) : P (t.losses ratio roll).player ∧ P (t.losses ratio roll).enemy := by
  unfold CombatTable.losses
  cases hband : t.findBand? ratio with
  | none => exact ⟨hzero, hzero⟩
  | some b =>
      rcases b.losses_cases roll with hnone | ⟨row, hrow, hlosses⟩
      · simp only [hnone]
        exact ⟨hzero, hzero⟩
      · simp only [hlosses]
        exact h b (CombatTable.mem_of_findBand? hband) row hrow

/-! ## Rounds in whole numbers -/

/-- The result of a round in whole numbers. -/
def wholeRound (skill endurance enemySkill enemyEndurance : Int) (losses : Losses) : RoundResult where
  ratio := .whole (skill - enemySkill)
  playerLoss := losses.player
  enemyLoss := losses.enemy
  playerEndurance := max 0 (endurance - losses.player)
  enemyEndurance := .whole (max 0 (enemyEndurance - losses.enemy))
  playerDefeated := endurance - losses.player ≤ 0
  enemyDefeated := enemyEndurance - losses.enemy ≤ 0

/-- Whether all numbers of a result are whole and short enough to be told. -/
structure RoundResult.IsTellable (r : RoundResult) : Prop where
  ratio : ∃ n, r.ratio = .whole n ∧ IsWritable n
  playerLoss : IsWritable r.playerLoss
  playerEndurance : IsWritable r.playerEndurance
  enemyLoss : IsWritable r.enemyLoss
  enemyEndurance : ∃ n, r.enemyEndurance = .whole n ∧ IsWritable n

/-- A loss and the floor leave no number longer than it was. -/
theorem IsWritable.floored {a loss : Int} (ha : IsWritable a) (hloss : 0 ≤ loss) :
    IsWritable (max 0 (a - loss)) := by
  unfold IsWritable at ha ⊢
  omega

/-- A round can be told if nothing that goes into it is too long. -/
theorem isTellable_wholeRound {skill endurance enemySkill enemyEndurance : Int} {losses : Losses}
    (hratio : IsWritable (skill - enemySkill)) (hendurance : IsWritable endurance)
    (henemy : IsWritable enemyEndurance) (hlosses : 0 ≤ losses.player ∧ 0 ≤ losses.enemy)
    (hshort : IsWritable losses.player ∧ IsWritable losses.enemy) :
    (wholeRound skill endurance enemySkill enemyEndurance losses).IsTellable where
  ratio := ⟨_, rfl, hratio⟩
  playerLoss := hshort.1
  playerEndurance := hendurance.floored hlosses.1
  enemyLoss := hshort.2
  enemyEndurance := ⟨_, rfl, henemy.floored hlosses.2⟩

theorem Numeral.decimalText_of_isWritable {n : Int} (h : IsWritable n) :
    decimalText n = .ok (toString n) :=
  if_pos h

theorem RoundResult.IsTellable.describe {r : RoundResult} (h : r.IsTellable) :
    ∃ text, r.describe = .ok text := by
  obtain ⟨ratio, hratio, hshort⟩ := h.ratio
  obtain ⟨left, hleft, hshort'⟩ := h.enemyEndurance
  unfold RoundResult.describe Number.signedText Number.text
  rw [hratio, hleft]
  simp only [Numeral.signedText, Numeral.decimalText_of_isWritable hshort,
    Numeral.decimalText_of_isWritable hshort', Numeral.decimalText_of_isWritable h.playerLoss,
    Numeral.decimalText_of_isWritable h.playerEndurance,
    Numeral.decimalText_of_isWritable h.enemyLoss]
  exact ⟨_, rfl⟩

/-- A result that can be told is reported with every roll that can be shown. -/
theorem RoundResult.IsTellable.report {r : RoundResult} (h : r.IsTellable) {roll : Json}
    (hroll : roll.HasText) : ∃ line, r.report roll = .ok line := by
  obtain ⟨text, htext⟩ := h.describe
  obtain ⟨written, hroll⟩ := hroll.text
  unfold RoundResult.report
  rw [hroll, htext]
  exact ⟨_, rfl⟩

/-- A ratio that is too long to be written cannot be reported. -/
theorem RoundResult.report_of_long_ratio {r : RoundResult} {ratio : Int} (hratio : r.ratio = .whole ratio)
    (hlong : ¬ IsWritable ratio) {roll : Json} (hroll : roll.HasText) :
    r.report roll = .error .longNumeral := by
  have hdigits : Numeral.decimalText ratio = .error .longNumeral := if_neg hlong
  have hdescribe : r.describe = .error .longNumeral := by
    unfold RoundResult.describe Number.signedText Numeral.signedText
    rw [hratio]
    simp only [hdigits]
    rfl
  obtain ⟨written, hroll⟩ := hroll.text
  unfold RoundResult.report
  rw [hroll, hdescribe]
  rfl

theorem RoundResult.describe_of_report {r : RoundResult} {roll : Json} {line : String}
    (h : r.report roll = .ok line) : ∃ text, r.describe = .ok text := by
  obtain ⟨written, -, h⟩ := bind_eq_ok_iff.mp h
  obtain ⟨text, htext, -⟩ := bind_eq_ok_iff.mp h
  exact ⟨text, htext⟩

variable {x : Character} {k : Int}

/-- **A round against an enemy with whole numbers** fails only if it cannot be reported. -/
theorem resolveRound_int (hskill : x.effectiveCombatSkill = .ok (.int k)) (e n : Int) (roll : Json)
    (t : CombatTable) :
    resolveRound x (.int e) (.int n) roll t =
      ((wholeRound k x.endurance e n (t.losses (.whole (k - e)) roll)).report roll).map
        fun _ => wholeRound k x.endurance e n (t.losses (.whole (k - e)) roll) := by
  unfold resolveRound wholeRound
  rw [hskill]
  simp only [bind, Except.bind, summand, Json.number?, Number.sub_whole, Number.floorZero_whole,
    Number.le_whole]
  rfl

/-- A round against an enemy with whole numbers is resolved if roll and result can be told. -/
theorem resolveRound_whole (hskill : x.effectiveCombatSkill = .ok (.int k)) {e n : Int} {roll : Json}
    {t : CombatTable} (hroll : roll.HasText)
    (h : (wholeRound k x.endurance e n (t.losses (.whole (k - e)) roll)).IsTellable) :
    resolveRound x (.int e) (.int n) roll t =
      .ok (wholeRound k x.endurance e n (t.losses (.whole (k - e)) roll)) := by
  obtain ⟨line, hline⟩ := h.report hroll
  rw [resolveRound_int hskill, hline]
  rfl

/-- A result that is described has a whole ratio. -/
theorem RoundResult.ratio_of_describe {r : RoundResult} {text : String}
    (h : r.describe = .ok text) : ∃ n, r.ratio = .whole n := by
  obtain ⟨sign, hsign, -⟩ := bind_eq_ok_iff.mp h
  cases hratio : r.ratio with
  | whole n => exact ⟨n, rfl⟩
  | real y =>
      rw [hratio] at hsign
      cases hsign

theorem number?_of_summand {j : Json} {n : Number} (h : summand j = .ok n) : j.number? = some n := by
  unfold summand at h
  split at h
  · next y hy =>
    rw [hy, Except.ok.inj h]
  · cases h

/-- A whole difference from a whole number is that of a whole number. -/
theorem exists_of_sub_eq_whole {a m : Int} {y : Number} (h : (Number.whole a).sub y = .ok (.whole m)) :
    ∃ e, y = .whole e ∧ m = a - e := by
  cases y with
  | whole e =>
      rw [Number.sub_whole] at h
      cases h
      exact ⟨e, rfl, rfl⟩
  | real y =>
      obtain ⟨z, -, hz⟩ := bind_eq_ok_iff.mp
        (show (Number.floatOf a >>= fun z => pure (Number.real (Binary64.add z y.neg))) =
          .ok (.whole m) from h)
      cases hz

/-- **The ratio of a round** that was resolved is the combat skill of the character less that of the
enemy. -/
theorem ratio_of_resolveRound (hskill : x.effectiveCombatSkill = .ok (.int k))
    {enemySkill enemyEndurance roll : Json} {t : CombatTable} {r : RoundResult}
    (h : resolveRound x enemySkill enemyEndurance roll t = .ok r) :
    ∃ e, enemySkill.number? = some (.whole e) ∧ r.ratio = .whole (k - e) := by
  unfold resolveRound at h
  rw [hskill] at h
  obtain ⟨skill, hk, h⟩ := bind_eq_ok_iff.mp h
  cases hk
  obtain ⟨skill, hk, h⟩ := bind_eq_ok_iff.mp h
  cases hk
  obtain ⟨enemy, henemy, h⟩ := bind_eq_ok_iff.mp h
  obtain ⟨ratio, hratio, h⟩ := bind_eq_ok_iff.mp h
  obtain ⟨endurance, -, h⟩ := bind_eq_ok_iff.mp h
  obtain ⟨enemyLeft, -, h⟩ := bind_eq_ok_iff.mp h
  obtain ⟨line, hline, h⟩ := bind_eq_ok_iff.mp h
  cases h
  obtain ⟨text, htext⟩ := RoundResult.describe_of_report hline
  obtain ⟨m, rfl⟩ := RoundResult.ratio_of_describe htext
  obtain ⟨e, rfl, rfl⟩ := exists_of_sub_eq_whole hratio
  exact ⟨e, number?_of_summand henemy, rfl⟩

end Questbook
