import Questbook.Proofs.Combat.Round
import Questbook.Proofs.Token.Effects

set_option autoImplicit false

/-! # Values that are written and read

An effect writes a value of a character where a condition reads it. What is read under a name after a
list of such effects is what they add up to (`Change.onValue`), and so is what they have added to combat
skill (`Change.onBonus`), which the ratio of the next round takes in (`Context.RaisesCombat`).

The bonus is kept in an attribute. Under the name of this attribute the bonus is read and written too,
unless the character has a core skill of the same name, which hides it.
-/

namespace Questbook

open Text

/-! ## Values of a character -/

/-- **Whether core skills and attributes are whole numbers.** -/
structure Character.HasWholeStats (x : Character) : Prop where
  attributes : x.attributes.Whole
  coreSkills : x.coreSkills.Whole

/-- The whole number that is read under a name. -/
def Character.value? (x : Character) (name : String) : Option Int :=
  if fold name = combatSkillName then some x.combatSkill
  else if fold name = enduranceName then some x.endurance
  else (x.coreSkills.whole? name).or (x.attributes.whole? name)

/-- The whole number that effects have added to combat skill. -/
def Character.bonus (x : Character) : Int :=
  (x.attributes.whole? bonusAttribute).getD 0

/-- Whether a core skill has the name of the attribute that holds the bonus. -/
def Character.hidesBonus (x : Character) : Bool :=
  x.coreSkills.contains bonusAttribute

/-- The value that is written for a number: endurance alone has a floor. -/
def floored (name : String) (n : Int) : Int :=
  if fold name = enduranceName then max 0 n else n

namespace Character

variable {x y : Character} {a b : String}

theorem value?_congr (h : fold a = fold b) : x.value? a = x.value? b := by
  unfold value?
  rw [h, x.coreSkills.whole?_congr h, x.attributes.whole?_congr h]

theorem value?_of_other (hskill : fold a ≠ combatSkillName) (hendurance : fold a ≠ enduranceName) :
    x.value? a = (x.coreSkills.whole? a).or (x.attributes.whole? a) := by
  unfold value?
  rw [if_neg hskill, if_neg hendurance]

namespace HasWholeStats

/-- What is read is a whole number, if there is anything. -/
theorem stat?_eq (h : x.HasWholeStats) (name : String) : x.stat? name = (x.value? name).map .int := by
  unfold stat? value?
  split
  · rfl
  split
  · rfl
  rw [h.coreSkills.get?_eq, h.attributes.get?_eq]
  cases x.coreSkills.whole? name <;> rfl

theorem combatBonus_eq (h : x.HasWholeStats) : x.combatBonus = .int x.bonus := by
  unfold combatBonus bonus
  rw [h.attributes.get?_eq]
  cases x.attributes.whole? bonusAttribute <;> rfl

theorem effectiveCombatSkill_eq (h : x.HasWholeStats) :
    x.effectiveCombatSkill = .ok (.int (x.combatSkill + x.bonus)) := by
  unfold effectiveCombatSkill
  rw [h.combatBonus_eq, Json.addWhole_int, Int.add_comm]

/-- A name that no core skill has is read among the attributes. -/
theorem whole?_eq_none (h : x.HasWholeStats) (hnew : x.coreSkills.contains a = false) :
    x.coreSkills.whole? a = none := by
  rw [h.coreSkills.contains_eq] at hnew
  exact Option.not_isSome_iff_eq_none.mp (by rw [hnew]; exact nofun)

end HasWholeStats

/-! ## One write -/

/-- **What a change of the value under a name does to a character.** -/
structure Writes (x : Character) (name : String) (delta : Int) (y : Character) : Prop where
  whole : y.HasWholeStats
  written : y.value? name = some (floored name ((x.value? name).getD 0 + delta))
  others : ∀ other, fold name ≠ fold other → y.value? other = x.value? other
  hides : y.hidesBonus = x.hidesBonus
  bonus : y.bonus =
    if fold name = fold bonusAttribute ∧ x.hidesBonus = false then x.bonus + delta else x.bonus

theorem writes_combatSkill (h : x.HasWholeStats) (hname : fold a = combatSkillName) (delta : Int) :
    x.Writes a delta { x with combatSkill := x.combatSkill + delta } where
  whole := ⟨h.attributes, h.coreSkills⟩
  written := by
    have hother : fold a ≠ enduranceName := by rw [hname]; decide
    unfold value? floored
    rw [if_pos hname, if_pos hname, if_neg hother]
    rfl
  others other hother := by
    have hne : fold other ≠ combatSkillName := fun hsame => hother (hname.trans hsame.symm)
    unfold value?
    rw [if_neg hne, if_neg hne]
  hides := rfl
  bonus := by
    have hother : fold a ≠ fold bonusAttribute := by rw [hname]; decide
    rw [if_neg (fun hboth => hother hboth.1)]
    rfl

theorem writes_endurance (h : x.HasWholeStats) (hname : fold a = enduranceName) (delta : Int) :
    x.Writes a delta { x with endurance := max 0 (x.endurance + delta) } where
  whole := ⟨h.attributes, h.coreSkills⟩
  written := by
    have hother : fold a ≠ combatSkillName := by rw [hname]; decide
    unfold value? floored
    rw [if_neg hother, if_neg hother, if_pos hname, if_pos hname, if_pos hname]
    rfl
  others other hother := by
    have hne : fold other ≠ enduranceName := fun hsame => hother (hname.trans hsame.symm)
    unfold value?
    rw [if_neg hne, if_neg hne]
  hides := rfl
  bonus := by
    have hother : fold a ≠ fold bonusAttribute := by rw [hname]; decide
    rw [if_neg (fun hboth => hother hboth.1)]
    rfl

/-- A core skill is written in its place, and hides an attribute of its name. -/
theorem writes_coreSkill (h : x.HasWholeStats) (hskill : fold a ≠ combatSkillName)
    (hendurance : fold a ≠ enduranceName) (hknown : x.coreSkills.contains a = true) (delta : Int) :
    x.Writes a delta
      { x with coreSkills := x.coreSkills.set a (.int ((x.coreSkills.whole? a).getD 0 + delta)) } where
  whole := ⟨h.attributes, h.coreSkills.set a _⟩
  written := by
    rw [h.coreSkills.contains_eq] at hknown
    obtain ⟨n, hn⟩ := Option.isSome_iff_exists.mp hknown
    rw [value?_of_other hskill hendurance, value?_of_other hskill hendurance,
      NameMap.whole?_set, if_pos rfl, hn]
    unfold floored
    rw [if_neg hendurance]
    rfl
  others other hother := by
    unfold value?
    rw [NameMap.whole?_set, if_neg hother]
  hides := by
    unfold hidesBonus NameMap.contains
    rw [NameMap.get?_set]
    by_cases hsame : fold a = fold bonusAttribute
    · rw [if_pos hsame, ← x.coreSkills.get?_congr hsame]
      exact hknown.symm
    · rw [if_neg hsame]
  bonus := by
    -- no attribute is written, and a skill of this name is the one that hides it
    refine (if_neg ?_).symm
    rintro ⟨hsame, hhides⟩
    have hknown' : x.hidesBonus = true := by
      unfold hidesBonus NameMap.contains
      rw [← x.coreSkills.get?_congr hsame]
      exact hknown
    rw [hhides] at hknown'
    cases hknown'

/-- Any other value is written among the attributes, where a missing one counts as zero. -/
theorem writes_attribute (h : x.HasWholeStats) (hskill : fold a ≠ combatSkillName)
    (hendurance : fold a ≠ enduranceName) (hnew : x.coreSkills.contains a = false) (delta : Int) :
    x.Writes a delta
      { x with attributes := x.attributes.set a (.int ((x.attributes.whole? a).getD 0 + delta)) } where
  whole := ⟨h.attributes.set a _, h.coreSkills⟩
  written := by
    rw [value?_of_other hskill hendurance, value?_of_other hskill hendurance,
      NameMap.whole?_set, if_pos rfl, h.whole?_eq_none hnew]
    unfold floored
    rw [if_neg hendurance]
    rfl
  others other hother := by
    unfold value?
    rw [NameMap.whole?_set, if_neg hother]
  hides := rfl
  bonus := by
    unfold bonus
    rw [NameMap.whole?_set]
    by_cases hsame : fold a = fold bonusAttribute
    · have hhides : x.hidesBonus = false := by
        unfold hidesBonus NameMap.contains
        rw [← x.coreSkills.get?_congr hsame]
        exact hnew
      rw [if_pos hsame, if_pos ⟨hsame, hhides⟩, x.attributes.whole?_congr hsame]
      rfl
    · rw [if_neg hsame, if_neg (fun hboth => hsame hboth.1)]

/-- **A change of the value under a name** does not fail, and is read under this name and no other. -/
theorem exists_adjustStat (h : x.HasWholeStats) (name : String) (delta : Int) :
    ∃ y, x.adjustStat name delta = .ok y ∧ x.Writes name delta y := by
  unfold adjustStat
  split
  · next hskill => exact ⟨_, rfl, writes_combatSkill h hskill delta⟩
  split
  · next hendurance => exact ⟨_, rfl, writes_endurance h hendurance delta⟩
  next hskill hendurance =>
  split
  · next hknown =>
    rw [h.coreSkills.addUnder_eq]
    exact ⟨_, rfl, writes_coreSkill h hskill hendurance hknown delta⟩
  · next hnew =>
    rw [h.attributes.addUnder_eq]
    exact ⟨_, rfl, writes_attribute h hskill hendurance (Bool.eq_false_iff.mpr hnew) delta⟩

/-- The character after a change of the bonus. -/
def withBonus (x : Character) (delta : Int) : Character :=
  { x with attributes := x.attributes.set bonusAttribute (.int (x.bonus + delta)) }

theorem bonus_withBonus (delta : Int) : (x.withBonus delta).bonus = x.bonus + delta := by
  show ((x.attributes.set bonusAttribute (.int (x.bonus + delta))).whole? bonusAttribute).getD 0 = _
  rw [NameMap.whole?_set, if_pos rfl]
  rfl

theorem HasWholeStats.withBonus (h : x.HasWholeStats) (delta : Int) :
    (x.withBonus delta).HasWholeStats :=
  ⟨h.attributes.set bonusAttribute _, h.coreSkills⟩

/-- A change of the bonus is read under the name of its attribute, unless a core skill hides it. -/
theorem HasWholeStats.value?_withBonus (h : x.HasWholeStats) (delta : Int) (name : String) :
    (x.withBonus delta).value? name =
      if fold bonusAttribute = fold name ∧ x.hidesBonus = false then
        some ((x.value? name).getD 0 + delta)
      else x.value? name := by
  have hset : (x.withBonus delta).attributes.whole? name =
      if fold bonusAttribute = fold name then some (x.bonus + delta) else x.attributes.whole? name :=
    NameMap.whole?_set _ _ _ _
  by_cases hsame : fold bonusAttribute = fold name
  · have hskill : fold name ≠ combatSkillName := by rw [← hsame]; decide
    have hendurance : fold name ≠ enduranceName := by rw [← hsame]; decide
    rw [value?_of_other hskill hendurance, value?_of_other hskill hendurance, hset, if_pos hsame,
      ← x.coreSkills.whole?_congr hsame, ← x.attributes.whole?_congr hsame]
    -- core skills are read before attributes, so that a hidden bonus is written but not read
    cases hhides : x.hidesBonus with
    | true =>
        rw [if_neg (fun hboth => nomatch hboth.2)]
        have hsome : (x.coreSkills.whole? bonusAttribute).isSome = true := by
          rw [← h.coreSkills.contains_eq]
          exact hhides
        obtain ⟨n, hn⟩ := Option.isSome_iff_exists.mp hsome
        show (x.coreSkills.whole? name).or _ = _
        rw [← x.coreSkills.whole?_congr hsame, hn]
        rfl
    | false =>
        rw [if_pos ⟨hsame, rfl⟩, h.whole?_eq_none hhides]
        show (x.coreSkills.whole? name).or _ = _
        rw [← x.coreSkills.whole?_congr hsame, h.whole?_eq_none hhides]
        rfl
  · rw [if_neg (fun hboth => hsame hboth.1)]
    unfold value?
    rw [hset, if_neg hsame]
    rfl

end Character

variable {c d : Context}

theorem apply_adjustCombat (h : c.character.HasWholeStats) (delta : Int) :
    (Change.adjustCombat delta).apply c = .ok (c.withCharacter (c.character.withBonus delta)) := by
  unfold Change.apply
  simp only [h.attributes.addUnder_eq]
  rfl

/-- Without a core skill of its name, the attribute is changed by name as the bonus is. -/
theorem apply_adjustStat_bonusAttribute (hhides : c.character.hidesBonus = false) (delta : Int) :
    (Change.adjustStat bonusAttribute delta).apply c = (Change.adjustCombat delta).apply c := by
  have hskill : fold bonusAttribute ≠ combatSkillName := by decide
  have hendurance : fold bonusAttribute ≠ enduranceName := by decide
  have hunknown : ¬ c.character.coreSkills.contains bonusAttribute = true :=
    Bool.eq_false_iff.mp hhides
  unfold Change.apply Character.adjustStat
  simp only [if_neg hskill, if_neg hendurance, if_neg hunknown]
  cases addUnder c.character.attributes bonusAttribute delta <;> rfl

/-! ## The next round -/

/-- **What a change of the bonus raises,** and by how much: combat skill, the value that conditions on the
bonus look at, and the ratio of the next round, which is resolved as long as it can be told. -/
structure Context.RaisesCombat (c : Context) (delta : Int) (d : Context) : Prop where
  skill : ∃ k, c.character.effectiveCombatSkill = .ok (.int k) ∧
    d.character.effectiveCombatSkill = .ok (.int (k + delta))
  bonus : ∃ b, c.character.combatBonus = .int b ∧ d.character.combatBonus = .int (b + delta)
  ratio : ∀ enemySkill enemyEndurance roll table r r',
    resolveRound c.character enemySkill enemyEndurance roll table = .ok r →
    resolveRound d.character enemySkill enemyEndurance roll table = .ok r' →
    ∃ n, r.ratio = .whole n ∧ r'.ratio = .whole (n + delta)
  resolved : ∀ k, c.character.effectiveCombatSkill = .ok (.int k) →
    ∀ (enemySkill enemyEndurance : Int) (roll : Json) (table : CombatTable), roll.HasText →
      let result := wholeRound (k + delta) d.character.endurance enemySkill enemyEndurance
        (table.losses (.whole (k + delta - enemySkill)) roll)
      result.IsTellable →
        resolveRound d.character (.int enemySkill) (.int enemyEndurance) roll table = .ok result

theorem Context.raisesCombat_withBonus (h : c.character.HasWholeStats) (delta : Int) :
    c.RaisesCombat delta (c.withCharacter (c.character.withBonus delta)) := by
  have hbefore := h.effectiveCombatSkill_eq
  have hafter : (c.character.withBonus delta).effectiveCombatSkill =
      .ok (.int (c.character.combatSkill + c.character.bonus + delta)) := by
    rw [(h.withBonus delta).effectiveCombatSkill_eq, Character.bonus_withBonus, Int.add_assoc]
    rfl
  refine ⟨⟨_, hbefore, hafter⟩, ⟨_, h.combatBonus_eq, ?_⟩, ?_, ?_⟩
  · rw [← Character.bonus_withBonus]
    exact (h.withBonus delta).combatBonus_eq
  · intro enemySkill enemyEndurance roll table r r' hr hr'
    obtain ⟨e, he, hratio⟩ := ratio_of_resolveRound hbefore hr
    obtain ⟨e', he', hratio'⟩ := ratio_of_resolveRound hafter hr'
    obtain rfl : e = e' := Number.whole.inj (Option.some.inj (he.symm.trans he'))
    refine ⟨_, hratio, ?_⟩
    rw [hratio', Int.sub_eq_add_neg, Int.sub_eq_add_neg, Int.add_right_comm]
  · intro k hk enemySkill enemyEndurance roll table hroll result htellable
    obtain rfl : c.character.combatSkill + c.character.bonus = k :=
      Json.int.inj (Except.ok.inj (hbefore.symm.trans hk))
    exact resolveRound_whole hafter hroll htellable

/-! ## Many writes -/

/-- Whether a change writes a value of the character or the bonus. -/
def Change.IsAdjustment : Change → Prop
  | adjustStat _ _ | adjustCombat _ => True
  | _ => False

/-- **What an adjustment makes of the value under a name.** A bonus that is hidden is not read there. -/
def Change.onValue (hidden : Bool) (name : String) (value : Option Int) : Change → Option Int
  | adjustStat written delta =>
    if fold written = fold name then some (floored name (value.getD 0 + delta)) else value
  | adjustCombat delta =>
    if fold bonusAttribute = fold name ∧ hidden = false then some (value.getD 0 + delta) else value
  | _ => value

/-- **What an adjustment makes of the bonus.** A bonus that is hidden is not written by its name. -/
def Change.onBonus (hidden : Bool) (bonus : Int) : Change → Int
  | adjustStat written delta =>
    if fold written = fold bonusAttribute ∧ hidden = false then bonus + delta else bonus
  | adjustCombat delta => bonus + delta
  | _ => bonus

/-- The value under a name after a list of adjustments. -/
def accumulatedValue (hidden : Bool) (name : String) (value : Option Int) (es : List Effect) :
    Option Int :=
  es.foldl (fun value e => e.change.onValue hidden name value) value

/-- The bonus after a list of adjustments. -/
def accumulatedBonus (hidden : Bool) (bonus : Int) (es : List Effect) : Int :=
  es.foldl (fun bonus e => e.change.onBonus hidden bonus) bonus

/-- **What an adjustment does to a character.** -/
structure Character.Adjusts (x : Character) (change : Change) (y : Character) : Prop where
  whole : y.HasWholeStats
  hides : y.hidesBonus = x.hidesBonus
  value : ∀ name, y.value? name = change.onValue x.hidesBonus name (x.value? name)
  bonus : y.bonus = change.onBonus x.hidesBonus x.bonus

/-- **What a list of adjustments does to a character.** -/
structure Character.Accumulates (x : Character) (es : List Effect) (y : Character) : Prop where
  whole : y.HasWholeStats
  hides : y.hidesBonus = x.hidesBonus
  value : ∀ name, y.value? name = accumulatedValue x.hidesBonus name (x.value? name) es
  bonus : y.bonus = accumulatedBonus x.hidesBonus x.bonus es

theorem Character.Writes.adjusts {x y : Character} {name : String} {delta : Int}
    (h : x.Writes name delta y) : x.Adjusts (.adjustStat name delta) y := by
  refine ⟨h.whole, h.hides, fun other => ?_, h.bonus⟩
  rw [Change.onValue]
  by_cases hsame : fold name = fold other
  · rw [if_pos hsame, ← value?_congr hsame, h.written, ← value?_congr hsame, floored, floored, hsame]
  · rw [if_neg hsame, h.others other hsame]

theorem Character.HasWholeStats.adjusts_withBonus {x : Character} (h : x.HasWholeStats)
    (delta : Int) : x.Adjusts (.adjustCombat delta) (x.withBonus delta) :=
  ⟨h.withBonus delta, rfl, h.value?_withBonus delta, bonus_withBonus delta⟩

/-- **One adjustment** does not fail. -/
theorem exists_apply_adjustment {change : Change} (h : c.character.HasWholeStats)
    (hchange : change.IsAdjustment) :
    ∃ d, change.apply c = .ok d ∧ c.character.Adjusts change d.character := by
  cases change with
  | adjustStat name delta =>
      obtain ⟨y, hy, hwrites⟩ := Character.exists_adjustStat h name delta
      exact ⟨c.withCharacter y, map_eq_ok_iff.mpr ⟨y, hy, rfl⟩, hwrites.adjusts⟩
  | adjustCombat delta => exact ⟨_, apply_adjustCombat h delta, h.adjusts_withBonus delta⟩
  | _ => cases hchange

theorem Character.Adjusts.accumulates {x y z : Character} {e : Effect} {es : List Effect}
    (hfirst : x.Adjusts e.change y) (hrest : y.Accumulates es z) : x.Accumulates (e :: es) z := by
  refine ⟨hrest.whole, hrest.hides.trans hfirst.hides, fun name => ?_, ?_⟩
  · rw [hrest.value, hfirst.hides, hfirst.value, accumulatedValue, accumulatedValue, List.foldl_cons]
  · rw [hrest.bonus, hfirst.hides, hfirst.bonus, accumulatedBonus, accumulatedBonus, List.foldl_cons]

/-- **Adjustments add up.** -/
theorem exists_applyAll_adjustments {es : List Effect} (h : c.character.HasWholeStats)
    (hes : ∀ e ∈ es, e.change.IsAdjustment) :
    ∃ d, applyAll c es = (d, none) ∧ c.character.Accumulates es d.character := by
  induction es generalizing c with
  | nil => exact ⟨c, rfl, h, rfl, fun _ => rfl, rfl⟩
  | cons e es ih =>
      obtain ⟨c', hc', hfirst⟩ := exists_apply_adjustment h (hes e (by simp))
      obtain ⟨d, hd, hrest⟩ := ih hfirst.whole fun e' he' => hes e' (by simp [he'])
      refine ⟨d, ?_, hfirst.accumulates hrest⟩
      rw [applyAll, hc']
      exact hd

/-! ## Conditions on what was written -/

theorem holds_stat (h : c.character.HasWholeStats) (name : String) (minimum : Int) :
    (Condition.stat name minimum).holds c =
      .ok ((c.character.value? name).any fun value => decide (minimum ≤ value)) := by
  show reaches (c.character.stat? name) minimum = _
  rw [h.stat?_eq]
  cases c.character.value? name with
  | none => rfl
  | some value => exact Json.atLeast_int value minimum

theorem holds_combat (h : c.character.HasWholeStats) (minimum : Int) :
    (Condition.combat minimum).holds c = .ok (decide (minimum ≤ c.character.bonus)) := by
  show c.character.combatBonus.atLeast minimum = _
  rw [h.combatBonus_eq]
  exact Json.atLeast_int c.character.bonus minimum

/-- **What is written is what is read.** A change of the value under a name is read under this name, and
under no other; a change of the bonus raises combat skill, the bonus and the ratio of the next round by
just as much, and is the change of an attribute that no core skill hides; after a list of such changes a
condition holds exactly if what they add up to reaches its minimum. -/
theorem adjustments_are_read (h : c.character.HasWholeStats) :
    (∀ name delta, ∃ d, (Change.adjustStat name delta).apply c = .ok d ∧
      (∃ v : Option Int, c.character.stat? name = v.map .int ∧
        d.character.stat? name = some (.int (floored name (v.getD 0 + delta)))) ∧
      ∀ other, fold name ≠ fold other → d.character.stat? other = c.character.stat? other) ∧
    (∀ delta, ∃ d, (Change.adjustCombat delta).apply c = .ok d ∧ c.RaisesCombat delta d ∧
      (c.character.coreSkills.contains bonusAttribute = false →
        (Change.adjustStat bonusAttribute delta).apply c = .ok d)) ∧
    ∀ es : List Effect, (∀ e ∈ es, e.change.IsAdjustment) →
      ∃ d, applyAll c es = (d, none) ∧
        (∀ name minimum (v : Option Int), c.character.stat? name = v.map .int →
          (Condition.stat name minimum).holds d =
            .ok ((accumulatedValue c.character.hidesBonus name v es).any
              fun value => decide (minimum ≤ value))) ∧
        ∀ minimum b, c.character.combatBonus = .int b →
          (Condition.combat minimum).holds d =
            .ok (decide (minimum ≤ accumulatedBonus c.character.hidesBonus b es)) := by
  refine ⟨fun name delta => ?_, fun delta => ?_, fun es hes => ?_⟩
  · obtain ⟨y, hy, hwrites⟩ := Character.exists_adjustStat h name delta
    refine ⟨c.withCharacter y, map_eq_ok_iff.mpr ⟨y, hy, rfl⟩, ⟨_, h.stat?_eq name, ?_⟩,
      fun other hother => ?_⟩
    · show y.stat? name = _
      rw [hwrites.whole.stat?_eq, hwrites.written]
      rfl
    · show y.stat? other = _
      rw [hwrites.whole.stat?_eq, hwrites.others other hother, h.stat?_eq]
  · refine ⟨_, apply_adjustCombat h delta, c.raisesCombat_withBonus h delta, fun hhides => ?_⟩
    rw [apply_adjustStat_bonusAttribute hhides, apply_adjustCombat h]
  · obtain ⟨d, hd, hadds⟩ := exists_applyAll_adjustments h hes
    refine ⟨d, hd, fun name minimum v hv => ?_, fun minimum b hb => ?_⟩
    · have hmap := (h.stat?_eq name).symm.trans hv
      have hvalue : c.character.value? name = v :=
        Option.map_injective (fun m n hmn => Json.int.inj hmn) hmap
      rw [holds_stat hadds.whole, hadds.value, hvalue]
    · have hbonus : c.character.bonus = b := Json.int.inj (h.combatBonus_eq.symm.trans hb)
      rw [holds_combat hadds.whole, hadds.bonus, hbonus]

/-- A fighter with a core skill and a bonus. -/
def fighter : Context where
  state := { character := {
    id := .str "c"
    combatSkill := 10
    endurance := 3
    attributes := NameMap.empty.set "combatskillbonus" (.int 2)
    coreSkills := NameMap.empty.set "Agility" (.int 4) } }

/-- Wounds, healing, and two changes of the bonus, one of them by name. -/
def skirmish : List Effect :=
  [⟨.adjustStat "ENDURANCE" (-5), ""⟩, ⟨.adjustStat "endurance" 2, ""⟩, ⟨.adjustCombat 3, ""⟩,
    ⟨.adjustStat "CombatSkillBonus" (-1), ""⟩, ⟨.adjustStat "agility" 2, ""⟩]

/-- Endurance starts again from zero, the bonus is four, and the core skill is six. -/
theorem adjustments_are_read_skirmish :
    fighter.character.HasWholeStats ∧ (∀ e ∈ skirmish, e.change.IsAdjustment) ∧
      ∃ d, applyAll fighter skirmish = (d, none) ∧
        (Condition.stat "Endurance" 2).holds d = .ok true ∧
        (Condition.stat "Endurance" 3).holds d = .ok false ∧
        (Condition.stat "Agility" 6).holds d = .ok true ∧
        (Condition.combat 4).holds d = .ok true ∧ (Condition.combat 5).holds d = .ok false := by
  have hwhole : fighter.character.HasWholeStats :=
    ⟨NameMap.whole_empty.set "combatskillbonus" 2, NameMap.whole_empty.set "Agility" 4⟩
  have hes : ∀ e ∈ skirmish, e.change.IsAdjustment := by
    simp [skirmish, Change.IsAdjustment]
  obtain ⟨d, hd, hstat, hcombat⟩ := (adjustments_are_read hwhole).2.2 skirmish hes
  refine ⟨hwhole, hes, d, hd, ?_, ?_, ?_, ?_, ?_⟩
  · exact (hstat "Endurance" 2 (some 3) rfl).trans (congrArg Except.ok (by decide))
  · exact (hstat "Endurance" 3 (some 3) rfl).trans (congrArg Except.ok (by decide))
  · exact (hstat "Agility" 6 (some 4) rfl).trans (congrArg Except.ok (by decide))
  · exact (hcombat 4 2 rfl).trans (congrArg Except.ok (by decide))
  · exact (hcombat 5 2 rfl).trans (congrArg Except.ok (by decide))

end Questbook
