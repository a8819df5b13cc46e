import Questbook.Proofs.Token.Effects

set_option autoImplicit false

/-! # Counters that are updated and asked for

Slots are counters under names of their own. A change updates one counter at most, whether it names the
counter or a slot (`Change.counterUpdate?`), and a condition asks for one at most
(`Condition.counterThreshold?`). All other changes and conditions neither read nor write counters
(`Change.apply_withCounters`, `Condition.holds_withCounters`).
-/

namespace Questbook

open Text

/-- The counter that a change updates, and how. -/
def Change.counterUpdate? : Change → Option (String × Update)
  | updateCounter name update => some (name, update)
  | updateSlot name update => some (slotCounter name, update)
  | _ => none

/-- The counter that a condition asks for, and the minimum. -/
def Condition.counterThreshold? : Condition → Option (String × Int)
  | counter name minimum => some (name, minimum)
  | slot name minimum => some (slotCounter name, minimum)
  | _ => none

/-- **The value that an update leaves,** given the old one. A missing one counts as zero. -/
def Update.onto (old : Option Int) : Update → Int
  | set value => value
  | shift delta => old.getD 0 + delta

/-! ## The map of counters -/

namespace NameMap.Whole

variable {m : NameMap Json}

/-- Counters that are whole numbers are updated without a fault. -/
theorem updateUnder_eq (h : m.Whole) (name : String) (update : Update) :
    Questbook.updateUnder m name update =
      .ok (m.set name (.int (update.onto (m.whole? name)))) := by
  cases update with
  | set value => rfl
  | shift delta => exact h.addUnder_eq name delta

end NameMap.Whole

/-! ## Changes and conditions -/

variable {change : Change} {condition : Condition} {c d : Context} {name : String} {update : Update}
  {minimum : Int}

theorem Change.apply_of_counterUpdate? (h : change.counterUpdate? = some (name, update)) (c : Context) :
    change.apply c = (updateUnder c.counters name update).map c.withCounters := by
  cases change with
  | updateCounter other u =>
      cases h
      rfl
  | updateSlot slot u =>
      cases h
      rfl
  | _ => cases h

/-- **An update of a counter** writes one value. -/
theorem Change.apply_update (hc : c.counters.Whole)
    (h : change.counterUpdate? = some (name, update)) :
    change.apply c =
      .ok (c.withCounters (c.counters.set name (.int (update.onto (c.counters.whole? name))))) := by
  rw [Change.apply_of_counterUpdate? h, hc.updateUnder_eq]
  rfl

theorem Condition.holds_of_counterThreshold?
    (h : condition.counterThreshold? = some (name, minimum)) (c : Context) :
    condition.holds c = counterReaches c.counters name minimum := by
  cases condition with
  | counter other k =>
      cases h
      rfl
  | slot other k =>
      cases h
      rfl
  | _ => cases h

/-- A condition that asks for no counter is answered regardless of the counters. -/
theorem Condition.holds_withCounters (h : condition.counterThreshold? = none) (c : Context)
    (m : NameMap Json) : condition.holds (c.withCounters m) = condition.holds c := by
  cases condition with
  | counter other k => cases h
  | slot other k => cases h
  | _ => rfl

/-! ## Changes of other things -/

/-- The character with other counters. -/
def Character.withCounters (x : Character) (m : NameMap Json) : Character :=
  { x with inventory := { x.inventory with counters := m } }

theorem Character.adjustStat_withCounters (x : Character) (m : NameMap Json) (name : String)
    (delta : Int) :
    (x.withCounters m).adjustStat name delta =
      (x.adjustStat name delta).map fun y => y.withCounters m := by
  unfold adjustStat
  split
  · rfl
  split
  · rfl
  show (if x.coreSkills.contains name then _ else _) = _
  split
  · show (addUnder x.coreSkills name delta >>= _) = _
    cases addUnder x.coreSkills name delta <;> rfl
  · show (addUnder x.attributes name delta >>= _) = _
    cases addUnder x.attributes name delta <;> rfl

theorem Character.grant_withCounters (x : Character) (m : NameMap Json) (name : String) :
    (x.withCounters m).grant name = (x.grant name).map fun y => y.withCounters m := by
  unfold grant
  show (x.hasDiscipline name >>= _) = _
  cases x.hasDiscipline name with
  | error f => rfl
  | ok known => cases known <;> rfl

theorem map_withCharacter_withCounters (c : Context) (m : NameMap Json)
    (r : Except Fault Character) :
    (r.map fun y => y.withCounters m).map (c.withCounters m).withCharacter =
      (r.map c.withCharacter).map fun d => d.withCounters m := by
  cases r <;> rfl

/-- **A change that updates no counter** does the same whatever the counters are, and leaves them. -/
theorem Change.apply_withCounters (h : change.counterUpdate? = none) (c : Context)
    (m : NameMap Json) :
    change.apply (c.withCounters m) = (change.apply c).map fun d => d.withCounters m := by
  cases change with
  | adjustStat other delta =>
      show ((c.character.withCounters m).adjustStat other delta).map _ = _
      rw [Character.adjustStat_withCounters]
      exact map_withCharacter_withCounters c m _
  | grantDiscipline other =>
      show ((c.character.withCounters m).grant other).map _ = _
      rw [Character.grant_withCounters]
      exact map_withCharacter_withCounters c m _
  | adjustCombat delta =>
      show (addUnder c.character.attributes bonusAttribute delta).map _ = Except.map _ (Except.map _ _)
      cases addUnder c.character.attributes bonusAttribute delta <;> rfl
  | removeItem other =>
      show (dropNamed (fold other) c.inventory.items).map _ = Except.map _ (Except.map _ _)
      cases dropNamed (fold other) c.inventory.items <;> rfl
  | updateCounter other u => cases h
  | updateSlot slot u => cases h
  | damage _ | heal _ | addItem _ _ | setFlag _ _ | unsupported => rfl

theorem Change.counters_of_apply (h : change.counterUpdate? = none) (hd : change.apply c = .ok d) :
    d.counters = c.counters := by
  have hsame := Change.apply_withCounters h c c.counters
  rw [show c.withCounters c.counters = c from rfl, hd] at hsame
  rw [Except.ok.inj hsame]
  rfl

end Questbook
