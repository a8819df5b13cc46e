import Questbook.Context
import Questbook.Token.Reader

set_option autoImplicit false

/-! # Conditions on a context

`Condition.holds` decides a condition in a context. What is unknown does not hold: a value that the
character does not have, a counter that was never written, an unsupported condition. A fault arises
only where a loaded game state holds a value of the wrong type in the place that the condition looks
at.

Requirements are looked at in order, and the first that fails settles the matter
(`allHold`).
-/

namespace Questbook

/-- The names of the two scores, folded. -/
def combatSkillName : String := "combatskill"

def enduranceName : String := "endurance"

/-- The value of a character under a name: one of the two scores, a core skill, or an attribute. -/
def Character.stat? (c : Character) (name : String) : Option Json :=
  -- the scores come first: no core skill of the same name hides them
  if Text.fold name = combatSkillName then some (.int c.combatSkill)
  else if Text.fold name = enduranceName then some (.int c.endurance)
  else
    match c.coreSkills.get? name with
    | some v => some v
    | none => c.attributes.get? name

/-- Whether a value is at least a minimum. A value that is missing or null is not. -/
def reaches (value : Option Json) (minimum : Int) : Except Fault Bool :=
  match value with
  | none | some .null => .ok false
  | some v => v.atLeast minimum

/-- Whether a counter is at least a minimum. A counter that is missing is not. -/
def counterReaches (counters : NameMap Json) (name : String) (minimum : Int) :
    Except Fault Bool :=
  match counters.get? name with
  | none => .ok false
  | some v => v.atLeast minimum

/-- Whether a flag is set, and to the expected value if one is given. Case does not matter. -/
def flagMatches (flags : NameMap Json) (name : String) (expected : Option String) :
    Except Fault Bool :=
  match flags.get? name, expected with
  | none, _ => .ok false
  | some _, none => .ok true
  | some v, some e => v.text.map fun t => Text.fold t = Text.fold e

/-- Whether the character knows a discipline or has a core skill of a name. -/
def Character.hasSkill (c : Character) (name : String) : Except Fault Bool := do
  if ← c.hasDiscipline name then pure true else pure (c.coreSkills.contains name)

/-- **Whether a condition holds in a context.** -/
def Condition.holds (condition : Condition) (c : Context) : Except Fault Bool :=
  match condition with
  | .skill name => c.character.hasSkill name
  | .stat name minimum => reaches (c.character.stat? name) minimum
  | .item name => c.inventory.hasItem name
  | .flag name expected => flagMatches c.flags name expected
  | .counter name minimum => counterReaches c.counters name minimum
  | .combat minimum => c.character.combatBonus.atLeast minimum
  | .slot name minimum => counterReaches c.counters (slotCounter name) minimum
  | .unsupported => .ok false

/-- Whether a requirement holds in a context. -/
def Requirement.holds (r : Requirement) (c : Context) : Except Fault Bool :=
  r.condition.holds c

/-- Whether all requirements hold, up to the first that does not. -/
def allHold (c : Context) : List Requirement → Except Fault Bool
  | [] => .ok true
  | r :: rs => do
    if ← r.holds c then allHold c rs else pure false

theorem holds_unsupported (c : Context) : Condition.unsupported.holds c = .ok false := rfl

end Questbook
