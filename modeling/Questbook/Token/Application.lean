import Questbook.Token.Evaluation

set_option autoImplicit false

/-! # Applying effects

`Change.apply` makes one change to a context or, where a loaded game state holds a value that cannot
be changed in this way, makes none. `applyAll` makes changes one after the other: a fault stops it,
and what was changed before stays changed.

Endurance never falls below zero by an effect; nothing else has a bound, and counters may become
negative.
-/

namespace Questbook

/-- The map with a whole number added to the value under a name, which counts as zero if it is
missing. -/
def addUnder (m : NameMap Json) (name : String) (delta : Int) : Except Fault (NameMap Json) := do
  pure (m.set name (← ((m.get? name).getD (.int 0)).addWhole delta))

/-- The map with an update made under a name. -/
def updateUnder (m : NameMap Json) (name : String) : Update → Except Fault (NameMap Json)
  | .set value => .ok (m.set name (.int value))
  | .shift delta => addUnder m name delta

/-- The character with a value under a name changed: one of the two scores, a core skill if there is
one of that name, or else an attribute. -/
def Character.adjustStat (c : Character) (name : String) (delta : Int) : Except Fault Character :=
  if Text.fold name = combatSkillName then .ok { c with combatSkill := c.combatSkill + delta }
  else if Text.fold name = enduranceName then
    -- endurance alone has a floor
    .ok { c with endurance := max 0 (c.endurance + delta) }
  else if c.coreSkills.contains name then do
    pure { c with coreSkills := ← addUnder c.coreSkills name delta }
  else do
    pure { c with attributes := ← addUnder c.attributes name delta }

/-- The items without the first one of a name, given folded. The search stops at an item whose name
is no text. -/
def dropNamed (folded : String) : List Item → Except Fault (List Item)
  | [] => .ok []
  | i :: is => do
    if ← isNamed folded i.name then pure is
    else pure (i :: (← dropNamed folded is))

/-- The character with a discipline, unless it is known already. -/
def Character.grant (c : Character) (name : String) : Except Fault Character := do
  if ← c.hasDiscipline name then pure c
  else pure { c with disciplines := c.disciplines ++ [.str name] }

/-- **The context after a change.** -/
def Change.apply (change : Change) (c : Context) : Except Fault Context :=
  match change with
  | .adjustStat name delta => (c.character.adjustStat name delta).map c.withCharacter
  | .adjustCombat delta =>
    (addUnder c.character.attributes bonusAttribute delta).map fun attributes =>
      c.withCharacter { c.character with attributes }
  | .damage amount =>
    .ok (c.withCharacter { c.character with endurance := max 0 (c.character.endurance - amount) })
  | .heal amount =>
    .ok (c.withCharacter { c.character with endurance := c.character.endurance + amount })
  | .addItem name category =>
    .ok (c.withItems (c.inventory.items ++ [{ name := .str name, category := .str category }]))
  | .removeItem name => (dropNamed (Text.fold name) c.inventory.items).map c.withItems
  | .setFlag name value => .ok { c with flags := c.flags.set name (.str value) }
  | .grantDiscipline name => (c.character.grant name).map c.withCharacter
  | .updateCounter name update => (updateUnder c.counters name update).map c.withCounters
  | .updateSlot name update =>
    (updateUnder c.counters (slotCounter name) update).map c.withCounters
  | .unsupported => .ok c

/-- **The context after a list of effects,** and the fault that stopped them, if one did. -/
def applyAll (c : Context) : List Effect → Context × Option Fault
  | [] => (c, none)
  | e :: es =>
    match e.change.apply c with
    | .ok c => applyAll c es
    | .error f => (c, some f)

end Questbook
