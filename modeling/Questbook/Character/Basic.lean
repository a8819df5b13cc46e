import Questbook.Json.Fields
import Questbook.NameMap

set_option autoImplicit false

/-! # Characters

A character has two scores, combat skill and endurance, knows disciplines and core skills, has
further attributes, and carries items and counters. Effects of the play may add to combat skill;
what they have added is kept in a reserved attribute (`combatBonus`).

As with books, a loaded character is not checked beyond its two scores: names, disciplines and the
values of maps may be any JSON value.
-/

namespace Questbook

/-- The attribute that holds what effects have added to combat skill. -/
def bonusAttribute : String := "CombatSkillBonus"

/-- What the names of the counters that hold slots start with. -/
def slotLead : String := "slot:"

/-- The name of the counter that holds a slot. -/
def slotCounter (slot : String) : String := slotLead ++ slot

/-- The category of an item for which none is given. -/
def generalCategory : String := "general"

/-- Something carried. -/
structure Item where
  name : Json
  category : Json := .str generalCategory

/-- **What a character carries:** items, and counters such as gold or meals. -/
structure Inventory where
  items : List Item := []
  counters : NameMap Json := .empty

/-- **A character.** -/
structure Character where
  id : Json
  name : Json := .str ""
  combatSkill : Int := 0
  endurance : Int := 0
  disciplines : List Json := []
  attributes : NameMap Json := .empty
  coreSkills : NameMap Json := .empty
  inventory : Inventory := {}

instance : Inhabited Character := ⟨{ id := .str "" }⟩

/-! ## Reading -/

/-- The map that a field states; the empty one if it does not count as given. -/
def nameMapOf (j : Json) (name : String) : Except Fault (NameMap Json) := do
  NameMap.ofJson (← j.givenOr name (.obj []))

/-- The item that a document states. -/
def Item.ofJson (j : Json) : Except Fault Item := do
  let name ← j.fieldOr "name" (.str "")
  let category ← j.givenOr "category" (.str generalCategory)
  pure { name, category }

/-- The inventory that a document states. -/
def Inventory.ofJson (j : Json) : Except Fault Inventory := do
  let items ← Json.records Item.ofJson j "items"
  let counters ← nameMapOf j "counters"
  pure { items, counters }

/-- The character that a document states. One without an id takes `newId`. -/
def Character.ofJson (newId : String) (j : Json) : Except Fault Character := do
  let id := (← j.fieldOr "characterId" .null).orElse (.str newId)
  let name ← j.givenOr "name" (.str "")
  let combatSkill ← j.wholeOr "combatSkill" 0
  let endurance ← j.wholeOr "endurance" 0
  let disciplines ← j.listed "disciplines"
  let attributes ← nameMapOf j "attributes"
  let coreSkills ← nameMapOf j "coreSkills"
  let inventory ← Inventory.ofJson (← j.givenOr "inventory" (.obj []))
  pure { id, name, combatSkill, endurance, disciplines, attributes, coreSkills, inventory }

/-! ## Writing -/

def Item.toJson (i : Item) : Json :=
  .obj [("name", i.name), ("category", i.category)]

def Inventory.toJson (i : Inventory) : Json :=
  .obj [("items", .arr (i.items.map Item.toJson)), ("counters", i.counters.toJson)]

def Character.toJson (c : Character) : Json :=
  .obj [("characterId", c.id), ("name", c.name), ("combatSkill", .int c.combatSkill),
    ("endurance", .int c.endurance), ("disciplines", .arr c.disciplines),
    ("attributes", c.attributes.toJson), ("coreSkills", c.coreSkills.toJson),
    ("inventory", c.inventory.toJson)]

/-! ## Questions -/

/-- Whether a value names what a folded name names. Only texts are names. -/
def isNamed (folded : String) (j : Json) : Except Fault Bool := do
  pure (Text.fold (← j.asText) = folded)

/-- Whether one of the values names what a folded name names. The search stops at the first that
does, and at the first that is no text. -/
def anyNamed (folded : String) : List Json → Except Fault Bool
  | [] => .ok false
  | x :: xs => do
    if ← isNamed folded x then pure true else anyNamed folded xs

/-- Whether an item of this name is carried. -/
def Inventory.hasItem (i : Inventory) (name : String) : Except Fault Bool :=
  anyNamed (Text.fold name) (i.items.map Item.name)

/-- Whether the character knows the discipline. -/
def Character.hasDiscipline (c : Character) (name : String) : Except Fault Bool :=
  anyNamed (Text.fold name) c.disciplines

/-- What effects have added to combat skill. -/
def Character.combatBonus (c : Character) : Json :=
  (c.attributes.get? bonusAttribute).getD (.int 0)

/-- Combat skill with what effects have added. -/
def Character.effectiveCombatSkill (c : Character) : Except Fault Json :=
  c.combatBonus.addWhole c.combatSkill

/-- A character with nothing but an id. -/
def Character.blank (newId : String) : Character := { id := .str newId }

end Questbook
