import Questbook.Character.Basic
import Questbook.Series.Key

set_option autoImplicit false

/-! # Profiles of series

Each series has skills of its own to choose from, and a new character starts with the core skills,
counters and items of its series. `profileOf?` finds the profile of a key, and `newCharacter` is the
character that a new game starts with.
-/

namespace Questbook

/-- **What a series gives to a new character.** -/
structure SeriesProfile where
  key : String
  name : String
  skillNames : List String := []
  coreSkills : List (String × Int) := []
  counters : List (String × Int) := []
  items : List (String × String) := []
  deriving DecidableEq, Repr

namespace Series

def loneWolf : SeriesProfile where
  key := "lw"
  name := "Lone Wolf"
  skillNames := ["Camouflage", "Hunting", "Sixth Sense", "Tracking", "Healing", "Weaponskill",
    "Mindshield", "Mindblast", "Animal Kinship", "Mind Over Matter"]
  counters := [("Gold Crowns", 0), ("Meals", 0)]

def greyStar : SeriesProfile where
  key := "gs"
  name := "Grey Star"
  skillNames := ["Sorcery", "Enchantment", "Elementalism", "Alchemy", "Prophecy", "Psychomancy",
    "Evocation"]
  counters := [("Gold Crowns", 0)]

def freewayWarrior : SeriesProfile where
  key := "fw"
  name := "Freeway Warrior"
  coreSkills := [("Driving", 3), ("Shooting", 3), ("Field Craft", 3), ("Stealth", 3),
    ("Perception", 3)]
  counters := [("Bullets", 0), ("Fuel", 0)]

/-- The profiles under the normal forms of their keys. -/
def profiles : List (String × SeriesProfile) :=
  [("lw", loneWolf), ("lonewolf", loneWolf), ("gs", greyStar), ("greystar", greyStar),
    ("fw", freewayWarrior), ("freewaywarrior", freewayWarrior)]

/-- The profile of a key, if the series is known. -/
def profileOf? (key : Option String) : Option SeriesProfile :=
  profiles.lookup (normalKey key)

/-- Whole numbers under names as a list of fields. -/
def wholeFields (fs : List (String × Int)) : List (String × Json) :=
  fs.map fun f => (f.1, .int f.2)

/-- **The character that a new game of a series starts with.** A series that is not known gives a
character with nothing but an id. -/
def newCharacter (newId : String) (key : Option String) : Character :=
  let c := Character.blank newId
  match profileOf? key with
  | none => c
  | some p =>
    { c with
      coreSkills := c.coreSkills.setAll (wholeFields p.coreSkills)
      inventory := {
        items := c.inventory.items ++
          p.items.map fun i => { name := .str i.1, category := .str i.2 }
        counters := c.inventory.counters.setAll (wholeFields p.counters) } }

end Series

end Questbook
