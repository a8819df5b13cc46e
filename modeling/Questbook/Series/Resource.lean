import Questbook.Catalog
import Questbook.Combat.Table
import Questbook.Files.Tree
import Questbook.Json.Reader
import Questbook.Series.Key

set_option autoImplicit false

/-! # Resources of series

Combat tables and rule catalogs come as documents, one for each series and a default one in each of
the two families. Those listed here are built in; a key may also be the path of a document of the
author's own, which is taken first.

`loadDocument` finds the document of a key: the file at that path, or else the built-in document of
the series or of that name, or else the default one of the family.
-/

namespace Questbook.Series

/-! ## Built-in documents -/

/-- Numbers the losses of a band from roll zero on. -/
def rowsFrom (roll : Int) : List (Int × Int) → List CombatRow
  | [] => []
  | l :: ls => ⟨roll, l.1, l.2⟩ :: rowsFrom (roll + 1) ls

/-- A band with the losses of player and enemy at the rolls from zero to nine. -/
def band (min max : Int) (losses : List (Int × Int)) : RatioBand :=
  { min, max, rows := rowsFrom 0 losses }

/-- The combat table of all series. -/
def standardTable : CombatTable where
  bands := [
    band (-99) (-11)
      [(0, 6), (99, 0), (99, 0), (8, 0), (8, 0), (7, 1), (6, 2), (5, 3), (4, 4), (3, 5)],
    band (-10) (-9)
      [(0, 7), (99, 0), (8, 0), (7, 1), (7, 1), (6, 2), (6, 3), (5, 4), (4, 5), (3, 6)],
    band (-8) (-7)
      [(0, 8), (8, 0), (7, 0), (6, 2), (6, 2), (5, 3), (5, 4), (4, 5), (3, 6), (2, 7)],
    band (-6) (-5)
      [(0, 9), (6, 0), (6, 1), (5, 3), (5, 3), (4, 4), (4, 5), (3, 6), (2, 7), (0, 8)],
    band (-4) (-3)
      [(0, 10), (6, 1), (5, 2), (5, 4), (4, 4), (4, 5), (3, 6), (2, 7), (1, 8), (0, 9)],
    band (-2) (-1)
      [(0, 11), (5, 2), (5, 3), (4, 5), (4, 5), (3, 6), (2, 7), (2, 8), (1, 9), (0, 10)],
    band 0 0
      [(0, 12), (5, 3), (4, 4), (4, 6), (3, 6), (2, 7), (2, 8), (1, 9), (0, 10), (0, 11)],
    band 1 2
      [(0, 14), (5, 4), (4, 5), (3, 7), (3, 7), (2, 8), (2, 9), (1, 10), (0, 11), (0, 12)],
    band 3 4
      [(0, 16), (4, 5), (3, 6), (3, 8), (2, 8), (2, 9), (2, 10), (1, 11), (0, 12), (0, 14)],
    band 5 6
      [(0, 18), (4, 6), (3, 7), (3, 9), (2, 9), (2, 10), (1, 11), (0, 12), (0, 14), (0, 16)],
    band 7 8
      [(0, 99), (4, 7), (3, 8), (2, 10), (2, 10), (2, 11), (1, 12), (0, 14), (0, 16), (0, 18)],
    band 9 10
      [(0, 99), (3, 8), (3, 9), (2, 11), (2, 11), (2, 12), (1, 14), (0, 16), (0, 18), (0, 99)],
    band 11 99
      [(0, 99), (3, 9), (2, 10), (2, 12), (2, 12), (1, 14), (1, 16), (0, 18), (0, 99), (0, 99)]]

/-- A rule of texts. -/
def rule (id : String) (requirements effects : List String) : Rule :=
  { id, requirements := requirements.map .str, effects := effects.map .str }

def defaultRules : List Rule :=
  [rule "eat-meal" ["counter:Meals>=1"] ["counter:Meals:-1"],
    rule "missed-meal" [] ["endurance:damage:3"],
    rule "pay-gold-crown" ["counter:Gold Crowns>=1"] ["counter:Gold Crowns:-1"]]

def freewayWarriorRules : List Rule :=
  [rule "fire-shot" ["counter:Bullets>=1"] ["counter:Bullets:-1"],
    rule "refuel" [] ["counter:Fuel:+2"],
    rule "drive-on" ["counter:Fuel>=1"] ["counter:Fuel:-1"],
    rule "skilled-driver" ["stat:Driving>=3"] [],
    rule "stow-cargo" [] ["slot:Cargo:+1"],
    rule "cargo-loaded" ["slot:Cargo>=1"] []]

def greyStarRules : List Rule :=
  [rule "eat-meal" ["counter:Meals>=1"] ["counter:Meals:-1"],
    rule "pay-gold-crown" ["counter:Gold Crowns>=1"] ["counter:Gold Crowns:-1"],
    rule "spend-willpower" ["stat:Willpower>=1"] ["stat:Willpower:-1"],
    rule "wield-wizards-staff" ["item:Wizard's Staff"] ["combat:2"],
    rule "sorcery-power" ["skill:Sorcery", "stat:Willpower>=2"] ["stat:Willpower:-2"]]

def loneWolfRules : List Rule :=
  [rule "eat-meal" ["counter:Meals>=1"] ["counter:Meals:-1"],
    rule "missed-meal" [] ["endurance:damage:3"],
    rule "hunting-forage" ["skill:Hunting"] [],
    rule "pay-gold-crown" ["counter:Gold Crowns>=1"] ["counter:Gold Crowns:-1"],
    rule "healing-rest" ["skill:Healing"] ["endurance:heal:1"],
    rule "mindblast-attack" ["skill:Mindblast"] ["combat:2"],
    rule "wield-sommerswerd" ["item:Sommerswerd"] ["combat:8", "flag:sommerswerd-drawn"],
    rule "mindshield-defence" ["skill:Mindshield"] ["flag:mindshield-active"]]

/-- The document of a list of rules. -/
def rulesDocument (rules : List Rule) : Json :=
  Catalog.toJson { rules }

/-- **The built-in documents** under their names. -/
def builtIn : List (String × Json) :=
  [("CombatTable.FreewayWarrior.json", standardTable.toJson),
    ("CombatTable.GreyStar.json", standardTable.toJson),
    ("CombatTable.LoneWolf.json", standardTable.toJson),
    ("CombatTable.json", standardTable.toJson),
    ("RulesCatalog.FreewayWarrior.json", rulesDocument freewayWarriorRules),
    ("RulesCatalog.GreyStar.json", rulesDocument greyStarRules),
    ("RulesCatalog.LoneWolf.json", rulesDocument loneWolfRules),
    ("RulesCatalog.json", rulesDocument defaultRules)]

/-- The built-in document of a name, without regard to case. -/
def builtIn? (name : String) : Option Json :=
  (builtIn.find? fun d => Text.fold d.1 = Text.fold name).map fun d => d.2

/-- The families of documents. -/
def tableFamily : String := "CombatTable"

def catalogFamily : String := "RulesCatalog"

/-! ## Finding documents -/

/-- The middle of the names of a series' documents, under the normal forms of its keys. -/
def middles : List (String × String) :=
  [("lw", ".LoneWolf"), ("lonewolf", ".LoneWolf"), ("gs", ".GreyStar"), ("greystar", ".GreyStar"),
    ("fw", ".FreewayWarrior"), ("freewaywarrior", ".FreewayWarrior"), (defaultKey, "")]

/-- The name of the document of a family that a key stands for. A key that names a document stands
for that name; a blank or unknown key stands for none. -/
def documentName? (key : Option String) (family : String) : Option String :=
  match key with
  | none => none
  | some key =>
    if Text.isBlank key then none
    else if namesDocument (Text.trim key) then some (Text.trim key)
    else (middles.lookup (normalKey (some (Text.trim key)))).map fun m => family ++ m ++ ".json"

/-- The object that a file states. A file that cannot be read states none; a numeral with too many
digits is a fault. -/
def readObject (files : FileTree) (p : Path) : Except Fault (Option Json) :=
  match files.read p with
  | .error _ => .ok none
  | .ok bytes =>
    match Json.readBytes bytes with
    | .ok (.obj fs) => .ok (some (.obj fs))
    | .ok _ => .ok none
    | .error .malformed => .ok none
    | .error .longNumeral => .error .longNumeral

/-- The built-in document of a name, or else the default one of the family. -/
def builtInOrDefault (name : String) (family : String) : Option Json :=
  match builtIn? name with
  | some d => some d
  | none => builtIn? (family ++ ".json")

/-- **The document of a key** in a family. -/
def loadDocument (files : FileTree) (key : Option String) (family : String) :
    Except Fault (Option Json) :=
  let name := (documentName? key family).getD (family ++ ".json")
  match key with
  | none => .ok (builtInOrDefault name family)
  | some key =>
    if Text.isBlank key then .ok (builtInOrDefault name family)
    else
      -- a file of the author's own comes first, even under the key of a series
      let direct := Path.parse (Text.trim key)
      if files.isFile direct then readObject files direct
      else .ok (builtInOrDefault name family)

/-- The combat table of a key. What cannot be read gives an empty table. -/
def loadTable (files : FileTree) (key : Option String) : Except Fault CombatTable := do
  CombatTable.ofJson ((← loadDocument files key tableFamily).getD .null)

/-- The rule catalog of a key. What cannot be read gives an empty catalog. -/
def loadCatalog (files : FileTree) (key : Option String) : Except Fault Catalog := do
  Catalog.ofJson ((← loadDocument files key catalogFamily).getD .null)

end Questbook.Series
