import Questbook.Combat.Round
import Questbook.Play
import Questbook.Roll.Outcomes
import Questbook.Roll.Source
import Questbook.Series.Cache
import Questbook.Series.Resource
import Questbook.Token.Application

set_option autoImplicit false

/-! # The engine

An `Engine` decides what the rules say: whether a choice may be taken (`Engine.evaluate`), which
requirements and effects govern it (`Engine.rulesFor`), and how a round of combat ends
(`Engine.fight`). It holds what such decisions need beyond the game itself: a source of rolls, and
the combat tables and rule catalogs of the series, which it loads when they are first needed. The
loads it has asked for are listed, the earliest first.
-/

namespace Questbook

/-- The families of resources that an engine loads. -/
inductive ResourceFamily
  | table
  | catalog
  deriving DecidableEq, Repr

/-- How an engine comes by its resources, given the files and the normal form of a key. -/
structure Loaders where
  table : FileTree → String → Except Fault CombatTable
  catalog : FileTree → String → Except Fault Catalog

/-- Loads the resources of series from the documents of their keys. -/
def Loaders.standard : Loaders where
  table files key := Series.loadTable files (some key)
  catalog files key := Series.loadCatalog files (some key)

/-- **An engine.** -/
structure Engine where
  loaders : Loaders := .standard
  source : RollSource
  tables : SeriesCache CombatTable := {}
  catalogs : SeriesCache Catalog := {}
  loads : List (ResourceFamily × String) := []

/-- **Whether a choice may be taken,** and the outcomes that a roll decides on. -/
structure Evaluation where
  isAvailable : Bool
  outcomes : List RandomOutcome

/-- Whether taking the choice needs a roll. -/
def Evaluation.needsRoll (e : Evaluation) : Bool := !e.outcomes.isEmpty

namespace Engine

/-- The list of loads with the one that a request made, if it made one. -/
def noted (e : Engine) (family : ResourceFamily) (request : Option String) :
    List (ResourceFamily × String) :=
  e.loads ++ (request.map fun key => (family, key)).toList

/-- **The combat table of a series.** -/
def tableOf (files : FileTree) (key : Option String) : Play Engine CombatTable :=
  .ofFunction fun e =>
    let a := e.tables.getOrLoad key (e.loaders.table files)
    (a.result, { e with tables := a.cache, loads := e.noted .table a.request })

/-- **The rule catalog of a series.** -/
def catalogOf (files : FileTree) (key : Option String) : Play Engine Catalog :=
  .ofFunction fun e =>
    let a := e.catalogs.getOrLoad key (e.loaders.catalog files)
    (a.result, { e with catalogs := a.cache, loads := e.noted .catalog a.request })

/-- A roll on the Random Number Table. -/
def roll : Play Engine Json :=
  .ofFunction fun e =>
    let (r, source) := e.source.roll
    (r, { e with source })

/-- The roll that is given, or else one from the source. Null gives none. -/
def rollUnless (given : Json) : Play Engine Json :=
  match given with
  | .null => roll
  | r => pure r

/-- **The requirements and effects that govern a choice** in the series of a context. -/
def rulesFor (files : FileTree) (choice : Choice) (c : Context) : Play Engine RuleSet := do
  let key ← .ofExcept (Series.keyOfJson c.state.series)
  let catalog ← catalogOf files key
  .ofExcept (catalog.rulesFor choice)

/-- Whether the requirements of a choice hold, given what governs it. -/
def evaluateWith (choice : Choice) (rules : RuleSet) (c : Context) : Except Fault Evaluation := do
  pure { isAvailable := ← allHold c rules.requirements, outcomes := choice.outcomes }

/-- **Decides whether a choice may be taken:** all its requirements have to hold, those of the rules
that it names included. -/
def evaluate (files : FileTree) (choice : Choice) (c : Context) : Play Engine Evaluation := do
  let rules ← rulesFor files choice c
  .ofExcept (evaluateWith choice rules c)

/-- **Resolves a round of combat** by the table of a series. The player is not changed. -/
def fight (files : FileTree) (player : Character) (enemySkill enemyEndurance roll series : Json) :
    Play Engine RoundResult := do
  let key ← .ofExcept (Series.keyOfJson series)
  let table ← tableOf files key
  .ofExcept (resolveRound player enemySkill enemyEndurance roll table)

end Engine

end Questbook
