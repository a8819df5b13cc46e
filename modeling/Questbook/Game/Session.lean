import Questbook.Game.Basic

set_option autoImplicit false

/-! # Sessions

A `Session` is a game together with the state of the play. Two operations change the state: taking a
choice (`Session.applyChoice`) and fighting a round (`Session.fight`).

Taking a choice ends in one of four ways (`ChoiceResult`). Only a choice that is applied changes the
state; a fault on the way leaves the changes of the effects that were applied before it, but never
moves the play to another section.
-/

namespace Questbook

/-- **How taking a choice ended.** -/
inductive ChoiceResult
  /-- The requirements do not hold. -/
  | refused (choice : Choice)
  /-- Several outcomes match the roll, and none of them has been picked. -/
  | undecided (roll : Json) (candidates : List RandomOutcome)
  /-- The choice leads to a section that the book does not have. -/
  | strayed (roll : Json) (outcome : Option RandomOutcome) (target : Json)
  /-- The effects were applied, and the play has moved to a section. -/
  | applied (roll : Json) (outcome : Option RandomOutcome) (reached : Section)
      (effects : List Effect)

namespace ChoiceResult

/-- The name of the way in which taking a choice ended. -/
def status : ChoiceResult → String
  | refused _ => "requirements_not_met"
  | undecided _ _ => "ambiguous_outcome"
  | strayed _ _ _ => "target_not_found"
  | applied _ _ _ _ => "applied"

def isApplied : ChoiceResult → Bool
  | applied _ _ _ _ => true
  | _ => false

/-- The roll that was made or given; null if there was none. -/
def roll : ChoiceResult → Json
  | refused _ => .null
  | undecided roll _ | strayed roll _ _ | applied roll _ _ _ => roll

/-- The outcome of the roll. -/
def outcome : ChoiceResult → Option RandomOutcome
  | strayed _ outcome _ | applied _ outcome _ _ => outcome
  | _ => none

/-- The outcomes to pick from. -/
def candidates : ChoiceResult → List RandomOutcome
  | undecided _ candidates => candidates
  | _ => []

/-- The section that the play has moved to. -/
def reached : ChoiceResult → Option Section
  | applied _ _ reached _ => some reached
  | _ => none

/-- The effects that were applied. -/
def effects : ChoiceResult → List Effect
  | applied _ _ _ effects => effects
  | _ => []

/-- **What the player is told** when a choice is not applied. -/
def message : ChoiceResult → Except Fault String
  | refused choice => do
    pure ("Requirements not met for choice '" ++ (← (choice.text.orElse choice.target).text) ++
      "'.")
  | undecided roll candidates => do
    pure ("Roll " ++ (← roll.text) ++ " matches " ++ toString candidates.length ++ " outcomes.")
  | strayed _ _ target => do
    pure ("Section '" ++ (← target.text) ++ "' does not exist.")
  | applied _ _ _ _ => .ok ""

end ChoiceResult

/-- What a roll decides about a choice. -/
inductive Verdict
  /-- The choice goes on, with an outcome if one applies. -/
  | settled (roll : Json) (outcome : Option RandomOutcome)
  /-- Several outcomes match, and none of them has been picked. -/
  | contested (roll : Json) (candidates : List RandomOutcome)

/-- The verdict when a roll brings about some outcomes. A single one applies; of several, the one
that is picked. -/
def Verdict.ofMatches (roll : Json) (picked : Option RandomOutcome) :
    List RandomOutcome → Verdict
  | [] => .settled roll none
  | [o] => .settled roll (some o)
  | os =>
    match picked with
    | none => .contested roll os
    -- only an outcome that matches the roll can be picked
    | some p => if os.any fun o => o.same p then .settled roll (some p) else .contested roll os

/-- The target of a choice, unless an outcome redirects it. -/
def targetOf (choice : Choice) (outcome : Option RandomOutcome) : Except Fault Json :=
  match outcome with
  | none => .ok choice.target
  | some o => do
    if ← o.hasTarget then pure o.target else pure choice.target

/-- The effects of a choice, given what governs it, and of an outcome. -/
def effectsOf (rules : RuleSet) (outcome : Option RandomOutcome) : Except Fault (List Effect) :=
  match outcome with
  | none => .ok rules.effects
  | some o => do pure (rules.effects ++ (← o.effects.mapM Effect.ofJson))

/-- **A game and the state of the play.** -/
structure Session where
  game : Game
  state : GameState

namespace Session

/-- A computation of the game. -/
def withGame {α : Type} (p : GameState → Play Game α) : Play Session α :=
  .ofFunction fun s =>
    let (r, game) := (p s.state).result s.game
    (r, { s with game })

/-- The roll that a choice with outcomes is decided by: one that is given has to be on the Random
Number Table. -/
def rollFor (given : Json) : Play Session Json :=
  match given with
  | .null => withGame fun _ => Game.withEngine fun _ => Engine.roll
  | roll => do
    if ← .ofExcept (isBetween roll minRoll maxRoll) then pure roll
    else .ofExcept (.error .rollOutOfRange)

/-- What the roll decides about a choice. A choice without outcomes needs no roll. -/
def settle (choice : Choice) (given : Json) (picked : Option RandomOutcome) :
    Play Session Verdict :=
  if choice.needsRoll then do
    let roll ← rollFor given
    let os ← .ofExcept (choice.matching roll)
    pure (Verdict.ofMatches roll picked os)
  else pure (.settled given none)

/-- Applies effects and moves to a section. -/
def moveTo (reached : Section) (effects : List Effect) : Play Session Unit :=
  .ofFunction fun s =>
    match applyAll { state := s.state } effects with
    -- the section is entered when all effects have been applied
    | (c, none) => (.ok (), { s with state := { c.state with sectionId := .str reached.id } })
    | (c, some f) => (.error f, { s with state := c.state })

/-- Goes on with a choice that may be taken, once the outcome of the roll is known. -/
def follow (choice : Choice) (rules : RuleSet) (roll : Json) (outcome : Option RandomOutcome) :
    Play Session ChoiceResult := do
  let target ← .ofExcept (targetOf choice outcome)
  let effects ← .ofExcept (effectsOf rules outcome)
  let book ← withGame Game.bookOf
  match book.sectionAt? target with
  | none => pure (.strayed roll outcome target)
  | some reached => do
    moveTo reached effects
    pure (.applied roll outcome reached effects)

/-- **Takes a choice.** The roll may be given, and so may the outcome that the player picks when
several match.

1. The choice is refused if its requirements do not hold.
2. A choice with outcomes is decided by the roll; several matching outcomes are left to the player.
3. The outcome may redirect the choice and adds its effects to those that govern the choice.
4. If the book has the section, the effects are applied and the play moves there. -/
def applyChoice (choice : Choice) (given : Json) (picked : Option RandomOutcome) :
    Play Session ChoiceResult := do
  let state := (← get).state
  let rules ← withGame fun _ => Game.withEngine fun files =>
    Engine.rulesFor files choice { state }
  -- the requirements see the state as it is, and no scratch flags
  let e ← .ofExcept (Engine.evaluateWith choice rules { state })
  if e.isAvailable then
    match ← settle choice given picked with
    | .contested roll candidates => pure (.undecided roll candidates)
    | .settled roll outcome => follow choice rules roll outcome
  else pure (.refused choice)

/-- Gives the character of the state what endurance a round has left. -/
def endure (endurance : Int) : Play Session Unit :=
  .ofFunction fun s =>
    let character := { s.state.character with endurance }
    (.ok (), { s with state := { s.state with character } })

/-- **Fights a round** by the table of the series, with a given roll or one that is made. The
character loses the endurance that the round costs. -/
def fight (enemySkill enemyEndurance given : Json) : Play Session RoundResult := do
  let state := (← get).state
  let roll ← withGame fun _ => Game.withEngine fun _ => Engine.rollUnless given
  let result ← withGame fun _ => Game.withEngine fun files =>
    Engine.fight files state.character enemySkill enemyEndurance roll state.series
  -- the enemy is not part of the state, so that only the player is changed
  endure result.playerEndurance
  pure result

end Session

end Questbook
