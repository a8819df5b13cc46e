import Questbook.Character.Basic
import Questbook.Combat.Table

set_option autoImplicit false

/-! # Rounds of combat

`resolveRound` finds the losses of both sides in one round and what endurance that leaves them,
which is never below zero. It reports and changes nothing. A side is defeated when its losses take
all of its endurance.
-/

namespace Questbook

/-- **The result of a round.** -/
structure RoundResult where
  ratio : Number
  playerLoss : Int
  enemyLoss : Int
  playerEndurance : Int
  enemyEndurance : Number
  playerDefeated : Bool
  enemyDefeated : Bool
  deriving DecidableEq, Repr

/-- The result in one line. A ratio that is not whole cannot be written with its sign. -/
def RoundResult.describe (r : RoundResult) : Except Fault String := do
  let parts := [
    "ratio " ++ (← r.ratio.signedText),
    "player -" ++ (← Numeral.decimalText r.playerLoss) ++ " (" ++
      (← Numeral.decimalText r.playerEndurance) ++ " left)",
    "enemy -" ++ (← Numeral.decimalText r.enemyLoss) ++ " (" ++ (← r.enemyEndurance.text) ++
      " left)"]
  let defeats := (if r.playerDefeated then ["player defeated"] else []) ++
    (if r.enemyDefeated then ["enemy defeated"] else [])
  pure (", ".intercalate (parts ++ defeats))

/-- The line that tells of a round. -/
def RoundResult.report (r : RoundResult) (roll : Json) : Except Fault String := do
  pure ("Combat round (roll " ++ (← roll.text) ++ "): " ++ (← r.describe))

/-- The number that a value stands for, for use in a sum. -/
def summand (j : Json) : Except Fault Number :=
  match j.number? with
  | some x => .ok x
  | none => .error .notSummable

/-- **Resolves a round** of a character against an enemy. The round has to be one that can be told. -/
def resolveRound (player : Character) (enemySkill enemyEndurance roll : Json) (t : CombatTable) :
    Except Fault RoundResult := do
  let skill ← summand (← player.effectiveCombatSkill)
  let ratio ← skill.sub (← summand enemySkill)
  let losses := t.losses ratio roll
  let playerLeft := player.endurance - losses.player
  let enemyLeft ← (← summand enemyEndurance).sub (.whole losses.enemy)
  let result : RoundResult := {
    ratio
    playerLoss := losses.player
    enemyLoss := losses.enemy
    playerEndurance := max 0 playerLeft
    enemyEndurance := enemyLeft.floorZero
    playerDefeated := playerLeft ≤ 0
    enemyDefeated := enemyLeft.le (.whole 0) }
  -- a round that cannot be told is a fault at once, not when it is shown
  let _ ← result.report roll
  pure result

end Questbook
