import Questbook.Game.Session
import Questbook.Request

set_option autoImplicit false

/-! # Sittings

A `Sitting` is a game at which the play may not have begun. Its operations are those of a game and
of a session, for callers that may lack the state or another argument: what is missing is answered
with the fault that names it, and the state is the first to be missed.
-/

namespace Questbook

/-- **A game, and the state of the play** if it has begun. -/
structure Sitting where
  game : Game
  state : Option GameState := none

namespace Sitting

variable {α : Type}

/-- A computation of the game. -/
def onGame (p : Play Game α) : Play Sitting α :=
  .ofFunction fun s =>
    let (r, game) := p.result s.game
    (r, { s with game })

/-- The state of the play, which must have begun. -/
def playState : Play Sitting GameState := do
  Request.needed "state" (← get).state

/-- A computation of a session. -/
def inSession (p : Play Session α) : Play Sitting α :=
  .ofFunction fun s =>
    match s.state with
    | none => (.error (.required "state"), s)
    | some state =>
      let (r, t) := p.result { game := s.game, state }
      (r, { game := t.game, state := some t.state })

/-- Starts a book. -/
def start (id : Json) (profile : PlayerProfile) : Play Sitting GameState := do
  let state ← onGame (Game.start id profile)
  modify fun s => { s with state := some state }
  pure state

/-- Goes on with the game saved in a slot, and answers whether there is one. -/
def load (slot : Json) : Play Sitting Bool := do
  match ← onGame (Game.load slot) with
  | none => pure false
  | some state => do
    modify fun s => { s with state := some state }
    pure true

/-- Saves the game in a slot; the answer is the path of its file. -/
def save (slot : Json) : Play Sitting Path := do
  let state ← playState
  onGame (Game.save slot state)

/-- The book that is played. -/
def book : Play Sitting Book := do
  let state ← playState
  onGame (Game.bookOf state)

/-- The section that the play is in. -/
def currentSection : Play Sitting (Option Section) := do
  let state ← playState
  onGame (Game.currentSection state)

/-- The places of the choices that may be taken, in a section or in the one that the play is in. -/
def available (s : Option Section) : Play Sitting (List Nat) :=
  match s with
  | none => do
    let state ← playState
    onGame (Game.availableNow state)
  | some s => do
    let state ← playState
    onGame (Game.available state s)

/-- Whether a choice may be taken. -/
def evaluate (choice : Option Choice) : Play Sitting Evaluation := do
  let state ← playState
  let choice ← Request.needed "choice" choice
  onGame (Game.evaluate state choice)

/-- Takes a choice. -/
def applyChoice (choice : Option Choice) (roll : Json) (picked : Option RandomOutcome) :
    Play Sitting ChoiceResult := do
  let _ ← playState
  let choice ← Request.needed "choice" choice
  inSession (Session.applyChoice choice roll picked)

/-- The places of the choices of a section that a roll selects. -/
def selectedBy (s : Option Section) (roll : Json) : Play Sitting (List Nat) := do
  let s ← Request.needed "section" s
  .ofExcept (s.selectedBy roll)

/-- Fights a round. -/
def fight (enemySkill enemyEndurance roll : Json) : Play Sitting RoundResult :=
  inSession (Session.fight enemySkill enemyEndurance roll)

end Sitting

end Questbook
