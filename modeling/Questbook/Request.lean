import Questbook.Advice
import Questbook.Engine
import Questbook.Token.Dispatch

set_option autoImplicit false

/-! # Requests with arguments that may be missing

The operations of the library take what they need. A caller that works from documents may lack an
argument; the requests here have the arguments as options and answer a missing one with the fault
that names it (`Fault.required`). Of several missing arguments the first is named.
-/

namespace Questbook.Request

/-- Whether a token holds in a context. -/
def holds (token : Option Token) (context : Option Context) : Except Fault Bool := do
  let t ← Fault.need "requirement" token
  let c ← Fault.need "context" context
  t.holds c

/-- Whether all tokens of a list hold. The context is needed only if there is a token. -/
def allHold (context : Option Context) : List Token → Except Fault Bool
  | [] => .ok true
  | t :: ts => do
    if ← holds (some t) context then allHold context ts else pure false

/-- The context after a list of tokens, and the fault that stopped them, if one did. -/
def apply (tokens : Option (List Token)) (context : Option Context) :
    Option Context × Option Fault :=
  match tokens, context with
  | none, c => (c, some (.required "effects"))
  | _, none => (none, some (.required "context"))
  | some ts, some c =>
    let (c, fault) := applyTokens c ts
    (some c, fault)

/-- A fresh context of a game state. -/
def freshContext (state : Option GameState) (flags : Json) : Except Fault Context := do
  Context.ofState (← Fault.need "game_state" state) flags

/-- An argument of a computation on an engine. -/
def needed {α σ : Type} (argument : String) (value : Option α) : Play σ α :=
  .ofExcept (Fault.need argument value)

/-- The requirements and effects that govern a choice. -/
def rulesFor (files : FileTree) (choice : Option Choice) (context : Option Context) :
    Play Engine RuleSet := do
  let choice ← needed "choice" choice
  let context ← needed "context" context
  Engine.rulesFor files choice context

/-- Whether a choice may be taken. -/
def evaluate (files : FileTree) (choice : Option Choice) (context : Option Context) :
    Play Engine Evaluation := do
  let choice ← needed "choice" choice
  let context ← needed "context" context
  Engine.evaluate files choice context

/-- A round of combat by the table of a series. -/
def fight (files : FileTree) (player : Option Character)
    (enemySkill enemyEndurance roll series : Json) : Play Engine RoundResult := do
  let player ← needed "player" player
  Engine.fight files player enemySkill enemyEndurance roll series

/-- A round of combat by a given table. -/
def resolveRound (player : Option Character) (enemySkill enemyEndurance roll : Json)
    (table : Option CombatTable) : Except Fault RoundResult := do
  let player ← Fault.need "player" player
  let table ← Fault.need "combat_table" table
  Questbook.resolveRound player enemySkill enemyEndurance roll table

/-- The rules that govern a choice by a given catalog. -/
def rulesIn (choice : Option Choice) (catalog : Option Catalog) : Except Fault RuleSet := do
  let choice ← Fault.need "choice" choice
  let catalog ← Fault.need "catalog" catalog
  catalog.rulesFor choice

/-- The choices of a list that a roll selects. -/
def selectedBy {κ : Type} [DecidableEq κ] (roll : Json)
    (choices : Option (List (Option (κ × Choice)))) : Except Fault (List κ) := do
  Questbook.selectedBy roll (← Fault.need "choices" choices)

/-- A roll of a source, and the source after it. -/
def roll (source : Option RollSource) : Except Fault Json × Option RollSource :=
  match source with
  | none => (.error (.required "generator"), none)
  | some s =>
    let (r, s) := s.roll
    (r, some s)

/-- The outcomes of a choice that a roll brings about. -/
def matching (choice : Option Choice) (roll : Json) : Except Fault (List RandomOutcome) := do
  (← Fault.need "metadata" choice).matching roll

/-- The outcome of a choice that a roll selects. -/
def select (choice : Option Choice) (roll : Json) : Except Fault (Option RandomOutcome) := do
  (← Fault.need "metadata" choice).select roll

/-! ## Advice -/

/-- The id of a section, which must not be blank. -/
def sectionId : Json → Except Fault String
  | .null => .error (.required "section_id")
  | j => do
    let id ← j.asText
    if Text.isBlank id then .error (.required "section_id") else pure id

/-- The warnings about a choice of a section. -/
def choiceWarnings (id : Json) (choice : Option Choice) (catalog : Option Catalog) :
    Except Fault (List Warning) := do
  let id ← sectionId id
  let choice ← Fault.need "choice" choice
  let catalog ← Fault.need "catalog" catalog
  choice.warnings catalog id

/-- The warnings about a book. -/
def bookWarnings (book : Option Book) (catalog : Option Catalog) :
    Except Fault (List Warning) := do
  let book ← Fault.need "book" book
  let catalog ← Fault.need "catalog" catalog
  book.warnings catalog

/-- The warnings about a catalog. -/
def catalogWarnings (catalog : Option Catalog) : Except Fault (List Warning) := do
  (← Fault.need "catalog" catalog).warnings

end Questbook.Request
