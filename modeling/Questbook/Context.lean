import Questbook.GameState

set_option autoImplicit false

/-! # Contexts

A `Context` is what conditions are asked of and effects are applied to: a game state, and **scratch
flags** that live as long as the context. Setting a flag writes to the scratch flags; the flags of
the game state are neither read nor written.
-/

namespace Questbook

/-- **A game state with scratch flags.** -/
structure Context where
  state : GameState
  flags : NameMap Json := .empty

namespace Context

/-- The context of a game state with the scratch flags that a value states. Flags that do not count
as given are no flags. -/
def ofState (state : GameState) (flags : Json) : Except Fault Context := do
  pure { state, flags := ← NameMap.ofJson (flags.orElse (.obj [])) }

def character (c : Context) : Character := c.state.character

def inventory (c : Context) : Inventory := c.state.character.inventory

def counters (c : Context) : NameMap Json := c.state.character.inventory.counters

/-- The context with another character. -/
def withCharacter (c : Context) (character : Character) : Context :=
  { c with state := { c.state with character } }

/-- The context with other items. -/
def withItems (c : Context) (items : List Item) : Context :=
  c.withCharacter { c.character with inventory := { c.inventory with items } }

/-- The context with other counters. -/
def withCounters (c : Context) (counters : NameMap Json) : Context :=
  c.withCharacter { c.character with inventory := { c.inventory with counters } }

@[simp] theorem character_withCharacter (c : Context) (x : Character) :
    (c.withCharacter x).character = x := rfl

@[simp] theorem flags_withCharacter (c : Context) (x : Character) :
    (c.withCharacter x).flags = c.flags := rfl

@[simp] theorem counters_withCounters (c : Context) (m : NameMap Json) :
    (c.withCounters m).counters = m := rfl

@[simp] theorem items_withItems (c : Context) (items : List Item) :
    (c.withItems items).inventory.items = items := rfl

end Context

end Questbook
