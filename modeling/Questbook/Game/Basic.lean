import Questbook.Bookshelf
import Questbook.Engine
import Questbook.SaveSlots
import Questbook.Series.Profile

set_option autoImplicit false

/-! # Games

A `Game` is the table at which a book is played: the files with the shelf of books and the slots of
saved games, and the engine. The state of the play is not part of it; it is handed to each
operation, so that one table serves any number of states.

A new game starts at the first section of its book with the character that the series gives
(`Game.start`).
-/

namespace Questbook

/-- **The table at which a book is played.** -/
structure Game where
  files : FileTree
  shelf : Bookshelf
  slots : SaveSlots
  engine : Engine
  /-- The id that a character without one takes. -/
  newId : String

namespace Game

/-! ## Parts of the table -/

/-- A computation of the engine. -/
def withEngine {α : Type} (p : FileTree → Play Engine α) : Play Game α :=
  .ofFunction fun g =>
    let (r, engine) := (p g.files).result g.engine
    (r, { g with engine })

/-- A book of the shelf. -/
def book (id : Json) : Play Game Book :=
  .ofFunction fun g =>
    let (r, shelf) := g.shelf.get g.files id
    (r, { g with shelf })

/-- The game saved in a slot, if there is one. -/
def load (slot : Json) : Play Game (Option GameState) :=
  .ofFunction fun g => (g.slots.load g.files g.newId slot, g)

/-- Saves a game in a slot; the answer is the path of its file. -/
def save (slot : Json) (state : GameState) : Play Game Path :=
  .ofFunction fun g =>
    let (r, files) := g.slots.save g.files slot state
    (r, { g with files })

/-- Deletes the game in a slot; the answer is whether there was one. -/
def delete (slot : Json) : Play Game Bool :=
  .ofFunction fun g =>
    let (r, files) := g.slots.delete g.files slot
    (r, { g with files })

/-- The ids of the books on the shelf. -/
def books (g : Game) : List String := g.shelf.ids g.files

/-- The slots in which games are saved. -/
def savedSlots (g : Game) : List String := g.slots.slots g.files

/-! ## Playing -/

/-- The state in which a book is started. -/
def firstState (newId : String) (asked : Json) (book : Book) (series : String)
    (profile : PlayerProfile) : GameState :=
  let character := Series.newCharacter newId (some series)
  { bookId := book.id.orElse asked
    series := .str series
    sectionId := .str book.firstSectionId
    character
    profile := profile.activate series character.id }

/-- **Starts a book** at its first section. The new character becomes the active one of the profile
in the series of the book. -/
def start (id : Json) (profile : PlayerProfile) : Play Game GameState := do
  let found ← book id
  let series ← .ofExcept found.series.asText
  let g ← get
  pure (firstState g.newId id found series profile)

/-- The book that a state is in. -/
def bookOf (state : GameState) : Play Game Book :=
  book state.bookId

/-- **The section that a state is in,** if the book has it. -/
def currentSection (state : GameState) : Play Game (Option Section) := do
  let b ← bookOf state
  pure (b.sectionAt? state.sectionId)

/-- Whether a choice may be taken in a state. -/
def evaluate (state : GameState) (choice : Choice) : Play Game Evaluation :=
  withEngine fun files => Engine.evaluate files choice { state }

/-- The places of the choices of a list that may be taken, counted from `place` on. -/
def availableFrom (state : GameState) (place : Nat) : List Choice → Play Game (List Nat)
  | [] => pure []
  | c :: cs => do
    let e ← evaluate state c
    let rest ← availableFrom state (place + 1) cs
    pure (if e.isAvailable then place :: rest else rest)

/-- **The places of the choices of a section that may be taken.** -/
def available (state : GameState) (s : Section) : Play Game (List Nat) :=
  availableFrom state 0 s.choices

/-- The places of the choices that may be taken in the section that a state is in. -/
def availableNow (state : GameState) : Play Game (List Nat) := do
  match ← currentSection state with
  | some s => available state s
  | none => pure []

end Game

end Questbook
