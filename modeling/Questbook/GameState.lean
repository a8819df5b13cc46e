import Questbook.Character.Basic

set_option autoImplicit false

/-! # Game states

A `GameState` is all that a saved game keeps: the book and the section, the character, the profile
of the player, and flags. The profile records for each series which character is the active one;
it holds the character's id, never the character.

The flags of a game state belong to the file. Flags set by effects live for one step of the play
only and are never written back.
-/

namespace Questbook

/-- The progress of a player in one series. -/
structure SeriesProgress where
  isInitialized : Bool := false
  characterId : Json := .null

/-- **The profile of a player.** -/
structure PlayerProfile where
  name : Json := .str ""
  series : NameMap SeriesProgress := .empty

/-- **The state of a game.** -/
structure GameState where
  bookId : Json := .str ""
  series : Json := .str ""
  sectionId : Json := .str ""
  character : Character
  profile : PlayerProfile := {}
  flags : NameMap Json := .empty

instance : Inhabited GameState := ⟨{ character := default }⟩

/-! ## Reading -/

/-- The progress that a document states. -/
def SeriesProgress.ofJson (j : Json) : Except Fault SeriesProgress := do
  let isInitialized := (← j.fieldOr "isInitialized" (.bool false)).isGiven
  let characterId ← j.fieldOr "characterId" .null
  pure { isInitialized, characterId }

/-- The progress that each field of an object states. -/
def progressFields : List (String × Json) → Except Fault (List (String × SeriesProgress))
  | [] => .ok []
  | (series, j) :: fs => do
    let progress ← SeriesProgress.ofJson j
    let rest ← progressFields fs
    pure ((series, progress) :: rest)

/-- The profile that a document states. Progress is listed by an object only. -/
def PlayerProfile.ofJson (j : Json) : Except Fault PlayerProfile := do
  let name ← j.givenOr "name" (.str "")
  match ← j.givenOr "seriesStates" (.obj []) with
  | .obj fs => pure { name, series := NameMap.ofEntries (← progressFields fs) }
  | _ => .error .notRecord

/-- The game state that a document states. A character without an id takes `newId`. -/
def GameState.ofJson (newId : String) (j : Json) : Except Fault GameState := do
  let bookId ← j.givenOr "bookId" (.str "")
  let series ← j.givenOr "seriesId" (.str "")
  let sectionId ← (← j.givenOr "sectionId" (.str "")).text
  let character ← Character.ofJson newId (← j.givenOr "character" (.obj []))
  let profile ← PlayerProfile.ofJson (← j.givenOr "profile" (.obj []))
  let flags ← nameMapOf j "flags"
  pure { bookId, series, sectionId := .str sectionId, character, profile, flags }

/-! ## Writing -/

def SeriesProgress.toJson (p : SeriesProgress) : Json :=
  .obj [("isInitialized", .bool p.isInitialized), ("characterId", p.characterId)]

def PlayerProfile.toJson (p : PlayerProfile) : Json :=
  .obj [("name", p.name),
    ("seriesStates", .obj (p.series.entries.map fun e => (e.1, e.2.toJson)))]

def GameState.toJson (s : GameState) : Json :=
  .obj [("bookId", s.bookId), ("seriesId", s.series), ("sectionId", s.sectionId),
    ("character", s.character.toJson), ("profile", s.profile.toJson), ("flags", s.flags.toJson)]

/-! ## Profiles -/

/-- The profile with the character made the active one of a series. -/
def PlayerProfile.activate (p : PlayerProfile) (series : String) (characterId : Json) :
    PlayerProfile :=
  { p with series := p.series.set series ⟨true, characterId⟩ }

/-- The id of the active character of a series; null when there is none. -/
def PlayerProfile.activeCharacterId (p : PlayerProfile) (series : Json) : Except Fault Json := do
  match ← p.series.getJson? series with
  | some progress => pure progress.characterId
  | none => pure .null

end Questbook
