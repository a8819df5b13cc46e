import Questbook.Files.Document
import Questbook.GameState
import Questbook.Json.Printer

set_option autoImplicit false

/-! # Saved games

Games are saved in slots, one document for each in the directory of saved games. The file of a slot
is named by the slot, with an underscore for each character that file names cannot have
(`slotName`), so that no slot reaches out of the directory.
-/

namespace Questbook

/-- Whether a character cannot be part of a file name. -/
def isBarredChar (c : Char) : Bool :=
  c.toNat < 32 || ['<', '>', ':', '"', '/', '\\', '|', '?', '*'].contains c

/-- A text with an underscore for each character that cannot be part of a file name. -/
def withoutBarred (s : String) : String :=
  String.ofList (s.toList.map fun c => if isBarredChar c then '_' else c)

/-- **The name of the file of a slot,** without its ending. Null and blank slots are missing. -/
def slotName (slot : Json) : Except Fault String :=
  match slot with
  | .null => .error (.required "slot")
  | j => do
    let s ← j.asText
    if Text.isBlank s then .error (.required "slot") else pure (withoutBarred s)

/-- **A directory of saved games.** -/
structure SaveSlots where
  directory : Path

namespace SaveSlots

/-- The path of the file of a slot. -/
def slotPath (s : SaveSlots) (slot : Json) : Except Fault Path := do
  pure (s.directory.join (Document.fileName (← slotName slot)))

/-- **The game in a slot,** if one has been saved there. A character without an id takes `newId`. -/
def load (s : SaveSlots) (files : FileTree) (newId : String) (slot : Json) :
    Except Fault (Option GameState) := do
  let p ← s.slotPath slot
  if files.pathExists p then
    let state ← Document.load (.badSave p.text) (GameState.ofJson newId) files p
    pure (some state)
  else pure none

/-- What is written for a document, and the fault that stopped the writing, if one did. -/
def writtenDocument (j : Json) : String × Option Fault :=
  match Json.stoppedAt? Json.lines 0 j with
  | some (cs, f) => (String.ofList cs, some f)
  | none => (j.render, none)

/-- Writes a document to a file. What cannot be written stops the writing in the midst. -/
def writeDocument (files : FileTree) (p : Path) (j : Json) : Except Fault Unit × FileTree :=
  let (text, stopped) := writtenDocument j
  match files.write p text.toUTF8 with
  | .error f => (.error f, files)
  | .ok files =>
    -- the file is there even if the writing stopped
    match stopped with
    | none => (.ok (), files)
    | some f => (.error f, files)

/-- **Saves a game in a slot.** The directory is made if it is not there; the answer is the path of
the file. -/
def save (s : SaveSlots) (files : FileTree) (slot : Json) (state : GameState) :
    Except Fault Path × FileTree :=
  -- the directory is made before the slot is looked at
  match files.ensureDirectory s.directory with
  | .error f => (.error f, files)
  | .ok files =>
    match s.slotPath slot with
    | .error f => (.error f, files)
    | .ok p =>
      let (r, files) := writeDocument files p state.toJson
      (r.map fun _ => p, files)

/-- The slots in which games are saved, sorted. -/
def slots (s : SaveSlots) (files : FileTree) : List String :=
  files.documents s.directory

/-- Deletes the game in a slot. The answer is whether there was one. -/
def delete (s : SaveSlots) (files : FileTree) (slot : Json) : Except Fault Bool × FileTree :=
  match s.slotPath slot with
  | .error f => (.error f, files)
  | .ok p =>
    if files.pathExists p then
      match files.remove p with
      | .ok files => (.ok true, files)
      | .error f => (.error f, files)
    else (.ok false, files)

end SaveSlots

end Questbook
