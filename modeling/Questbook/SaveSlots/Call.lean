import Questbook.SaveSlots

set_option autoImplicit false

/-! # Calls

A directory of saved games is used through four calls. `perform` makes one call, and `performAll` a
list of them, one after the other; the files are handed on from call to call.
-/

namespace Questbook.SaveSlots

/-- **What a directory of saved games can be asked for.** A character that is loaded without an id
takes `newId`. -/
inductive Call
  | load (newId slot : String)
  | save (slot : String) (state : GameState)
  | delete (slot : String)
  | slots

/-- The answer to a call. -/
inductive Reply
  | loaded (r : Except Fault (Option GameState))
  | saved (r : Except Fault Path)
  | deleted (r : Except Fault Bool)
  | listed (names : List String)

/-- The slot that a call is about. -/
def Call.slot? : Call → Option String
  | .load _ slot => some slot
  | .save slot _ => some slot
  | .delete slot => some slot
  | .slots => none

/-- **Makes a call.** -/
def perform (s : SaveSlots) (files : FileTree) : Call → Reply × FileTree
  | .load newId slot => (.loaded (s.load files newId (.str slot)), files)
  | .save slot state =>
    let (r, files) := s.save files (.str slot) state
    (.saved r, files)
  | .delete slot =>
    let (r, files) := s.delete files (.str slot)
    (.deleted r, files)
  | .slots => (.listed (s.slots files), files)

/-- **Makes calls** one after the other. A call that fails does not end the list. -/
def performAll (s : SaveSlots) (files : FileTree) : List Call → List Reply × FileTree
  | [] => ([], files)
  | call :: calls =>
    let (r, files) := s.perform files call
    let (rs, files) := s.performAll files calls
    (r :: rs, files)

end Questbook.SaveSlots
