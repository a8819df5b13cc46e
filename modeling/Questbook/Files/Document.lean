import Questbook.Files.Tree
import Questbook.Json.Reader

set_option autoImplicit false

/-! # Files that hold a record

Books and saved games are files with one JSON object each. What can be wrong with the contents of
such a file is a `Damage`; `readObject` and `sound` turn the faults that come from the contents into
the fault of a damaged file. Other faults, of the file itself above all, are passed on.
-/

namespace Questbook.Document

/-- The object that the bytes of a file state; `damaged` is the fault of a damaged file. -/
def readObject (damaged : Damage → Fault) (bytes : ByteArray) : Except Fault Json :=
  match Json.readBytes bytes with
  | .ok (.obj fs) => .ok (.obj fs)
  | .ok _ => .error (damaged .notAnObject)
  | .error .malformed => .error (damaged .undecodable)
  | .error .longNumeral => .error .longNumeral

/-- A record read from a document. A fault that lies in the document makes the file malformed. -/
def sound {α : Type} (damaged : Damage → Fault) (record : Except Fault α) : Except Fault α :=
  match record with
  | .ok a => .ok a
  | .error f => .error (if f.inDocument then damaged .malformed else f)

/-- **Reads the record that a file holds.** -/
def load {α : Type} (damaged : Damage → Fault) (ofJson : Json → Except Fault α) (files : FileTree)
    (p : Path) : Except Fault α := do
  let document ← readObject damaged (← files.read p)
  sound damaged (ofJson document)

/-- The name of the document of a stem. -/
def fileName (stem : String) : String := stem ++ FileTree.documentEnd

end Questbook.Document
