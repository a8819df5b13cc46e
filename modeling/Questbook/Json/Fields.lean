import Questbook.Json.Basic

set_option autoImplicit false

/-! # Reading fields leniently

A record is read from a document field by field. A field is looked for under its own name and then
under the name with a capital first letter; a missing field takes a default. The functions here ask
for a field and at once for the use the record makes of it: a value that may be anything, a whole
number, a list, or a list of further records.

A document need not be an object: asking a list or a text for a field, or a value without parts, is
a fault (`Json.field`).
-/

namespace Questbook.Json

/-- Whether a text occurs in another one. -/
def occursIn (part : List Char) : List Char → Bool
  | [] => part.isEmpty
  | c :: cs => part.isPrefixOf (c :: cs) || occursIn part cs

/-- A name with a capital first letter. -/
def capitalized (name : String) : String :=
  match name.toList with
  | [] => name
  | c :: cs => String.ofList (c.toUpper :: cs)

/-- **The field of a document** under a name or the capitalised name. -/
def field (j : Json) (name : String) : Except Fault (Option Json) :=
  match j with
  | .obj fs =>
    match field? name fs with
    | some v => .ok (some v)
    | none => .ok (field? (capitalized name) fs)
  | .arr xs => .error (if xs.any fun x => same x (.str name) then .notKeyed else .notRecord)
  | .str s => .error (if occursIn name.toList s.toList then .notKeyed else .notRecord)
  | _ => .error .noFields

/-- The field of a document, or a default. -/
def fieldOr (j : Json) (name : String) (default : Json) : Except Fault Json :=
  (j.field name).map fun v => v.getD default

/-- The field of a document if it counts as given, or else a default. -/
def givenOr (j : Json) (name : String) (default : Json) : Except Fault Json :=
  (j.fieldOr name default).map fun v => v.orElse default

/-- The whole number that a field converts to. -/
def wholeOr (j : Json) (name : String) (default : Int) : Except Fault Int := do
  (← j.fieldOr name (.int default)).toWhole

/-- What a field lists; nothing if it does not count as given. -/
def listed (j : Json) (name : String) : Except Fault (List Json) := do
  let v ← j.fieldOr name .null
  if v.isGiven then v.items else .ok []

/-- The records that a field lists. -/
def records {α : Type} (readRecord : Json → Except Fault α) (j : Json) (name : String) :
    Except Fault (List α) := do
  (← j.listed name).mapM readRecord

theorem field_obj_of_field? {fs : List (String × Json)} {name : String} {v : Json}
    (h : field? name fs = some v) : (Json.obj fs).field name = .ok (some v) := by
  simp [field, h]

end Questbook.Json
