import Questbook.Book.Basic
import Questbook.Character.Basic
import Questbook.Combat.Table
import Questbook.Json.Order

set_option autoImplicit false

/-! # Drafts

A `Draft` is a record that is put together from arguments. Its type is given by a `Blueprint`, the
fields of the record in which nothing is given. No argument is checked or converted, beyond what is
said of maps: a draft keeps whatever it is given, and only when its document is asked for
(`Draft.toJson`) does it show whether the arguments make a record.

The arguments are JSON values, and no JSON value is itself a record. So a draft has its other
records only from the blueprint: lists of records have to be empty, and a record that is given has
no document.

A field has its name in documents, with a capital for each further word, and its name as an
argument, with underscores.
-/

namespace Questbook

/-- What a field of a record holds. -/
inductive FieldKind
  /-- A value of any kind. -/
  | value
  /-- A list of values. -/
  | list
  /-- A list of records. -/
  | records
  /-- A map of values, which is filled from the argument at once. Null gives the empty map. -/
  | map
  /-- A map of records, which is filled in the same way. -/
  | recordMap
  /-- A record. -/
  | record
  deriving DecidableEq, Repr

/-- **What a record is made of:** the fields of the record in which nothing is given, what they
hold, and which of them have to be given. Fields that are not mentioned hold values, or lists if
they are lists to begin with. -/
structure Blueprint where
  fields : List (String × Json)
  kinds : List (String × FieldKind) := []
  needed : List String := []

/-- A field of a draft. -/
structure DraftField where
  name : String
  kind : FieldKind
  content : Json
  isGiven : Bool

/-- **A record put together from arguments.** -/
structure Draft where
  fields : List DraftField

/-- The name of a field as an argument. -/
def argumentName (name : String) : String :=
  String.ofList (name.toList.flatMap fun c => if c.isUpper then ['_', c.toLower] else [c])

/-! ## Building -/

/-- What a field of a blueprint holds. -/
def Blueprint.kindOf (b : Blueprint) (name : String) (blank : Json) : FieldKind :=
  match b.kinds.lookup name, blank with
  | some kind, _ => kind
  | none, .arr _ => .list
  | none, _ => .value

/-- The content of a field to which an argument is given. -/
def FieldKind.contentOf (kind : FieldKind) (argument : Json) : Except Fault Json :=
  match kind, argument with
  | .map, .null | .recordMap, .null => .ok (.obj [])
  | .map, j | .recordMap, j => (NameMap.ofJson j).map NameMap.toJson
  | _, j => .ok j

/-- The field of a draft. -/
def Blueprint.draftField (b : Blueprint) (args : List (String × Json)) (name : String)
    (blank : Json) : Except Fault DraftField := do
  let kind := b.kindOf name blank
  match Json.field? (argumentName name) args with
  | some j => pure { name, kind, content := ← kind.contentOf j, isGiven := true }
  | none => pure { name, kind, content := blank, isGiven := false }

/-- Whether arguments are those of a record: it has fields for all of them, and what it needs is
given. -/
def Blueprint.accepts (b : Blueprint) (args : List (String × Json)) : Bool :=
  (args.all fun a => b.fields.any fun f => argumentName f.1 = a.1) &&
    b.needed.all fun name => (Json.field? (argumentName name) args).isSome

/-- **The draft that arguments make.** -/
def Blueprint.draft (b : Blueprint) (args : List (String × Json)) : Except Fault Draft := do
  if b.accepts args then
    pure { fields := ← b.fields.mapM fun f => b.draftField args f.1 f.2 }
  else throw .badArguments

/-! ## Documents -/

/-- A field as its document shows it. -/
def DraftField.toJson (f : DraftField) : Except Fault Json :=
  match f.kind with
  | .value | .map => .ok f.content
  | .list => f.content.items.map .arr
  | .records => do
    if (← f.content.items).isEmpty then pure (.arr []) else throw .notRecord
  | .recordMap => if f.content.isGiven then .error .notRecord else .ok f.content
  | .record => if f.isGiven then .error .notRecord else .ok f.content

/-- **The document of a draft.** -/
def Draft.toJson (d : Draft) : Except Fault Json := do
  pure (.obj (← d.fields.mapM fun f => do pure (f.name, ← f.toJson)))

/-- The contents of the fields under their names. -/
def Draft.contents (d : Draft) : List (String × Json) :=
  d.fields.map fun f => (f.name, f.content)

/-- The content of a field. -/
def Draft.content (d : Draft) (name : String) : Json :=
  (Json.field? name d.contents).getD .null

/-! ## Questions

What can be asked of outcomes, bands and characters can be asked of their drafts, whatever the
contents are.
-/

/-- Whether a value lies between the bounds of an outcome or a band. -/
def Draft.contains (d : Draft) (j : Json) : Except Fault Bool :=
  j.isWithin (d.content "min") (d.content "max")

/-- Whether an outcome redirects the choice. -/
def Draft.hasTarget (d : Draft) : Except Fault Bool :=
  hasText (d.content "targetId")

/-- Whether an outcome has effects. -/
def Draft.hasEffects (d : Draft) : Except Fault Bool := do
  pure !(← (d.content "effects").items).isEmpty

/-- What effects have added to combat skill. -/
def Draft.combatBonus (d : Draft) : Except Fault Json := do
  pure (((← NameMap.ofJson (d.content "attributes")).get? bonusAttribute).getD (.int 0))

/-- Combat skill with what effects have added. -/
def Draft.effectiveCombatSkill (d : Draft) : Except Fault Json := do
  (d.content "combatSkill").plus (← d.combatBonus)

/-- Whether a character knows the discipline. -/
def Draft.hasDiscipline (d : Draft) (name : String) : Except Fault Bool := do
  anyNamed (Text.fold name) (← (d.content "disciplines").items)

/-- The combat table of the bands that are given. No JSON value is a band, so there are none. -/
def CombatTable.ofArgument (bands : Json) : Except Fault CombatTable :=
  if bands.isGiven then do
    let _ ← bands.items
    throw .notRecord
  else .ok {}

end Questbook
