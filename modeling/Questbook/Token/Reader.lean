import Questbook.Character.Basic
import Questbook.Text.Cut
import Questbook.Text.Lowercase
import Questbook.Token.Basic

set_option autoImplicit false

/-! # Reading tokens

A token is a key, a colon and a value; blanks around any part of it do not count, and keys are
read without regard to case. The key decides how the value is cut:

* a **threshold** (`stat`, `counter` and `slot` requirements) is a name and a minimum with `>=`
  between them, or else with a colon;
* an **update** (`counter` and `slot` effects) is a name and a number at the first colon, and shifts
  the counter if the number has a sign;
* `item` effects are cut at every colon, all other values at the first one or not at all.

A text that is no such token is unsupported. The only fault is a numeral with too many digits.
-/

namespace Questbook

/-- The key and the value of a token; `none` for a blank one and for one without a key. -/
def cutToken (cs : List Char) : Option (List Char × List Char) :=
  match Text.cutAt ':' (Text.trimChars cs) with
  | (_, none) => none
  | (key, some value) =>
    -- a colon in front leaves no key, and neither do blanks before it
    let key := Text.trimChars key
    if key.isEmpty then none else some (key, Text.trimChars value)

/-- The trimmed parts of a value at its first colon. -/
def firstField (value : List Char) : List Char × Option (List Char) :=
  let (head, tail) := Text.cutAt ':' value
  (Text.trimChars head, tail.map Text.trimChars)

/-- The trimmed parts of a value between all its colons. -/
def allFields (value : List Char) : List (List Char) :=
  (Text.splitAt ':' value).map Text.trimChars

/-- A name and a number, if there are two parts, the first is not empty and the second a numeral. -/
def nameAndNumber (parts : List (List Char)) : Except Fault (Option (String × Int)) :=
  match parts with
  | [name, number] =>
    if name.isEmpty then .ok none
    else (Numeral.parsePlain? number).map fun n => n.map fun n => (String.ofList name, n)
  | _ => .ok none

/-- Reads a threshold: the form with `>=` is tried first. -/
def readThreshold (value : List Char) : Except Fault (Option (String × Int)) := do
  match ← nameAndNumber ((Text.splitAtLeast value).map Text.trimChars) with
  | some t => pure (some t)
  -- a name with a colon in it gives a third field, and so no threshold
  | none => nameAndNumber (allFields value)

/-- Whether a numeral starts with a sign. -/
def isSigned : List Char → Bool
  | c :: _ => c = '+' || c = '-'
  | [] => false

/-- Reads an update. -/
def readUpdate (value : List Char) : Except Fault (Option (String × Update)) :=
  match firstField value with
  | (name, some number) =>
    if name.isEmpty then .ok none
    else (Numeral.parsePlain? number).map fun n => n.map fun n =>
      -- the sign that is written decides: a zero with a sign shifts
      (String.ofList name, if isSigned number then .shift n else .set n)
  | (_, none) => .ok none

/-! ## Requirements -/

/-- The kinds of requirement tokens. -/
inductive Condition.Kind
  | skill | item | stat | flag | counter | combat | slot
  deriving DecidableEq, Repr

/-- The keys of requirement tokens. -/
def Condition.keys : List (String × Condition.Kind) :=
  [("skill", .skill), ("item", .item), ("stat", .stat), ("flag", .flag), ("counter", .counter),
    ("combat", .combat), ("slot", .slot)]

/-- What a key stands for in a table of keys; case does not matter. -/
def kindOf? {κ : Type} (keys : List (String × κ)) (key : List Char) : Option κ :=
  (keys.find? fun e => e.1.toList = Text.lowerChars key).map fun e => e.2

/-- The condition of a threshold that was read, made by `make`. -/
def thresholdCondition (make : String → Int → Condition) :
    Option (String × Int) → Condition
  | some (name, minimum) => make name minimum
  | none => .unsupported

/-- The value of a `combat` requirement without the `>=` it may start with. -/
def dropAtLeast : List Char → List Char
  | '>' :: '=' :: cs => cs
  | cs => cs

/-- Reads the value of a requirement token of a kind. -/
def Condition.ofValue (kind : Condition.Kind) (value : List Char) : Except Fault Condition :=
  match kind with
  | .skill => .ok (if value.isEmpty then .unsupported else .skill (String.ofList value))
  | .item => .ok (if value.isEmpty then .unsupported else .item (String.ofList value))
  | .stat => (readThreshold value).map (thresholdCondition .stat)
  | .counter => (readThreshold value).map (thresholdCondition .counter)
  | .slot => (readThreshold value).map (thresholdCondition .slot)
  | .flag =>
    let (name, expected) := firstField value
    .ok (if name.isEmpty then .unsupported
      else .flag (String.ofList name) (expected.map String.ofList))
  | .combat =>
    (Numeral.parsePlain? (dropAtLeast value)).map fun n =>
      match n with
      | some minimum => .combat minimum
      | none => .unsupported

/-- The condition that a token states. -/
def Condition.parse (token : List Char) : Except Fault Condition :=
  match cutToken token with
  | none => .ok .unsupported
  | some (key, value) =>
    match kindOf? Condition.keys key with
    | none => .ok .unsupported
    | some kind => Condition.ofValue kind value

/-- **Reads a requirement token.** -/
def Requirement.parse (raw : String) : Except Fault Requirement :=
  (Condition.parse raw.toList).map fun condition => { condition, raw }

/-! ## Effects -/

/-- The kinds of effect tokens. -/
inductive Change.Kind
  | stat | combat | endurance | item | flag | discipline | counter | slot
  deriving DecidableEq, Repr

/-- The keys of effect tokens. -/
def Change.keys : List (String × Change.Kind) :=
  [("stat", .stat), ("combat", .combat), ("endurance", .endurance), ("item", .item),
    ("flag", .flag), ("discipline", .discipline), ("counter", .counter), ("slot", .slot)]

/-- The change of an update that was read, made by `make`. -/
def updateChange (make : String → Update → Change) : Option (String × Update) → Change
  | some (name, update) => make name update
  | none => .unsupported

/-- The addition of an item to a category; a category that is missing or empty is the general
one. -/
def addition (name : List Char) (category : Option (List Char)) : Change :=
  if name.isEmpty then .unsupported
  else
    .addItem (String.ofList name)
      (match category with
        | some (c :: cs) => String.ofList (c :: cs)
        | _ => generalCategory)

/-- Reads the fields of an `item` effect. A name without `add` or `remove` is added. -/
def itemChange (fields : List (List Char)) : Change :=
  match fields with
  | [] => .unsupported
  | action :: rest =>
    if Text.lowerChars action = "add".toList then
      match rest with
      | [] => .unsupported
      -- what follows the category does not count
      | name :: rest => addition name rest.head?
    else if Text.lowerChars action = "remove".toList then
      match rest with
      | [] => .unsupported
      | name :: _ => if name.isEmpty then .unsupported else .removeItem (String.ofList name)
    -- no action is named, so the first field is the item
    else addition action rest.head?

/-- The change of endurance in a mode, for `damage` and `heal`. -/
def enduranceChange (mode : List Char) (amount : Int) : Change :=
  if Text.lowerChars mode = "damage".toList then .damage amount
  else if Text.lowerChars mode = "heal".toList then .heal amount
  else .unsupported

/-- Reads the value of an effect token of a kind. -/
def Change.ofValue (kind : Change.Kind) (value : List Char) : Except Fault Change :=
  match kind with
  | .stat =>
    match firstField value with
    | (name, some number) => (nameAndNumber [name, number]).map fun
      | some (name, delta) => .adjustStat name delta
      | none => .unsupported
    | (_, none) => .ok .unsupported
  | .combat => (Numeral.parsePlain? value).map fun
    | some delta => .adjustCombat delta
    | none => .unsupported
  | .endurance =>
    match firstField value with
    | (mode, some number) => (Numeral.parsePlain? number).map fun
      | some n => enduranceChange mode n.natAbs
      | none => .unsupported
    | (_, none) => .ok .unsupported
  | .item => .ok (itemChange (allFields value))
  | .flag =>
    let (name, written) := firstField value
    .ok (if name.isEmpty then .unsupported
      else .setFlag (String.ofList name) ((written.map String.ofList).getD "true"))
  | .discipline =>
    .ok (if value.isEmpty then .unsupported else .grantDiscipline (String.ofList value))
  | .counter => (readUpdate value).map (updateChange .updateCounter)
  | .slot => (readUpdate value).map (updateChange .updateSlot)

/-- The change that a token states. -/
def Change.parse (token : List Char) : Except Fault Change :=
  match cutToken token with
  | none => .ok .unsupported
  | some (key, value) =>
    match kindOf? Change.keys key with
    | none => .ok .unsupported
    | some kind => Change.ofValue kind value

/-- **Reads an effect token.** -/
def Effect.parse (raw : String) : Except Fault Effect :=
  (Change.parse raw.toList).map fun change => { change, raw }

/-! ## Tokens of documents

A token of a document should be a text. A null reads as the empty text; any other value is a
fault. -/

/-- The text of a token of a document. -/
def tokenText : Json → Except Fault String
  | .null => .ok ""
  | j => j.asText

/-- Reads a requirement token of a document. -/
def Requirement.ofJson (j : Json) : Except Fault Requirement := do
  Requirement.parse (← tokenText j)

/-- Reads an effect token of a document. -/
def Effect.ofJson (j : Json) : Except Fault Effect := do
  Effect.parse (← tokenText j)

/-- What a value lists as tokens; nothing if it does not count as given. -/
def tokensOf (j : Json) : Except Fault (List Json) :=
  if j.isGiven then j.items else .ok []

/-- Reads all requirement tokens that a value lists. -/
def Requirement.listOfJson (j : Json) : Except Fault (List Requirement) := do
  (← tokensOf j).mapM Requirement.ofJson

/-- Reads all effect tokens that a value lists. -/
def Effect.listOfJson (j : Json) : Except Fault (List Effect) := do
  (← tokensOf j).mapM Effect.ofJson

end Questbook
