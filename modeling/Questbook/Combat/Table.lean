import Questbook.Json.Fields

set_option autoImplicit false

/-! # Combat tables

A combat table gives the losses of both sides in a round. It is divided into **bands** of combat
ratios, the combat skill of the player less that of the enemy; a band has a row for each roll.

Ratios below the first band use the first band, and ratios beyond all bands use the last one. A
roll without a row uses the first row of its band. A table without bands and a band without rows
give no losses. `CombatTable.problems` lists what is wrong with a table.
-/

namespace Questbook

/-- What each side loses in a round. -/
structure Losses where
  player : Int := 0
  enemy : Int := 0
  deriving DecidableEq, Repr

/-- A row of a band: the losses at one roll. -/
structure CombatRow where
  roll : Int
  playerLoss : Int := 0
  enemyLoss : Int := 0
  deriving DecidableEq, Repr

instance : Inhabited CombatRow := ⟨{ roll := 0 }⟩

/-- The losses of a row. -/
def CombatRow.losses (r : CombatRow) : Losses := ⟨r.playerLoss, r.enemyLoss⟩

/-- **A band of combat ratios,** from `min` to `max`. -/
structure RatioBand where
  min : Int
  max : Int
  rows : List CombatRow := []
  deriving DecidableEq, Repr

instance : Inhabited RatioBand := ⟨{ min := 0, max := 0 }⟩

/-- Whether a ratio lies in the band. -/
def RatioBand.contains (b : RatioBand) (ratio : Number) : Bool :=
  (Number.whole b.min).le ratio && ratio.le (.whole b.max)

/-- The losses at a roll. -/
def RatioBand.losses (b : RatioBand) (roll : Json) : Losses :=
  match b.rows with
  | [] => {}
  | first :: _ =>
    ((b.rows.find? fun r => Json.same (.int r.roll) roll).getD first).losses

/-- Puts a band into a list in ascending order of `min`, before the bands with a greater one. -/
def insertBand (b : RatioBand) : List RatioBand → List RatioBand
  | [] => [b]
  | c :: cs => if b.min < c.min then b :: c :: cs else c :: insertBand b cs

/-- The bands in ascending order of `min`; bands that begin alike keep their order. -/
def sortBands (bands : List RatioBand) : List RatioBand :=
  bands.foldl (fun sorted b => insertBand b sorted) []

/-- **A combat table.** -/
structure CombatTable where
  bands : List RatioBand := []
  deriving DecidableEq, Repr

instance : Inhabited CombatTable := ⟨{}⟩

namespace CombatTable

/-- The table of a list of bands in any order. -/
def ofBands (bands : List RatioBand) : CombatTable :=
  { bands := sortBands bands }

def isEmpty (t : CombatTable) : Bool := t.bands.isEmpty

/-- The band that gives the losses at a ratio; there is none in an empty table. -/
def findBand? (t : CombatTable) (ratio : Number) : Option RatioBand :=
  match t.bands with
  | [] => none
  | first :: rest =>
    match t.bands.find? fun b => b.contains ratio with
    | some b => some b
    -- no band holds the ratio: it lies beyond an end, or in a gap
    | none =>
      if ratio.lt (.whole first.min) then some first
      else some ((first :: rest).getLastD first)

/-- The losses at a ratio and a roll. -/
def losses (t : CombatTable) (ratio : Number) (roll : Json) : Losses :=
  match t.findBand? ratio with
  | some b => b.losses roll
  | none => {}

/-- The band at a ratio of a document: a value that is no number compares with no band, which is a
fault unless the table is empty. -/
def bandAt (t : CombatTable) (ratio : Json) : Except Fault (Option RatioBand) :=
  if t.isEmpty then .ok none
  else
    match ratio.number? with
    | some x => .ok (t.findBand? x)
    | none => .error .notComparable

/-- The losses at a ratio and a roll of a document. -/
def lossesAt (t : CombatTable) (ratio roll : Json) : Except Fault Losses :=
  (t.bandAt ratio).map fun b => (b.map fun b => b.losses roll).getD {}

/-! ## Problems -/

/-- The bounds of a band as they are shown. -/
def boundsText (b : RatioBand) : Except Fault String := do
  pure ((← Numeral.decimalText b.min) ++ ".." ++ (← Numeral.decimalText b.max))

/-- What is wrong with a band, given the one before it. -/
def bandProblems (previous : Option RatioBand) (b : RatioBand) : Except Fault (List String) := do
  let reversed ←
    if b.max < b.min then
      pure ["Ratio band " ++ (← boundsText b) ++ " has min greater than max."]
    else pure []
  let bare ←
    if b.rows.isEmpty then pure ["Ratio band " ++ (← boundsText b) ++ " has no rolls."]
    else pure []
  let overlap ←
    match previous with
    | some p =>
      if b.min ≤ p.max then
        pure ["Ratio band " ++ (← boundsText b) ++ " overlaps " ++ (← boundsText p) ++ "."]
      else pure []
    | none => pure []
  pure (reversed ++ bare ++ overlap)

/-- What is wrong with bands that follow a given one. -/
def problemsAfter (previous : Option RatioBand) : List RatioBand → Except Fault (List String)
  | [] => .ok []
  | b :: bs => do
    let here ← bandProblems previous b
    pure (here ++ (← problemsAfter (some b) bs))

/-- **What is wrong with a table:** it has no bands, a band is reversed or has no rows, or a band
begins before the one in front of it ends. -/
def problems (t : CombatTable) : Except Fault (List String) :=
  if t.isEmpty then .ok ["Combat table has no ratio bands."] else problemsAfter none t.bands

end CombatTable

/-! ## Reading and writing -/

/-- The row that a document states. -/
def CombatRow.ofJson (j : Json) : Except Fault CombatRow := do
  let roll ← j.wholeOr "roll" 0
  let playerLoss ← j.wholeOr "playerLoss" 0
  let enemyLoss ← j.wholeOr "enemyLoss" 0
  pure { roll, playerLoss, enemyLoss }

def CombatRow.toJson (r : CombatRow) : Json :=
  .obj [("roll", .int r.roll), ("playerLoss", .int r.playerLoss), ("enemyLoss", .int r.enemyLoss)]

/-- The band that a document states. -/
def RatioBand.ofJson (j : Json) : Except Fault RatioBand := do
  let min ← j.wholeOr "min" 0
  let max ← j.wholeOr "max" 0
  let rows ← Json.records CombatRow.ofJson j "rolls"
  pure { min, max, rows }

def RatioBand.toJson (b : RatioBand) : Json :=
  .obj [("min", .int b.min), ("max", .int b.max), ("rolls", .arr (b.rows.map CombatRow.toJson))]

/-- The bands that the objects of a list state. Other items are skipped, as are objects with a field
of the wrong type or content. -/
def CombatTable.readBands : List Json → Except Fault (List RatioBand)
  | [] => .ok []
  | .obj fs :: js =>
    match RatioBand.ofJson (.obj fs) with
    | .ok b => do pure (b :: (← readBands js))
    | .error f => if f.inTypeOrContent then readBands js else .error f
  | _ :: js => readBands js

/-- The table that a document states; nothing states the empty one. -/
def CombatTable.ofJson (j : Json) : Except Fault CombatTable :=
  if j.isGiven then do pure (ofBands (← readBands (← j.listed "ratios"))) else .ok {}

def CombatTable.toJson (t : CombatTable) : Json :=
  .obj [("ratios", .arr (t.bands.map RatioBand.toJson))]

end Questbook
