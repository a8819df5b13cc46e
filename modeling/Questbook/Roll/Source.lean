import Questbook.Json.Basic
import Questbook.Roll.Twister

set_option autoImplicit false

/-! # Sources of rolls

Chance is decided by rolls on the Random Number Table, numbers from 0 to 9. A `RollSource` gives the
rolls: a `SeededSource` draws them from a generator and keeps a log of its draws, and a script gives
rolls that are known beforehand. `RollSource.drawn` counts the draws.
-/

namespace Questbook

/-- The least and the greatest roll. -/
def minRoll : Int := 0

def maxRoll : Int := 9

/-- A draw from a range, and what came of it. -/
structure Draw where
  low : Int
  high : Int
  result : Int
  deriving DecidableEq, Repr

/-- **A generator with a seed** and the log of its draws, the first one first. -/
structure SeededSource where
  seed : Int
  twister : Twister
  log : List Draw := []

namespace SeededSource

/-- The source of a seed. -/
def ofSeed (seed : Int) : SeededSource :=
  { seed, twister := Twister.ofSeed seed }

/-- **Draws from a range,** both ends included. An empty range is a fault. -/
def draw (s : SeededSource) (low high : Int) : Except Fault Int × SeededSource :=
  -- an empty range costs no draw and is not logged
  if high < low then (.error .emptyRange, s)
  else
    let (v, twister) := s.twister.below (high - low + 1).toNat
    let result := low + v
    (.ok result, { s with twister, log := s.log ++ [⟨low, high, result⟩] })

/-- The source with an empty log. -/
def clearLog (s : SeededSource) : SeededSource := { s with log := [] }

end SeededSource

/-- **A source of rolls.** A script gives its values in turn. -/
inductive RollSource
  | seeded (source : SeededSource)
  | script (values : Nat → Json) (drawn : Nat)

namespace RollSource

/-- The source of a seed. -/
def ofSeed (seed : Int) : RollSource := .seeded (.ofSeed seed)

/-- The source that gives the values of a list over and over again. -/
def cycling (values : List Json) : RollSource :=
  .script (fun n => values.getD (n % values.length) .null) 0

/-- The number of draws so far. -/
def drawn : RollSource → Nat
  | seeded source => source.log.length
  | script _ n => n

/-- **Rolls on the Random Number Table.** -/
def roll : RollSource → Except Fault Json × RollSource
  | seeded source =>
    let (r, source) := source.draw minRoll maxRoll
    (r.map .int, seeded source)
  | script values n => (.ok (values n), script values (n + 1))

end RollSource

end Questbook
