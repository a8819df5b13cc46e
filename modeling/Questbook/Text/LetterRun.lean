set_option autoImplicit false

/-! # Runs of letters with a common shift

Case mappings are nearly always regular: a stretch of code points, or every second one of a
stretch, moves by the same amount. A `LetterRun` states one such stretch, and
`LetterRun.image?` reads it.

`imageIn?` looks a code point up in a list of runs; the first run that holds it decides.
-/

namespace Questbook.Text

/-- **A run of letters.** The code points `first`, `first + step`, …, up to `last` are sent to
`target`, `target + step`, … -/
structure LetterRun where
  first : Nat
  last : Nat
  step : Nat
  target : Nat
  deriving DecidableEq, Repr

/-- Where the run sends the code point `n`, if it holds `n`. -/
def LetterRun.image? (r : LetterRun) (n : Nat) : Option Nat :=
  if r.first ≤ n ∧ n ≤ r.last ∧ (n - r.first) % r.step = 0 then
    some (r.target + (n - r.first))
  else
    none

/-- Where the first run of a list that holds `n` sends it. -/
def imageIn? (runs : List LetterRun) (n : Nat) : Option Nat :=
  runs.findSome? fun r => r.image? n

/-- Whether `n` lies in one of the inclusive ranges of a list. -/
def inRanges (ranges : List (Nat × Nat)) (n : Nat) : Bool :=
  ranges.any fun r => r.1 ≤ n && n ≤ r.2

theorem inRanges_eq_true_iff {ranges : List (Nat × Nat)} {n : Nat} :
    inRanges ranges n = true ↔ ∃ r ∈ ranges, r.1 ≤ n ∧ n ≤ r.2 := by
  simp [inRanges]

end Questbook.Text
