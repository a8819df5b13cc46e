import Questbook.Book.Basic

set_option autoImplicit false

/-! # Outcomes of rolls

A choice that declares outcomes needs a roll. The outcomes that a roll brings about are those whose
range holds it, in the order in which they are declared (`matching`); when ranges overlap, the first
one is selected (`select`).

In a section a roll selects all choices that declare an outcome for it (`selectedBy`). Choices are
told apart by labels there, so that the same choice listed twice is selected once.
-/

namespace Questbook

/-- The elements that pass a test, up to the first fault of the test. -/
def filterChecked {α : Type} (test : α → Except Fault Bool) : List α → Except Fault (List α)
  | [] => .ok []
  | x :: xs => do
    if ← test x then pure (x :: (← filterChecked test xs)) else filterChecked test xs

/-- Whether a choice needs a roll. -/
def Choice.needsRoll (c : Choice) : Bool := !c.outcomes.isEmpty

/-- **The outcomes of a roll,** in the order of declaration. -/
def Choice.matching (c : Choice) (roll : Json) : Except Fault (List RandomOutcome) :=
  filterChecked (fun o => o.contains roll) c.outcomes

/-- The places of the outcomes of a roll among those declared. -/
def Choice.matchingPlaces (c : Choice) (roll : Json) : Except Fault (List Nat) :=
  (filterChecked (fun o => o.1.contains roll) c.outcomes.zipIdx).map fun os => os.map Prod.snd

/-- The outcome that a roll selects: the first that matches. -/
def Choice.select (c : Choice) (roll : Json) : Except Fault (Option RandomOutcome) :=
  (c.matching roll).map List.head?

/-- Whether a roll brings about an outcome of a choice. -/
def Choice.answers (c : Choice) (roll : Json) : Except Fault Bool :=
  (c.matching roll).map fun os => !os.isEmpty

/-- The labels of the choices that a roll selects and that are not among those seen before. -/
def selectedAfter {κ : Type} [DecidableEq κ] (roll : Json) (seen : List κ) :
    List (Option (κ × Choice)) → Except Fault (List κ)
  | [] => .ok []
  | none :: _ => .error (.required "choice")
  | some (k, c) :: rest =>
    if k ∈ seen then selectedAfter roll seen rest
    else do
      if ← c.answers roll then pure (k :: (← selectedAfter roll (k :: seen) rest))
      else selectedAfter roll seen rest

/-- **The labels of the choices that a roll selects,** each once, in the order of the list. A place
of the list may be empty, which is a fault when it is reached. -/
def selectedBy {κ : Type} [DecidableEq κ] (roll : Json) (choices : List (Option (κ × Choice))) :
    Except Fault (List κ) :=
  selectedAfter roll [] choices

/-- The places of the choices of a section that a roll selects. -/
def Section.selectedBy (s : Section) (roll : Json) : Except Fault (List Nat) :=
  Questbook.selectedBy roll (s.choices.zipIdx.map fun c => some (c.2, c.1))

/-- A test that never fails filters as usual. -/
theorem filterChecked_ok {α : Type} (p : α → Bool) (xs : List α) :
    filterChecked (fun x => .ok (p x)) xs = .ok (xs.filter p) := by
  induction xs with
  | nil => rfl
  | cons x xs ih =>
    simp only [filterChecked, ih, List.filter_cons]
    cases p x <;> rfl

/-- The outcomes of a whole number are those whose range holds it. -/
theorem Choice.matching_int (c : Choice) (roll : Int) :
    c.matching (.int roll) = .ok (c.outcomes.filter fun o => o.holds roll) := by
  simp [Choice.matching, filterChecked_ok]

end Questbook
