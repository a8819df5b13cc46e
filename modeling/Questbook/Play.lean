import Questbook.Fault

set_option autoImplicit false

/-! # Computations of the play

A `Play σ α` works on a state of type `σ` and gives a value of type `α` or a fault. The state that
it leaves behind counts in both cases: what was changed before a fault stays changed.
-/

namespace Questbook

/-- **A computation on a state that may fail.** -/
abbrev Play (σ α : Type) := ExceptT Fault (StateM σ) α

namespace Play

variable {σ α : Type}

/-- What a computation gives, and the state it leaves behind. -/
def result (p : Play σ α) (s : σ) : Except Fault α × σ :=
  (ExceptT.run p).run s

/-- The computation that a function on states describes. -/
def ofFunction (f : σ → Except Fault α × σ) : Play σ α :=
  ExceptT.mk fun s => f s

/-- The computation that gives a value or a fault and leaves the state as it is. -/
def ofExcept (r : Except Fault α) : Play σ α :=
  ofFunction fun s => (r, s)

/-- A computation on a part of the state. -/
def onPart {τ : Type} (get : τ → σ) (put : τ → σ → τ) (p : Play σ α) : Play τ α :=
  ofFunction fun t =>
    let (r, s) := p.result (get t)
    (r, put t s)

/-- Does something for the elements of a list, one after the other, up to the first fault. -/
def collect {β : Type} (p : α → Play σ β) : List α → Play σ (List β)
  | [] => pure []
  | x :: xs => do
    let y ← p x
    let ys ← collect p xs
    pure (y :: ys)

@[simp] theorem result_ofFunction (f : σ → Except Fault α × σ) (s : σ) :
    (ofFunction f).result s = f s := rfl

@[simp] theorem result_ofExcept (r : Except Fault α) (s : σ) :
    (ofExcept r).result s = (r, s) := rfl

@[simp] theorem result_pure (a : α) (s : σ) :
    (pure a : Play σ α).result s = (.ok a, s) := rfl

/-- A fault skips what follows and keeps the state. -/
theorem result_bind {β : Type} (p : Play σ α) (f : α → Play σ β) (s : σ) :
    (p >>= f).result s =
      match p.result s with
      | (.ok a, s) => (f a).result s
      | (.error e, s) => (.error e, s) := by
  simp only [result, ExceptT.run_bind, StateT.run_bind]
  cases h : (ExceptT.run p).run s with
  | mk r s' => cases r <;> rfl

end Play

end Questbook
