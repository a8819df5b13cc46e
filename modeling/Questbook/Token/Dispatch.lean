import Questbook.Token.Application

set_option autoImplicit false

/-! # Tokens of either kind

A `Token` is a requirement or an effect. An effect never holds, and a requirement cannot be applied,
not even an unsupported one.
-/

namespace Questbook

/-- **A requirement or an effect.** -/
inductive Token
  | requirement (r : Requirement)
  | effect (e : Effect)

/-- Whether a token holds in a context. -/
def Token.holds (t : Token) (c : Context) : Except Fault Bool :=
  match t with
  | .requirement r => r.holds c
  | .effect _ => .ok false

/-- The context after a token is applied. -/
def Token.apply (t : Token) (c : Context) : Except Fault Context :=
  match t with
  | .requirement _ => .error .notAnEffect
  | .effect e => e.change.apply c

/-- The context after a list of tokens, and the fault that stopped them, if one did. -/
def applyTokens (c : Context) : List Token → Context × Option Fault
  | [] => (c, none)
  | t :: ts =>
    match t.apply c with
    | .ok c => applyTokens c ts
    | .error f => (c, some f)

/-- Effects are applied as tokens in the same way. -/
theorem applyTokens_effects (c : Context) (es : List Effect) :
    applyTokens c (es.map .effect) = applyAll c es := by
  induction es generalizing c with
  | nil => rfl
  | cons e es ih =>
    simp only [List.map_cons, applyTokens, applyAll, Token.apply]
    cases e.change.apply c with
    | ok c' => exact ih c'
    | error f => rfl

end Questbook
