import Questbook.Fault

set_option autoImplicit false

/-! # Requirements and effects

A choice carries **tokens**, short texts such as `counter:Meals:-1`. A requirement token states a
`Condition` on the character, an effect token a `Change` to it. Both keep the text they were read
from; a text that states nothing known becomes the *unsupported* condition, which never holds, or
the unsupported change, which changes nothing.

The names of the variants are those that tools and messages use (`Condition.variant`).
-/

namespace Questbook

/-- **A condition on the character and the flags.** -/
inductive Condition
  /-- The character knows a discipline or has a core skill of this name. -/
  | skill (name : String)
  /-- A named value of the character is at least a minimum. -/
  | stat (name : String) (minimum : Int)
  /-- An item of this name is carried. -/
  | item (name : String)
  /-- A flag is set, and has the expected value if one is given. -/
  | flag (name : String) (expected : Option String)
  /-- A counter is at least a minimum. -/
  | counter (name : String) (minimum : Int)
  /-- What effects have added to combat skill is at least a minimum. -/
  | combat (minimum : Int)
  /-- The counter of a slot is at least a minimum. -/
  | slot (name : String) (minimum : Int)
  /-- The token states nothing known. -/
  | unsupported
  deriving DecidableEq, Repr

/-- A condition with the token that states it. -/
structure Requirement where
  condition : Condition
  raw : String
  deriving DecidableEq, Repr

/-- How a counter is written: to a value, or by a difference. -/
inductive Update
  | set (value : Int)
  | shift (delta : Int)
  deriving DecidableEq, Repr

/-- **A change to the character or the flags.** -/
inductive Change
  | adjustStat (name : String) (delta : Int)
  /-- Changes what effects have added to combat skill. -/
  | adjustCombat (delta : Int)
  /-- Takes endurance, but no more than there is. -/
  | damage (amount : Int)
  | heal (amount : Int)
  | addItem (name category : String)
  /-- Takes away the first item of this name. -/
  | removeItem (name : String)
  | setFlag (name value : String)
  | grantDiscipline (name : String)
  | updateCounter (name : String) (update : Update)
  | updateSlot (name : String) (update : Update)
  /-- The token states nothing known. -/
  | unsupported
  deriving DecidableEq, Repr

/-- A change with the token that states it. -/
structure Effect where
  change : Change
  raw : String
  deriving DecidableEq, Repr

/-- The value that an update writes or adds. -/
def Update.value : Update → Int
  | set v => v
  | shift d => d

/-- Whether an update writes a value regardless of the old one. -/
def Update.isAbsolute : Update → Bool
  | set _ => true
  | shift _ => false

/-! ## Variants -/

/-- The names of the variants of conditions. -/
def Condition.variants : List String :=
  ["SkillPresence", "StatThreshold", "ItemPresence", "FlagRequirement", "CounterThreshold",
    "CombatModifierThreshold", "SlotThreshold", "UnsupportedRequirement"]

/-- The name of a condition's variant. -/
def Condition.variant : Condition → String
  | skill _ => "SkillPresence"
  | stat _ _ => "StatThreshold"
  | item _ => "ItemPresence"
  | flag _ _ => "FlagRequirement"
  | counter _ _ => "CounterThreshold"
  | combat _ => "CombatModifierThreshold"
  | slot _ _ => "SlotThreshold"
  | unsupported => "UnsupportedRequirement"

/-- The names of the variants of changes. -/
def Change.variants : List String :=
  ["AdjustStat", "AdjustCombatModifier", "EnduranceDamage", "EnduranceHeal", "AddItem",
    "RemoveItem", "SetFlag", "GrantDiscipline", "UpdateCounter", "UpdateSlot",
    "UnsupportedEffect"]

/-- The name of a change's variant. -/
def Change.variant : Change → String
  | adjustStat _ _ => "AdjustStat"
  | adjustCombat _ => "AdjustCombatModifier"
  | damage _ => "EnduranceDamage"
  | heal _ => "EnduranceHeal"
  | addItem _ _ => "AddItem"
  | removeItem _ => "RemoveItem"
  | setFlag _ _ => "SetFlag"
  | grantDiscipline _ => "GrantDiscipline"
  | updateCounter _ _ => "UpdateCounter"
  | updateSlot _ _ => "UpdateSlot"
  | unsupported => "UnsupportedEffect"

/-- Checks that every variant of a list has a handler; the fault names those that have none. -/
def requireHandlers (owner : String) (variants handlers : List String) : Except Fault Unit :=
  match variants.filter fun v => !handlers.contains v with
  | [] => .ok ()
  | missing => .error (.unhandled owner missing)

/-- The names of the variants of a type of tokens, given its name. A variant has none of its own. -/
def variantsOf? (name : String) : Option (List String) :=
  if name = "Requirement" then some Condition.variants
  else if name = "Effect" then some Change.variants
  else if (Condition.variants ++ Change.variants).contains name then some []
  else none

/-- **Checks a dispatch table** for a type of tokens. All names have to be names of something. -/
def checkDispatch (owner type : String) (handlers : List String) : Except Fault Unit :=
  match variantsOf? type, handlers.all fun h => (variantsOf? h).isSome with
  | some variants, true => requireHandlers owner variants handlers
  | _, _ => .error .noMember

theorem Condition.variant_mem (c : Condition) : c.variant ∈ Condition.variants := by
  cases c <;> simp [Condition.variant, Condition.variants]

theorem Change.variant_mem (c : Change) : c.variant ∈ Change.variants := by
  cases c <;> simp [Change.variant, Change.variants]

end Questbook
