import Questbook.Token.Reader

set_option autoImplicit false

/-! # Writing tokens

Every supported condition and change has a canonical token. A threshold is written with `>=` unless
its name holds `>=` itself, and then with a colon; an update that shifts a counter is written with
its sign in every case; an item is added by the form that names the action and the category.
-/

namespace Questbook

/-- The decimal digits of a whole number under a sign, which a number above zero has only if
`withPlus`. -/
def numeralChars (withPlus : Bool) (n : Int) : List Char :=
  (if n < 0 then ['-'] else if withPlus then ['+'] else []) ++ Nat.toDigits 10 n.natAbs

/-- The value of a threshold. -/
def thresholdValue (name : String) (minimum : Int) : List Char :=
  if (Text.splitAtLeast name.toList).length = 1 then
    name.toList ++ '>' :: '=' :: numeralChars false minimum
  else name.toList ++ ':' :: numeralChars false minimum

/-- The value of an update. -/
def updateValue (name : String) (update : Update) : List Char :=
  name.toList ++ ':' :: numeralChars (!update.isAbsolute) update.value

/-- The canonical token of a condition, if it is supported. -/
def Condition.render? : Condition → Option (List Char)
  | skill name => some ("skill:".toList ++ name.toList)
  | stat name minimum => some ("stat:".toList ++ thresholdValue name minimum)
  | item name => some ("item:".toList ++ name.toList)
  | flag name none => some ("flag:".toList ++ name.toList)
  | flag name (some expected) => some ("flag:".toList ++ name.toList ++ ':' :: expected.toList)
  | counter name minimum => some ("counter:".toList ++ thresholdValue name minimum)
  | combat minimum => some ("combat:".toList ++ numeralChars false minimum)
  | slot name minimum => some ("slot:".toList ++ thresholdValue name minimum)
  | unsupported => none

/-- The canonical token of a change, if it is supported. -/
def Change.render? : Change → Option (List Char)
  | adjustStat name delta =>
    some ("stat:".toList ++ name.toList ++ ':' :: numeralChars true delta)
  | adjustCombat delta => some ("combat:".toList ++ numeralChars true delta)
  | damage amount => some ("endurance:damage:".toList ++ numeralChars false amount)
  | heal amount => some ("endurance:heal:".toList ++ numeralChars false amount)
  | addItem name category =>
    some ("item:add:".toList ++ name.toList ++ ':' :: category.toList)
  | removeItem name => some ("item:remove:".toList ++ name.toList)
  | setFlag name value => some ("flag:".toList ++ name.toList ++ ':' :: value.toList)
  | grantDiscipline name => some ("discipline:".toList ++ name.toList)
  | updateCounter name update => some ("counter:".toList ++ updateValue name update)
  | updateSlot name update => some ("slot:".toList ++ updateValue name update)
  | unsupported => none

end Questbook
