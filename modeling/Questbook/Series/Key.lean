import Questbook.Json.Basic
import Questbook.Text.Blank
import Questbook.Text.Lowercase

set_option autoImplicit false

/-! # Keys of series

A series is named by a key such as `lw` or `Lone Wolf`. Keys are compared in a normal form: without
spaces and in lower case (`normalKey`). A blank key stands for the default series. A key that names
a document keeps its spelling, since it has to lead to the same file afterwards.
-/

namespace Questbook.Series

/-- The key of the default series. -/
def defaultKey : String := "default"

/-- Whether a text names a document. -/
def namesDocument (s : String) : Bool :=
  ".json".toList.isSuffixOf (Text.lowercase s).toList

/-- The text without spaces. -/
def withoutSpaces (s : String) : String :=
  String.ofList (s.toList.filter fun c => c ≠ ' ')

/-- **The normal form of a key.** -/
def normalKey (key : Option String) : String :=
  match key with
  | none => defaultKey
  | some key =>
    if Text.isBlank key then defaultKey
    -- file names may tell cases apart, so that those are left alone
    else if namesDocument (Text.trim key) then Text.trim key
    else Text.lowercase (withoutSpaces (Text.trim key))

/-- The key that a value states. Null states none; any other value has to be a text. -/
def keyOfJson : Json → Except Fault (Option String)
  | .null => .ok none
  | j => do pure (some (← j.asText))

end Questbook.Series
