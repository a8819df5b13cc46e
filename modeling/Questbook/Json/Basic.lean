import Questbook.Number.Basic
import Questbook.Text.Quoted

set_option autoImplicit false

/-! # JSON values

`Json` is a value of a book, of a saved game or of a table of rules, as its file states it. Numbers
without fraction and exponent are whole numbers of any size, the others are floats. The fields of
an object keep the order in which they were written, and documents never hold a name twice.

Records are read from such values leniently, so the questions asked of a value here are about its
*use*, whatever its type: whether it counts as given (`isGiven`), what it lists (`items`), which
number it is (`number?`, `toWhole`), how it reads in a message (`text`), and whether two values are
the same (`same`: numbers by value, truth values counting as 1 and 0, objects without regard to
order).
-/

namespace Questbook

/-- **A JSON value.** -/
inductive Json
  | null
  | bool (b : Bool)
  | int (n : Int)
  | float (x : Binary64)
  | str (s : String)
  | arr (items : List Json)
  | obj (fields : List (String × Json))

namespace Json

instance : Inhabited Json := ⟨.null⟩

/-- Texts as a list of values. -/
def strings (ss : List String) : Json := .arr (ss.map .str)

/-- The number a value stands for. Truth values stand for 1 and 0. -/
def number? : Json → Option Number
  | .bool b => some (.whole (if b then 1 else 0))
  | .int n => some (.whole n)
  | .float x => some (.real x)
  | _ => none

/-- The value of a number. -/
def ofNumber : Number → Json
  | .whole n => .int n
  | .real x => .float x

/-- Whether a value counts as given. Null, false, zero and everything empty do not. -/
def isGiven : Json → Bool
  | .null => false
  | .bool b => b
  | .int n => n ≠ 0
  | .float x => !x.isZero
  | .str s => !s.isEmpty
  | .arr items => !items.isEmpty
  | .obj fields => !fields.isEmpty

/-- The value, or another one if it does not count as given. -/
def orElse (j other : Json) : Json :=
  if j.isGiven then j else other

/-- What a value lists: a list its items, an object its names, a text its characters. -/
def items : Json → Except Fault (List Json)
  | .arr items => .ok items
  | .obj fields => .ok (fields.map fun f => .str f.1)
  | .str s => .ok ((Text.points s.toList).map fun n => .str (Text.ofPoints [n]))
  | _ => .error .notIterable

/-- The text of a value that is a text. -/
def asText : Json → Except Fault String
  | .str s => .ok s
  | _ => .error .notText

/-- The whole number a value converts to. Floats lose their fraction, texts are read as loose
numerals. -/
def toWhole : Json → Except Fault Int
  | .bool b => .ok (if b then 1 else 0)
  | .int n => .ok n
  | .float x => (Number.real x).truncate
  | .str s => Numeral.readLoose s.toList
  | _ => .error .notConvertible

/-- Whether a value is a number that is at least `n`; other values do not compare. -/
def atLeast (j : Json) (n : Int) : Except Fault Bool :=
  match j.number? with
  | some x => .ok ((Number.whole n).le x)
  | none => .error .notComparable

/-- The sum of a value that is a number and a whole number. -/
def addWhole (j : Json) (n : Int) : Except Fault Json :=
  match j.number? with
  | some x => (x.add (.whole n)).map ofNumber
  | none => .error .notSummable

/-! ## The same value -/

/-- The value under a name. -/
def field? (name : String) : List (String × Json) → Option Json
  | [] => none
  | f :: fs => if f.1 = name then some f.2 else field? name fs

mutual

/-- Whether two values are the same. -/
def same : Json → Json → Bool
  | .null, .null => true
  | .str s, .str t => s = t
  | .arr xs, .arr ys => sameItems xs ys
  | .obj fs, .obj gs => fs.length = gs.length && sameFields fs gs
  -- the float that is not a number equals nothing, but it is the same as itself
  | .float x, .float y => x = y || (Number.real x).eqv (.real y)
  | .bool a, y => sameNumber (.whole (if a then 1 else 0)) y
  | .int a, y => sameNumber (.whole a) y
  | .float x, y => sameNumber (.real x) y
  | _, _ => false

/-- Whether a value is a number equal to the given one. -/
def sameNumber (x : Number) (j : Json) : Bool :=
  match j.number? with
  | some y => x.eqv y
  | none => false

/-- Whether two lists hold the same values in the same order. -/
def sameItems : List Json → List Json → Bool
  | [], [] => true
  | x :: xs, y :: ys => same x y && sameItems xs ys
  | _, _ => false

/-- Whether each field has the same value under its name in the second list. -/
def sameFields : List (String × Json) → List (String × Json) → Bool
  | [], _ => true
  | f :: fs, gs =>
    (match field? f.1 gs with
      | some y => same f.2 y
      | none => false) && sameFields fs gs

end

/-! ## The text of a value in a message -/

/-- Pieces of text with a comma and a space between them. -/
def commaJoined (pieces : List String) : String :=
  ", ".intercalate pieces

mutual

/-- The text of a value inside another one: texts are quoted. -/
def innerText : Json → Except Fault String
  | .null => .ok "None"
  | .bool b => .ok (if b then "True" else "False")
  | .int n => Numeral.decimalText n
  | .float x => .ok (Binary64.floatText Binary64.messageSpelling x)
  | .str s => .ok (String.ofList (Text.quoted s.toList))
  | .arr xs => do
    let texts ← itemTexts xs
    pure ("[" ++ commaJoined texts ++ "]")
  | .obj fs => do
    let texts ← fieldTexts fs
    pure ("\x7b" ++ commaJoined texts ++ "\x7d")

/-- The texts of the items of a list. -/
def itemTexts : List Json → Except Fault (List String)
  | [] => .ok []
  | x :: xs => do
    let t ← innerText x
    let ts ← itemTexts xs
    pure (t :: ts)

/-- The texts of the fields of an object. -/
def fieldTexts : List (String × Json) → Except Fault (List String)
  | [] => .ok []
  | (name, x) :: fs => do
    let t ← innerText x
    let ts ← fieldTexts fs
    pure ((String.ofList (Text.quoted name.toList) ++ ": " ++ t) :: ts)

end

/-- **The text of a value in a message.** A text stands for itself. -/
def text : Json → Except Fault String
  | .str s => .ok s
  | j => innerText j

/-! ## First facts -/

@[simp] theorem isGiven_str (s : String) : (Json.str s).isGiven = !s.isEmpty := rfl

@[simp] theorem number?_ofNumber (x : Number) : (ofNumber x).number? = some x := by
  cases x <;> rfl

theorem orElse_of_isGiven {j other : Json} (h : j.isGiven = true) : j.orElse other = j := by
  simp [orElse, h]

@[simp] theorem atLeast_int (m n : Int) : (Json.int m).atLeast n = .ok (decide (n ≤ m)) := by
  simp [atLeast, number?]

@[simp] theorem addWhole_int (m n : Int) : (Json.int m).addWhole n = .ok (.int (m + n)) := rfl

end Json

end Questbook
