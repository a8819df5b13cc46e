set_option autoImplicit false

/-! # What can go wrong

A `Fault` says why an operation on game data failed. Its `category` sorts the causes by what is at
fault (the shape of a value, its type, its content, a missing key, a file), and callers that
tolerate damaged data decide by category which faults they absorb. Its `message?` is the text a
player or an author is shown; faults that come from a single value of a document have none.
-/

namespace Questbook

/-- What is wrong with the contents of a book file or of a save file. -/
inductive Damage
  /-- The bytes are not UTF-8 text, or the text is not JSON. -/
  | undecodable
  /-- The JSON value is not an object. -/
  | notAnObject
  /-- A field of the document has a value that the record cannot take. -/
  | malformed
  /-- A book names no series. -/
  | noSeries
  deriving DecidableEq, Repr

/-- **A cause of failure.** -/
inductive Fault
  /-- An argument that must be given was not. -/
  | required (argument : String)
  /-- A roll outside the Random Number Table. -/
  | rollOutOfRange
  /-- A dispatch table without handlers for some variants. -/
  | unhandled (owner : String) (variants : List String)
  /-- There is no file for a book. -/
  | noBookFile (path : String)
  | badBook (path : String) (damage : Damage)
  | badSave (path : String) (damage : Damage)
  /-- A text was needed. -/
  | notText
  /-- Fields were read from a text or a list. -/
  | notRecord
  /-- Nothing has the name that was asked for. -/
  | noMember
  /-- Fields were read from a value that has no parts at all. -/
  | noFields
  /-- A text or a list was indexed by a field name. -/
  | notKeyed
  /-- A value without parts was enumerated. -/
  | notIterable
  /-- A value that is not a number was compared with one. -/
  | notComparable
  /-- A value that is not a number was used in a sum. -/
  | notSummable
  /-- A whole number was asked of a value that cannot give one. -/
  | notConvertible
  /-- A text is no numeral. -/
  | badNumeral
  /-- A numeral, read or to be written, has more digits than are allowed. -/
  | longNumeral
  /-- A whole number was asked of the float that is not a number. -/
  | notANumber
  /-- A whole number was asked of an infinite float. -/
  | infinite
  /-- A whole number is too large to become a float. -/
  | tooLargeForFloat
  /-- The empty list was given where a value is needed. -/
  | noValue
  /-- An operation was given too many or too few arguments, or one that it does not have. -/
  | badArguments
  /-- An entry of a map is not a pair. -/
  | notAPair
  /-- A signed whole number was to be written for a float. -/
  | notWhole
  /-- A number was drawn from an empty range. -/
  | emptyRange
  /-- A path holds the NUL character. -/
  | nulInPath
  /-- A text with an unpaired half was to be written, or to name a file. -/
  | unencodable
  /-- A map has no such key. -/
  | absentKey
  /-- Something other than an effect was applied. -/
  | notAnEffect
  | fileNotFound
  | isDirectory
  | notDirectory
  | fileExists
  deriving DecidableEq, Repr

namespace Fault

/-- What kind of thing is at fault. -/
inductive Category
  /-- A value lacks an operation: it has the wrong shape. -/
  | shape
  /-- An operation does not take values of this type. -/
  | type
  /-- A value of the right type has the wrong content. -/
  | value
  /-- A text has no encoding, which is a kind of wrong content. -/
  | encoding
  | key
  | overflow
  | bookFormat
  | saveFormat
  | fileNotFound
  | isDirectory
  | notDirectory
  | fileExists
  deriving DecidableEq, Repr

/-- The category of a fault. -/
def category : Fault → Category
  | required _ | rollOutOfRange | badNumeral | longNumeral | notANumber | notAPair | notWhole
  | emptyRange | nulInPath => .value
  | unencodable => .encoding
  | unhandled _ _ | noFields | notKeyed | notIterable | notComparable | notSummable
  | notConvertible | noValue | badArguments => .type
  | notText | notRecord | noMember => .shape
  | infinite | tooLargeForFloat => .overflow
  | absentKey | notAnEffect => .key
  | badBook _ _ => .bookFormat
  | badSave _ _ => .saveFormat
  | noBookFile _ | fileNotFound => .fileNotFound
  | isDirectory => .isDirectory
  | notDirectory => .notDirectory
  | fileExists => .fileExists

/-- Whether the fault lies in a value of a document: in its shape, its type or its content. Errors
of a format are errors of content, too. -/
def inDocument (f : Fault) : Bool :=
  match f.category with
  | .shape | .type | .value | .encoding | .bookFormat | .saveFormat => true
  | _ => false

/-- Whether the fault lies in the type or the content of a value. -/
def inTypeOrContent (f : Fault) : Bool :=
  match f.category with
  | .type | .value | .encoding | .bookFormat | .saveFormat => true
  | _ => false

/-- What a message says in the place of a cause that it does not spell out. -/
def unstatedCause : String := "<cause>"

/-- The message about a damaged book file. -/
def bookMessage (path : String) : Damage → String
  | .undecodable => "Unable to decode book data from " ++ path ++ ": " ++ unstatedCause
  | .notAnObject => "Unable to decode book data from " ++ path ++ ": not a JSON object"
  | .malformed => "Malformed book data in " ++ path ++ ": " ++ unstatedCause
  | .noSeries => "Book data from " ++ path ++ " is missing a seriesId."

/-- The message about a damaged save file. -/
def saveMessage (path : String) : Damage → String
  | .undecodable => "Unable to decode save file " ++ path ++ ": " ++ unstatedCause
  | .notAnObject => "Unable to decode save file " ++ path ++ ": not a JSON object"
  | .malformed | .noSeries => "Malformed save data in " ++ path ++ ": " ++ unstatedCause

/-- **The message of a fault,** for those that have one. -/
def message? : Fault → Option String
  | required argument => some (argument ++ " is required")
  | rollOutOfRange => some "roll must be between 0 and 9"
  | unhandled owner variants =>
    some (owner ++ " has no handler for: " ++ ", ".intercalate variants)
  | noBookFile path => some ("Book file not found: " ++ path)
  | badBook path damage => some (bookMessage path damage)
  | badSave path damage => some (saveMessage path damage)
  | _ => none

/-- An argument that has to be given. -/
def need {α : Type} (argument : String) : Option α → Except Fault α
  | some a => .ok a
  | none => .error (.required argument)

end Fault

end Questbook
