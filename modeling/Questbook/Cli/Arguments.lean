import Questbook.Json.Basic
import Questbook.Text.Decimal

set_option autoImplicit false

/-! # Command line arguments

A `Grammar` says what a command takes: **switches**, which stand alone, **options**, which take a
value as `--name value` or `--name=value`, and **operands**, the arguments that are neither. Every
command has the switches `-h` and `--help`. Everything after a separator `--` is an operand, and so
are a lone dash, negative numbers, and arguments that hold a space.

`Grammar.read` goes through the arguments from left to right and records what they say. A value is
checked when it is met, so that of a wrong value and a switch for help the first one counts. An
argument that the command does not know, or an operand too many, is refused only at the end: help
further on is still given.
-/

namespace Questbook.Cli

/-- **Why a command line is not carried out.** -/
inductive Stop
  /-- Help is asked for. -/
  | help
  /-- The command line is not understood. -/
  | refused
  deriving DecidableEq, Repr

/-- The exit status of a command line that is not carried out. -/
def Stop.status : Stop → Nat
  | help => 0
  | refused => 2

/-- **A value of an option or an operand.** A separator in the place of a value stands for the
empty list, which is a value for want of one. -/
inductive Argument (α : Type)
  | value (a : α)
  | emptyList
  deriving DecidableEq, Repr

namespace Argument

variable {α : Type}

/-- An argument as a JSON value. -/
def toJson (make : α → Json) : Argument α → Json
  | value a => make a
  | emptyList => .arr []

/-- The text of an argument. -/
def text (shown : α → String) : Argument α → String
  | value a => shown a
  | emptyList => "[]"

/-- The value of an argument, or a default. -/
def getD (default : α) : Argument α → α
  | value a => a
  | emptyList => default

/-- The value of an argument where only a value will do. -/
def needed : Argument α → Except Fault α
  | value a => .ok a
  | emptyList => .error .noValue

end Argument

/-- Records something in what has been read so far. -/
abbrev Recorder (σ : Type) := σ → Except Stop σ

/-- **What a command takes.** Names are given with their dashes; each switch, option and operand
comes with how it is recorded. The operands have to be given, in this order. -/
structure Grammar (σ : Type) where
  switches : List (String × (σ → σ)) := []
  options : List (String × (Argument String → Recorder σ)) := []
  operands : List (Argument String → Recorder σ) := []

/-- How an argument is understood. -/
inductive Piece
  | operand
  | switches (names : List String)
  | option (name : String) (value : Option String)
  /-- An option that the command does not have. -/
  | unknown
  /-- A switch with a value, which no switch takes. -/
  | overfull
  deriving DecidableEq

section

variable {σ : Type}

/-! ## Single arguments -/

/-- The switches that ask for help. -/
def helpNames : List String := ["-h", "--help"]

/-- How a switch is recorded. Asking for help stops the reading. -/
def Grammar.switch? (g : Grammar σ) (name : String) : Option (Recorder σ) :=
  if helpNames.contains name then some fun _ => .error .help
  else (g.switches.lookup name).map fun record st => .ok (record st)

/-- Whether there is a switch of a name. -/
def Grammar.hasSwitch (g : Grammar σ) (name : String) : Bool := (g.switch? name).isSome

/-- Whether there is an option of a name. -/
def Grammar.hasOption (g : Grammar σ) (name : String) : Bool := (g.options.lookup name).isSome

/-- Whether a text consists of digits, of which there is one at least. -/
def isDigits (cs : List Char) : Bool :=
  !cs.isEmpty && cs.all fun c => (Text.digitValue? c).isSome

/-- The text without the line feed that it may end in. -/
def withoutLineEnd (cs : List Char) : List Char :=
  if cs.getLast? = some '\n' then cs.dropLast else cs

/-- Whether a text is a number without sign, with a fraction or not. -/
def isUnsigned (cs : List Char) : Bool :=
  isDigits cs ||
    ((cs.takeWhile fun c => c ≠ '.').all fun c => (Text.digitValue? c).isSome) &&
      (match cs.dropWhile fun c => c ≠ '.' with
        | '.' :: rest => isDigits rest
        | _ => false)

/-- Whether an argument looks like a negative number. -/
def looksNegative : List Char → Bool
  | '-' :: cs => isUnsigned (withoutLineEnd cs)
  | _ => false

/-- The name and the value of an argument with an equals sign. -/
def cutValue (arg : String) : Option (String × String) :=
  match arg.toList.dropWhile fun c => c ≠ '=' with
  | '=' :: value =>
    some (String.ofList (arg.toList.takeWhile fun c => c ≠ '='), String.ofList value)
  | _ => none

/-- The name of the switch of one letter. -/
def letterName (c : Char) : String := String.ofList ['-', c]

/-- How a switch is understood that is followed by a text. After a switch of one letter the text
consists of further such switches. -/
def Grammar.cluster (g : Grammar σ) (name : String) (text : List Char) : Piece :=
  let names := text.map letterName
  if name.length = 2 && !text.isEmpty && names.all g.hasSwitch then .switches (name :: names)
  else .overfull

/-- The switch of one letter that a text starts with, and the rest of the text. -/
def Grammar.letterSwitch? (g : Grammar σ) : List Char → Option (String × List Char)
  | '-' :: c :: rest => if g.hasSwitch (letterName c) then some (letterName c, rest) else none
  | _ => none

/-- How an argument in front of a separator is understood. -/
def Grammar.pieceOf (g : Grammar σ) (arg : String) : Piece :=
  if !(['-'].isPrefixOf arg.toList) then .operand
  else if g.hasSwitch arg then .switches [arg]
  else if g.hasOption arg then .option arg none
  -- a lone dash is a name, not an option
  else if arg = "-" then .operand
  else
    match (cutValue arg).filter fun v => g.hasSwitch v.1 || g.hasOption v.1 with
    | some (name, value) =>
      if g.hasOption name then .option name (some value) else g.cluster name value.toList
    | none =>
      match g.letterSwitch? arg.toList with
      | some (name, rest) => g.cluster name rest
      | none =>
        if looksNegative arg.toList || arg.toList.contains ' ' then .operand else .unknown

/-- What marks that only operands follow. -/
def separator : String := "--"

/-- Whether an argument can be the value of an option. -/
def Grammar.isValue (g : Grammar σ) (arg : String) : Bool :=
  arg ≠ separator && g.pieceOf arg = .operand

/-- The argument that a text gives. -/
def Argument.ofText (s : String) : Argument String :=
  if s = separator then .emptyList else .value s

/-! ## Recording -/

/-- Records a value that a reader understands. The empty list is taken unread. -/
def recordAs {α : Type} (parse : String → Option α) (put : Argument α → σ → σ) :
    Argument String → Recorder σ
  | .emptyList, st => .ok (put .emptyList st)
  | .value s, st =>
    match parse s with
    | some a => .ok (put (.value a) st)
    | none => .error .refused

/-- Records the first operand as it is. A separator in front of it belongs to it, so that the first
operand is never the empty list. -/
def recordFirst (put : String → σ → σ) : Argument String → Recorder σ
  | .value s, st => .ok (put s st)
  | .emptyList, _ => .error .refused

/-- Records switches one after the other. -/
def Grammar.recordSwitches (g : Grammar σ) : List String → Recorder σ
  | [], st => .ok st
  | name :: names, st =>
    match g.switch? name with
    | some record => do g.recordSwitches names (← record st)
    | none => .error .refused

/-- Records the value of an option. -/
def Grammar.recordOption (g : Grammar σ) (name : String) (value : Argument String) : Recorder σ :=
  match g.options.lookup name with
  | some record => record value
  | none => fun _ => .error .refused

/-- Records operands. There have to be as many as are expected. -/
def recordOperands : List (Argument String → Recorder σ) → List (Argument String) → Recorder σ
  | [], [], st => .ok st
  | record :: expected, a :: given, st => do recordOperands expected given (← record a st)
  | _, _, _ => .error .refused

/-- Records the operands after a separator. The separator belongs to the operand in front of it, or
else to the first one after it, which is a text then, whatever it is. -/
def recordSeparated (expected : List (Argument String → Recorder σ)) (afterOperand : Bool)
    (args : List String) : Recorder σ :=
  if afterOperand then recordOperands expected (args.map .ofText)
  else
    match args with
    | [] => fun _ => .error .refused
    | first :: rest => recordOperands expected (.value first :: rest.map .ofText)

/-! ## Reading -/

/-- What comes of arguments of which one has to be refused: they are still read for the sake of
help. -/
def refuseAfter {α β : Type} (rest : Except Stop α) : Except Stop β :=
  match rest with
  | .ok _ => .error .refused
  | .error stop => .error stop

/-- Reads arguments. `expected` are the operands still to come, and `afterOperand` says that an
operand has just been read. -/
def Grammar.readFrom (g : Grammar σ) (expected : List (Argument String → Recorder σ))
    (afterOperand : Bool) : List String → Recorder σ
  | [], st => if expected.isEmpty then .ok st else .error .refused
  | arg :: rest, st =>
    if arg = separator then recordSeparated expected afterOperand rest st
    else
      match g.pieceOf arg, expected, rest with
      | .operand, record :: expected, rest => do
        g.readFrom expected true rest (← record (.value arg) st)
      | .operand, [], rest => refuseAfter (g.readFrom [] true rest st)
      | .switches names, expected, rest => do
        g.readFrom expected false rest (← g.recordSwitches names st)
      | .option name (some value), expected, rest => do
        g.readFrom expected false rest (← g.recordOption name (.ofText value) st)
      | .option name none, expected, value :: rest =>
        if g.isValue value then do
          g.readFrom expected false rest (← g.recordOption name (.value value) st)
        else .error .refused
      | .option _ none, _, [] => .error .refused
      | .unknown, expected, rest => refuseAfter (g.readFrom expected false rest st)
      | .overfull, _, _ => .error .refused

/-- **Reads the arguments of a command.** -/
def Grammar.read (g : Grammar σ) (args : List String) : Recorder σ :=
  g.readFrom g.operands false args

/-- **Reads the arguments in front of a command,** and the command with what follows it, which
`readCommand` reads. -/
def Grammar.readLead {α : Type} (g : Grammar σ)
    (readCommand : String → List String → Except Stop α) :
    List String → σ → Except Stop (σ × α)
  | [], _ => .error .refused
  | arg :: rest, st =>
    if arg = separator then .error .refused
    else
      match g.pieceOf arg, rest with
      | .operand, rest => do pure (st, ← readCommand arg rest)
      | .switches names, rest => do g.readLead readCommand rest (← g.recordSwitches names st)
      | .option name (some value), rest => do
        g.readLead readCommand rest (← g.recordOption name (.ofText value) st)
      | .option name none, value :: rest =>
        if g.isValue value then do
          g.readLead readCommand rest (← g.recordOption name (.value value) st)
        else .error .refused
      | .option _ none, [] => .error .refused
      | .unknown, rest => refuseAfter (g.readLead readCommand rest st)
      | .overfull, _ => .error .refused

end

/-! ## Values -/

/-- A whole number. -/
def parseWhole (s : String) : Option Int :=
  (Numeral.readLoose s.toList).toOption

/-- A whole number in a range. -/
def parseWithin (low high : Int) (s : String) : Option Int :=
  (parseWhole s).filter fun n => low ≤ n && n ≤ high

end Questbook.Cli
