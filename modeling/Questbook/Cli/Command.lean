import Questbook.Cli.Arguments
import Questbook.Files.Path
import Questbook.Roll.Source

set_option autoImplicit false

/-! # Commands

The commands of the program with their operands and options, the settings that come in front of a
command, and how both are read from the command line (`Invocation.parse`).

Each command has a grammar that records what is given. What is read from it is the command, or the
reason why there is none (`Stop`).
-/

namespace Questbook.Cli

/-- **The settings of a run.** Without a seed, rolls differ from run to run. -/
structure Settings where
  booksDirectory : Argument Path := .value (Path.parse "books")
  savesDirectory : Argument Path := .value (Path.parse "saves")
  seed : Option (Argument Int) := none
  verbose : Bool := false

/-- The scores of both sides in a round of combat. -/
structure Scores where
  playerSkill : Argument Int
  playerEndurance : Argument Int
  enemySkill : Argument Int
  enemyEndurance : Argument Int

/-- **A command.** -/
inductive Command
  /-- Checks the built-in resources. -/
  | validateSeries
  /-- Lists warnings about a book; a strict check fails if there are any. -/
  | validateBook (file : Path) (series : Option (Argument String)) (strict : Bool)
  /-- Rolls on the Random Number Table. -/
  | roll (count : Argument Int)
  /-- Resolves one round of combat. -/
  | combat (scores : Scores) (roll : Option (Argument Int)) (series : Option (Argument String))
  /-- Starts a book and saves the game in a slot. -/
  | start (bookId : String) (slot : Argument String)
  /-- Takes a choice, counted from one, in the game of a slot. -/
  | choose (slot : String) (choice : Argument Int) (roll outcome : Option (Argument Int))

/-- A command with its settings. -/
structure Invocation where
  settings : Settings
  command : Command

/-- The series that a command names. -/
def Command.series : Command → Option (Argument String)
  | validateBook _ series _ => series
  | combat _ _ series => series
  | _ => none

/-! ## Values -/

/-- A roll on the Random Number Table. -/
def parseRoll : String → Option Int := parseWithin minRoll maxRoll

/-- A path. -/
def parsePath (s : String) : Option Path := some (Path.parse s)

/-- What has to be given. -/
def given {α : Type} : Option α → Except Stop α
  | some a => .ok a
  | none => .error .refused

/-! ## Reading commands -/

/-- A command without options and operands. -/
def readValidateSeries (args : List String) : Except Stop Command := do
  let _ ← Grammar.read { } args ()
  pure .validateSeries

/-- What is given to a check of a book. -/
structure BookCheck where
  file : Path := {}
  series : Option (Argument String) := none
  strict : Bool := false

def bookCheckGrammar : Grammar BookCheck where
  switches := [("--strict", fun c => { c with strict := true })]
  options := [("--series", recordAs some fun series c => { c with series := some series })]
  operands := [recordFirst fun file c => { c with file := Path.parse file }]

def readValidateBook (args : List String) : Except Stop Command := do
  let c ← bookCheckGrammar.read args {}
  pure (.validateBook c.file c.series c.strict)

def rollGrammar : Grammar (Argument Int) where
  options := [("--count", recordAs parseWhole fun count _ => count)]

def readRoll (args : List String) : Except Stop Command := do
  pure (.roll (← rollGrammar.read args (.value 1)))

/-- What is given to a round of combat. -/
structure RoundGiven where
  playerSkill : Option (Argument Int) := none
  playerEndurance : Option (Argument Int) := none
  enemySkill : Option (Argument Int) := none
  enemyEndurance : Option (Argument Int) := none
  roll : Option (Argument Int) := none
  series : Option (Argument String) := none

def combatGrammar : Grammar RoundGiven where
  options := [
    ("--player-cs", recordAs parseWhole fun n r => { r with playerSkill := some n }),
    ("--player-end", recordAs parseWhole fun n r => { r with playerEndurance := some n }),
    ("--enemy-cs", recordAs parseWhole fun n r => { r with enemySkill := some n }),
    ("--enemy-end", recordAs parseWhole fun n r => { r with enemyEndurance := some n }),
    ("--roll", recordAs parseRoll fun n r => { r with roll := some n }),
    ("--series", recordAs some fun series r => { r with series := some series })]

def readCombat (args : List String) : Except Stop Command := do
  let r ← combatGrammar.read args {}
  let scores : Scores := {
    playerSkill := ← given r.playerSkill
    playerEndurance := ← given r.playerEndurance
    enemySkill := ← given r.enemySkill
    enemyEndurance := ← given r.enemyEndurance }
  pure (.combat scores r.roll r.series)

/-- What is given to a start. -/
structure StartGiven where
  bookId : String := ""
  slot : Argument String := .value "autosave"

def startGrammar : Grammar StartGiven where
  options := [("--slot", recordAs some fun slot s => { s with slot })]
  operands := [recordFirst fun bookId s => { s with bookId }]

def readStart (args : List String) : Except Stop Command := do
  let s ← startGrammar.read args {}
  pure (.start s.bookId s.slot)

/-- What is given to the taking of a choice. -/
structure ChoiceGiven where
  slot : String := ""
  choice : Argument Int := .emptyList
  roll : Option (Argument Int) := none
  outcome : Option (Argument Int) := none

def chooseGrammar : Grammar ChoiceGiven where
  options := [
    ("--roll", recordAs parseRoll fun n c => { c with roll := some n }),
    ("--outcome", recordAs parseWhole fun n c => { c with outcome := some n })]
  operands := [
    recordFirst fun slot c => { c with slot },
    recordAs parseWhole fun choice c => { c with choice }]

def readChoose (args : List String) : Except Stop Command := do
  let c ← chooseGrammar.read args {}
  pure (.choose c.slot c.choice c.roll c.outcome)

/-- The readers of commands under their names. -/
def commandReaders : List (String × (List String → Except Stop Command)) :=
  [("validate-series", readValidateSeries), ("validate-book", readValidateBook),
    ("roll", readRoll), ("combat", readCombat), ("start", readStart), ("choose", readChoose)]

/-- The command of a name with its arguments. -/
def readCommand (name : String) (args : List String) : Except Stop Command :=
  match commandReaders.lookup name with
  | some read => read args
  | none => .error .refused

/-- The options in front of a command. -/
def settingsGrammar : Grammar Settings where
  switches := [
    ("-v", fun s => { s with verbose := true }),
    ("--verbose", fun s => { s with verbose := true })]
  options := [
    ("--books-dir", recordAs parsePath fun p s => { s with booksDirectory := p }),
    ("--saves-dir", recordAs parsePath fun p s => { s with savesDirectory := p }),
    ("--seed", recordAs parseWhole fun n s => { s with seed := some n })]

/-- **Reads a command line.** -/
def Invocation.parse (args : List String) : Except Stop Invocation := do
  let (settings, command) ← settingsGrammar.readLead readCommand args {}
  pure { settings, command }

end Questbook.Cli
