import Questbook.Advice
import Questbook.Cli.Command
import Questbook.Game.Session

set_option autoImplicit false

/-! # Running commands

`run` carries out a command line on the files of a working directory. It tells what was printed, the
files afterwards, and the exit status, or the fault that ended the run; what was printed and written
before a fault stays. A command line that is not understood, or that asks for help, does nothing.

The standard output may be unable to encode a line, and then printing the line is a fault. What is
printed about errors has such characters escaped, so that it can always be printed.
-/

namespace Questbook.Cli

/-- **What a command works on:** the game, and the lines that have been printed. `takes` tells which
lines the standard output can encode. -/
structure Console where
  game : Game
  takes : String → Bool := fun _ => true
  out : List String := []
  err : List String := []

/-- Which lines an output in UTF-8 can encode. -/
def inUtf8 (line : String) : Bool := !Text.hasHalf line

/-- Prints a line, unless the output cannot encode it. -/
def printLine (s : String) : Play Console Unit :=
  .ofFunction fun c =>
    if c.takes s then (.ok (), { c with out := c.out ++ [s] }) else (.error .unencodable, c)

/-- Prints a line about an error. -/
def printError (s : String) : Play Console Unit :=
  modify fun c => { c with err := c.err ++ [s] }

/-- Prints lines. -/
def printLines : List String → Play Console Unit
  | [] => pure ()
  | s :: ss => do
    printLine s
    printLines ss

/-- A computation of the game. -/
def onGame {α : Type} (p : Play Game α) : Play Console α :=
  .onPart Console.game (fun c game => { c with game }) p

/-- A computation of a session that starts in a state; its last state is part of the answer. -/
def inSession {α : Type} (state : GameState) (p : Play Session α) :
    Play Console (α × GameState) :=
  .ofFunction fun c =>
    let (r, s) := p.result { game := c.game, state }
    (r.map fun a => (a, s.state), { c with game := s.game })

/-- Goes on with what a computation gives, or prints an expected fault and ends with status 2. -/
def orReport {α : Type} (isExpected : Fault → Bool) (report : Fault → String) (p : Play Console α)
    (next : α → Play Console Nat) : Play Console Nat := do
  let c ← get
  match p.result c with
  | (.ok a, c) => do
    set c
    next a
  | (.error f, c) => do
    set c
    if isExpected f then do
      printError ("Error: " ++ report f)
      pure 2
    else .ofExcept (.error f)

/-- The message of a fault, or nothing. -/
def messageOf (f : Fault) : String := f.message?.getD ""

/-- Whether the fault is that a book cannot be found or is damaged. -/
def isBookFault (f : Fault) : Bool :=
  f.category = .fileNotFound || f.category = .bookFormat

/-- Whether the fault is that a saved game is damaged. -/
def isSaveFault (f : Fault) : Bool := f.category = .saveFormat

/-! ## Checks -/

/-- What is wrong with the resources of a key. -/
def resourceProblems (files : FileTree) (key : Json) : Except Fault (List String) := do
  let series ← Series.keyOfJson key
  let table ← Series.loadTable files series
  let catalog ← Series.loadCatalog files series
  let problems ← table.problems
  let bare := if catalog.rules.isEmpty then ["Rule catalog has no rules."] else []
  let warnings ← (← catalog.warnings).mapM Warning.text
  pure (problems ++ bare ++ warnings)

/-- Problems with the key in front. -/
def labelled (label : String) (problems : List String) : List String :=
  problems.map fun p => label ++ ": " ++ p

/-- **Checks the resources of keys,** and lists what is wrong. Each key without problems is
reported. -/
def checkSeries : List Json → Play Console (List String)
  | [] => pure []
  | key :: keys => do
    let problems ← .ofExcept (resourceProblems (← get).game.files key)
    let label ← .ofExcept key.text
    if problems.isEmpty then
      printLine (label ++ ": validation passed.")
    let rest ← checkSeries keys
    pure (labelled label problems ++ rest)

/-- The keys of the built-in series. -/
def builtInKeys : List String := ["lw", "gs", "fw"]

def validateSeries : Play Console Nat := do
  let failures ← checkSeries (builtInKeys.map .str)
  if failures.isEmpty then do
    printLine "All series validations completed successfully."
    pure 0
  else do
    printError "Series validation failures:"
    failures.forM fun f => printError ("- " ++ f)
    pure 1

/-- The text about a book file that cannot be used. -/
def bookFileReport (file : Path) (f : Fault) : String :=
  match f with
  | .fileNotFound =>
    "[Errno 2] No such file or directory: " ++ String.ofList (Text.quoted file.text.toList)
  | f => messageOf f

/-- An argument that may be missing as a JSON value. -/
def optional {α : Type} (make : α → Json) : Option (Argument α) → Json
  | some a => a.toJson make
  | none => .null

/-- The key of the catalog for a book: the one that is asked for, or else that of its series. -/
def catalogKey (asked : Option (Argument String)) (book : Book) : Json :=
  (optional .str asked).orElse book.series

/-- The warnings about a book, by the catalog of a key. -/
def bookWarnings (asked : Option (Argument String)) (book : Book) : Play Console (List String) := do
  let files := (← get).game.files
  .ofExcept do
    let catalog ← Series.loadCatalog files (← Series.keyOfJson (catalogKey asked book))
    (← book.warnings catalog).mapM Warning.text

def validateBook (file : Path) (asked : Option (Argument String)) (strict : Bool) :
    Play Console Nat :=
  orReport isBookFault (bookFileReport file)
    (do
      let files := (← get).game.files
      .ofExcept (loadBook files file))
    fun book => do
      let warnings ← bookWarnings asked book
      printLines warnings
      if warnings.isEmpty then do
        let label ← .ofExcept (book.id.orElse (.str file.text)).text
        printLine (label ++ ": no rule metadata warnings.")
        pure 0
      else pure (if strict then 1 else 0)

/-! ## Rolls and rounds -/

/-- Rolls a number of times. -/
def rollTimes : Nat → Play Console (List String)
  | 0 => pure []
  | n + 1 => do
    let r ← onGame (Game.withEngine fun _ => Engine.roll)
    let text ← .ofExcept r.text
    let rest ← rollTimes n
    pure (text :: rest)

def rollCommand (count : Argument Int) : Play Console Nat := do
  let count ← .ofExcept count.needed
  let rolls ← rollTimes count.toNat
  printLine (" ".intercalate rolls)
  pure 0

/-- The round that scores state. The table is loaded before the scores are looked at. -/
def Scores.fight (s : Scores) (newId : String) (roll series : Json) (files : FileTree) :
    Play Engine RoundResult :=
  match s.playerSkill, s.playerEndurance with
  | .value combatSkill, .value endurance =>
    let player : Character := { id := .str newId, name := .str "Player", combatSkill, endurance }
    Engine.fight files player (s.enemySkill.toJson .int) (s.enemyEndurance.toJson .int) roll series
  | _, _ => do
    let _ ← Engine.tableOf files (← .ofExcept (Series.keyOfJson series))
    .ofExcept (.error .noValue)

def combat (scores : Scores) (roll : Option (Argument Int)) (series : Option (Argument String)) :
    Play Console Nat := do
  let newId := (← get).game.newId
  let roll ← onGame (Game.withEngine fun _ => Engine.rollUnless (optional .int roll))
  let result ← onGame (Game.withEngine (scores.fight newId roll (optional .str series)))
  let line ← .ofExcept do
    pure ("Roll " ++ (← roll.text) ++ ": " ++ (← result.describe))
  printLine line
  pure 0

/-! ## Playing -/

/-- The line of a choice, counted from one; those that may not be taken are marked. -/
def choiceLine (available : List Nat) (place : Nat) (choice : Choice) : Except Fault String := do
  let mark := if place ∈ available then " " else "x"
  pure (" [" ++ mark ++ "] " ++ toString (place + 1) ++ ". " ++ (← choice.text.text) ++ " -> " ++
    (← choice.target.text))

/-- Prints texts of documents. -/
def printTexts : List (Except Fault String) → Play Console Unit
  | [] => pure ()
  | t :: ts => do
    printLine (← .ofExcept t)
    printTexts ts

/-- **Shows the section that a state is in,** with its choices. -/
def showSection (state : GameState) : Play Console Unit := do
  match ← onGame (Game.currentSection state) with
  | none => do
    let id ← .ofExcept state.sectionId.text
    printLine ("Section " ++ id ++ " not found.")
  | some s => do
    let title ← .ofExcept (s.title.orElse (.str s.id)).text
    printLine ("== " ++ title ++ " ==")
    printTexts (s.blocks.map fun b => b.text.text)
    let available ← onGame (Game.available state s)
    printTexts (s.choices.zipIdx.map fun c => choiceLine available c.2 c.1)

/-- Saves the game and shows the section that it is in. -/
def saveAndShow (slot : Json) (state : GameState) : Play Console Nat := do
  let _ ← onGame (Game.save slot state)
  showSection state
  pure 0

def start (bookId : String) (slot : Argument String) : Play Console Nat :=
  orReport isBookFault messageOf (onGame (Game.start (.str bookId) {}))
    (saveAndShow (slot.toJson .str))

/-- The element of a list at a place counted from one. -/
def nth? {α : Type} (xs : List α) (n : Int) : Option α :=
  if 1 ≤ n then xs[n.toNat - 1]? else none

/-- The choice at a place of a section, if there is one. Without a section no place is asked for. -/
def choiceAt? (s : Option Section) (place : Argument Int) : Except Fault (Option Choice) :=
  match s with
  | none => .ok none
  | some s => do pure (nth? s.choices (← place.needed))

/-- The line of an outcome to pick, counted from one. -/
def candidateLine (choice : Choice) (place : Nat) (o : RandomOutcome) : Except Fault String := do
  let target ← targetOf choice (some o)
  pure (" " ++ toString (place + 1) ++ ". " ++ (← Numeral.decimalText o.min) ++ "-" ++
    (← Numeral.decimalText o.max) ++ " -> " ++ (← target.text))

/-- Tells the player why a choice was not applied. -/
def explain (choice : Choice) (result : ChoiceResult) : Play Console Nat := do
  let message ← .ofExcept result.message
  printLine message
  match result with
  | .undecided _ candidates => do
    printTexts (candidates.zipIdx.map fun o => candidateLine choice o.2 o.1)
    printLine "Repeat with --roll and --outcome to pick one."
  | _ => pure ()
  pure 1

/-- Ends the taking of a choice: saves what was applied, or tells why nothing was. -/
def conclude (slot : Json) (choice : Choice) (result : ChoiceResult) (state : GameState) :
    Play Console Nat :=
  if result.isApplied then saveAndShow slot state else explain choice result

/-- Takes a choice, and once more with the outcome that was picked, if several match the roll. -/
def takeChoice (slot : Json) (choice : Choice) (roll outcome : Option (Argument Int))
    (state : GameState) : Play Console Nat := do
  let (result, state) ← inSession state (Session.applyChoice choice (optional .int roll) none)
  match result, outcome with
  | .undecided r candidates, some place => do
    let n ← .ofExcept place.needed
    match nth? candidates n with
    | none => do
      let rolled ← .ofExcept r.text
      let asked ← .ofExcept (Numeral.decimalText n)
      printError ("Error: no outcome " ++ asked ++ " for roll " ++ rolled)
      pure 2
    | some picked => do
      -- the roll is kept for the second try, so that the same outcomes match
      let (result, state) ← inSession state (Session.applyChoice choice r (some picked))
      conclude slot choice result state
  | result, _ => conclude slot choice result state

def choose (slot : String) (choice : Argument Int) (roll outcome : Option (Argument Int)) :
    Play Console Nat :=
  orReport isSaveFault messageOf (onGame (Game.load (.str slot))) fun loaded =>
    match loaded with
    | none => do
      printError ("Error: no saved game in slot '" ++ slot ++ "'")
      pure 2
    | some state => do
      let s ← onGame (Game.currentSection state)
      match ← .ofExcept (choiceAt? s choice) with
      | none => do
        let asked ← .ofExcept (choice.toJson .int).text
        printError ("Error: no choice " ++ asked ++ " in the current section")
        pure 2
      | some c => takeChoice (.str slot) c roll outcome state

/-! ## Runs -/

/-- **Carries out a command.** -/
def Command.execute : Command → Play Console Nat
  | .validateSeries => Cli.validateSeries
  | .validateBook file key strict => Cli.validateBook file key strict
  | .roll count => rollCommand count
  | .combat scores given key => Cli.combat scores given key
  | .start bookId slot => Cli.start bookId slot
  | .choose slot choice given outcome => Cli.choose slot choice given outcome

/-- Checks that the settings that a command makes use of have values. -/
def Invocation.checkSettings (i : Invocation) : Except Fault Unit := do
  let checkSeed := i.settings.seed.forM fun s => do
    let _ ← s.needed
  match i.command with
  | .validateSeries | .validateBook _ _ _ => pure ()
  | .roll _ | .combat _ _ _ => checkSeed
  | .start _ _ | .choose _ _ _ _ => do
    let _ ← i.settings.booksDirectory.needed
    let _ ← i.settings.savesDirectory.needed
    checkSeed

/-- The game of a run with some settings. `spareSeed` is used when none is set. -/
def Settings.game (settings : Settings) (files : FileTree) (newId : String) (spareSeed : Int) :
    Game where
  files
  shelf := { directory := settings.booksDirectory.getD {} }
  slots := { directory := settings.savesDirectory.getD {} }
  engine := { source := .ofSeed ((settings.seed.map fun s => s.getD spareSeed).getD spareSeed) }
  newId

/-- Carries out a command with its settings. -/
def Invocation.execute (i : Invocation) : Play Console Nat := do
  .ofExcept i.checkSettings
  i.command.execute

/-- **Runs a command line.** A character without an id takes `newId`; rolls come from `spareSeed`
unless a seed is set. `takes` tells which lines the standard output can encode. -/
def run (files : FileTree) (newId : String) (spareSeed : Int) (takes : String → Bool)
    (args : List String) : Except Stop (Except Fault Nat × Console) :=
  (Invocation.parse args).map fun i =>
    i.execute.result { game := i.settings.game files newId spareSeed, takes }

end Questbook.Cli
