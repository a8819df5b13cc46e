import Questbook.Cli.Run

set_option autoImplicit false

/-! # The program

Reads the working directory and the other directories that the command line names, runs the command
line on their files, prints what the run printed, and writes back the files that the run changed. What
a run does is decided by `Questbook.Cli.run`.
-/

namespace Questbook.Cli

/-! ## Files -/

/-- The place that the text of a path with a root leads to. -/
def placeOf (path : String) : List String :=
  (Path.parse (Text.ofCharacters path)).parts

/-- The text of the path to a place. -/
def textOfPlace (place : List String) : String :=
  "/" ++ "/".intercalate (place.map Text.characters)

/-- Reads what is below the entries of a directory at a place, to a depth. -/
def readEntries : (depth : Nat) → List String → Array IO.FS.DirEntry →
    IO (List (List String × FileNode))
  | 0, _, _ => pure []
  | depth + 1, place, entries => do
    let mut nodes := []
    for e in entries do
      let here := place ++ [Text.ofCharacters e.fileName]
      if ← e.path.isDir then
        nodes := nodes ++ (here, .directory) :: (← readEntries depth here (← e.path.readDir))
      else
        nodes := nodes ++ [(here, .file (← IO.FS.readBinFile e.path))]
    pure nodes

/-- How deep directories are read. -/
def readDepth : Nat := 64

/-- Reads a directory, and notes the directories above it. What is missing is not read. -/
def readDirectory (path : Path) : IO (List (List String × FileNode)) :=
  try
    let directory ← IO.FS.realPath (Text.characters path.text)
    let place := placeOf directory.toString
    let above := (List.range (place.length + 1)).map fun n => (place.take n, FileNode.directory)
    pure (above ++ (← readEntries readDepth place (← directory.readDir)))
  catch _ => pure []

/-- The directories that an invocation names. -/
def Invocation.directories (i : Invocation) : List Path :=
  let given := [i.settings.booksDirectory.getD {}, i.settings.savesDirectory.getD {}]
  match i.command with
  | .validateBook file _ _ => { file with parts := file.parts.dropLast } :: given
  | _ => given

/-- Reads the working directory, and others. -/
def readFiles (directories : List Path) : IO FileTree := do
  let home := placeOf (← IO.currentDir).toString
  let nodes ← ({} :: directories).mapM readDirectory
  pure { home, nodes := nodes.flatten }

/-- Writes the places of a tree that differ from an earlier one. -/
def writeFiles (earlier files : FileTree) : IO Unit := do
  for (place, node) in files.nodes do
    if earlier.node? place ≠ some node then
      match node with
      | .directory => IO.FS.createDirAll (textOfPlace place)
      | .file bytes => IO.FS.writeBinFile (textOfPlace place) bytes

/-! ## Random values -/

/-- The hexadecimal digits of bytes. -/
def hexText (bytes : List UInt8) : String :=
  String.ofList (bytes.flatMap fun b => Text.hexDigits 2 b.toNat)

/-- An id of random digits, in groups. -/
def randomId : IO String := do
  let bytes := (← IO.getRandomBytes 16).toList
  let group (start count : Nat) := hexText ((bytes.drop start).take count)
  pure ("-".intercalate [group 0 4, group 4 2, group 6 2, group 8 2, group 10 6])

/-- A random seed. -/
def randomSeed : IO Int := do
  let bytes := (← IO.getRandomBytes 8).toList
  pure (bytes.foldl (fun n b => 256 * n + b.toNat) 0 : Nat)

/-! ## Output -/

/-- What the program says to a call for help, and about a command line that it does not
understand. -/
def usage : String :=
  "usage: questbook [--books-dir DIR] [--saves-dir DIR] [--seed N] [-v] COMMAND ...\n" ++
  "commands: validate-series, validate-book, roll, combat, start, choose\n"

/-- A line about an error, in which unpaired halves are escaped. -/
def errorLine (line : String) : String :=
  String.ofList ((Text.points line.toList).flatMap fun n =>
    if Text.isHalfUnit n then '\\' :: 'u' :: Text.hexDigits 4 n else [Char.ofNat n])

/-- Prints what a run printed, and gives its exit status. A fault is an error. -/
def report (result : Except Fault Nat) (console : Console) : IO UInt32 := do
  for line in console.out do
    (← IO.getStdout).putStrLn (Text.characters line)
  for line in console.err do
    (← IO.getStderr).putStrLn (errorLine line)
  match result with
  | .ok status => pure (UInt32.ofNat status)
  | .error f => do
    (← IO.getStderr).putStrLn
      ("Error: " ++ errorLine (f.message?.getD "a file or a document cannot be used"))
    pure 1

/-- Runs a command line on the files of the working directory and of those that it names. -/
def runHere (args : List String) : IO UInt32 := do
  let directories := ((Invocation.parse args).map Invocation.directories).toOption.getD []
  let files ← readFiles directories
  match run files (← randomId) (← randomSeed) inUtf8 args with
  | .error stop => do
    (← if stop = .help then IO.getStdout else IO.getStderr).putStr usage
    pure (UInt32.ofNat stop.status)
  | .ok (result, console) => do
    writeFiles files console.game.files
    report result console

end Questbook.Cli

/-- Runs a command line. -/
def main (args : List String) : IO UInt32 :=
  Questbook.Cli.runHere (args.map Questbook.Text.ofCharacters)
