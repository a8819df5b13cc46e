import Questbook.Fault
import Questbook.Files.Name
import Questbook.Files.Path

set_option autoImplicit false

/-! # Files

A `FileTree` is what a file system holds: files with their bytes, and directories. Every place is the
list of names that leads there from the root. One of the directories is the working directory, from
which paths without a root are followed (`FileTree.startOf`). A path is followed from component to
component, `..` going up; above the root there is nothing, and going up from there stays there.

The laws of reading and writing are stated through `node?`, what stands at a place of the tree.
-/

namespace Questbook

/-- What stands at a place. -/
inductive FileNode
  | file (bytes : ByteArray)
  | directory

/-- Files are compared by their bytes. -/
instance : DecidableEq FileNode
  | .file a, .file b =>
    if h : a.data = b.data then .isTrue (congrArg FileNode.file (ByteArray.ext h))
    else .isFalse fun hab => h (congrArg ByteArray.data (FileNode.file.inj hab))
  | .directory, .directory => .isTrue rfl
  | .file _, .directory => .isFalse nofun
  | .directory, .file _ => .isFalse nofun

/-- **Files and directories,** each with its place. `home` is the place of the working directory, which
is there together with all directories above it. -/
structure FileTree where
  home : List String := []
  nodes : List (List String × FileNode) := []

instance : Inhabited FileTree := ⟨{}⟩

namespace FileTree

/-- What a list of places has at a place. -/
def nodeIn? (place : List String) : List (List String × FileNode) → Option FileNode
  | [] => none
  | n :: ns => if n.1 = place then some n.2 else nodeIn? place ns

/-- The places with something new at one of them. -/
def putNode (place : List String) (node : FileNode) :
    List (List String × FileNode) → List (List String × FileNode)
  | [] => [(place, node)]
  | n :: ns => if n.1 = place then (place, node) :: ns else n :: putNode place node ns

/-- **What stands at a place.** The working directory and what is above it are directories. -/
def node? (t : FileTree) (place : List String) : Option FileNode :=
  if place <+: t.home then some .directory else nodeIn? place t.nodes

/-- The tree with something new at a place. -/
def put (t : FileTree) (place : List String) (node : FileNode) : FileTree :=
  { t with nodes := putNode place node t.nodes }

/-- The tree with nothing at a place. -/
def drop (t : FileTree) (place : List String) : FileTree :=
  { t with nodes := t.nodes.filter fun n => n.1 ≠ place }

theorem nodeIn?_putNode (place place' : List String) (node : FileNode)
    (ns : List (List String × FileNode)) :
    nodeIn? place' (putNode place node ns) =
      if place' = place then some node else nodeIn? place' ns := by
  induction ns with
  | nil =>
    by_cases h : place' = place
    · simp [putNode, nodeIn?, h]
    · have : ¬ place = place' := fun x => h x.symm
      simp [putNode, nodeIn?, h, this]
  | cons n ns ih =>
    by_cases h : n.1 = place
    · by_cases h' : place' = place
      · simp [putNode, nodeIn?, h, h']
      · have : ¬ place = place' := fun x => h' x.symm
        simp [putNode, nodeIn?, h, h', this]
    · by_cases h' : n.1 = place'
      · have : ¬ place' = place := fun x => h (h'.trans x)
        simp [putNode, nodeIn?, h', this]
      · simp [putNode, nodeIn?, h, h', ih]

/-- What is put at a place stands there, and all other places are as before. -/
theorem node?_put {t : FileTree} {place : List String} (h : t.node? place ≠ some .directory)
    (node : FileNode) (place' : List String) :
    (t.put place node).node? place' = if place' = place then some node else t.node? place' := by
  have hbelow : ¬ place <+: t.home := fun habove => h (if_pos habove)
  unfold node? put
  by_cases habove : place' <+: t.home
  · have hne : place' ≠ place := fun heq => hbelow (heq ▸ habove)
    rw [if_pos habove, if_neg hne, if_pos habove]
  · rw [if_neg habove, if_neg habove, nodeIn?_putNode]

/-! ## Following paths -/

/-- Goes from a place along components. Every place that is passed has to be a directory. -/
def walk (t : FileTree) (place : List String) : List String → Except Fault (List String)
  | [] => .ok place
  | part :: parts =>
    match t.node? place with
    | some .directory =>
      if part = ".." then walk t place.dropLast parts else walk t (place ++ [part]) parts
    | some (.file _) => .error .notDirectory
    | none => .error .fileNotFound

/-- Where the following of a path starts: at the root if it has one, or else in the working
directory. -/
def startOf (t : FileTree) (p : Path) : List String :=
  if p.root = "" then t.home else []

/-- The place that a path leads to, whether or not something stands there. -/
def resolve (t : FileTree) (p : Path) : Except Fault (List String) :=
  if !p.isEncodable then .error .unencodable
  else if p.hasNul then .error .nulInPath
  -- what a file is called may differ from how it is spelled in the path
  else t.walk (t.startOf p) (p.parts.map Text.diskName)

/-- What a path leads to. -/
def stat (t : FileTree) (p : Path) : Except Fault FileNode := do
  match t.node? (← t.resolve p) with
  | some n => pure n
  | none => .error .fileNotFound

/-- Whether a path leads to anything. -/
def pathExists (t : FileTree) (p : Path) : Bool :=
  (t.stat p).toBool

/-- Whether a path leads to a file. -/
def isFile (t : FileTree) (p : Path) : Bool :=
  match t.stat p with
  | .ok (.file _) => true
  | _ => false

/-- Whether a path leads to a directory. -/
def isDirectory (t : FileTree) (p : Path) : Bool :=
  match t.stat p with
  | .ok .directory => true
  | _ => false

/-! ## Reading and writing -/

/-- **The bytes of a file.** -/
def read (t : FileTree) (p : Path) : Except Fault ByteArray := do
  match ← t.stat p with
  | .file bytes => pure bytes
  | .directory => .error .isDirectory

/-- **The tree with a file written.** Its directory has to exist. -/
def write (t : FileTree) (p : Path) (bytes : ByteArray) : Except Fault FileTree := do
  let place ← t.resolve p
  match t.node? place with
  | some .directory => .error .isDirectory
  | _ => pure (t.put place (.file bytes))

/-- The tree without a file. -/
def remove (t : FileTree) (p : Path) : Except Fault FileTree := do
  let place ← t.resolve p
  match t.node? place with
  | some (.file _) => pure (t.drop place)
  | some .directory => .error .isDirectory
  | none => .error .fileNotFound

/-- The tree with a new directory, in a directory that exists. -/
def makeDirectory (t : FileTree) (p : Path) : Except Fault FileTree := do
  let place ← t.resolve p
  match t.node? place with
  | some _ => .error .fileExists
  | none => pure (t.put place .directory)

/-- What becomes of a directory that could not be made: nothing is wrong if it is there. -/
def settleDirectory (t : FileTree) (p : Path) : Except Fault FileTree → Except Fault FileTree
  | .ok t => .ok t
  | .error f => if t.isDirectory p then .ok t else .error f

/-- The tree with a directory, whose components are given last first, and all those above it. -/
def ensureParts (t : FileTree) (root : String) : List String → Except Fault FileTree
  | [] => .ok t
  | part :: parts =>
    let p : Path := { root, parts := (part :: parts).reverse }
    match t.makeDirectory p with
    | .error .fileNotFound => do
      -- the directory above is missing and is made first
      let t ← t.ensureParts root parts
      t.settleDirectory p (t.makeDirectory p)
    | r => t.settleDirectory p r

/-- **The tree with a directory** and all those above it, made if they are not there. -/
def ensureDirectory (t : FileTree) (p : Path) : Except Fault FileTree :=
  t.ensureParts p.root p.parts.reverse

/-- The name under which the way to the working directory goes on from a place, if it does. -/
def wayHome? (t : FileTree) (place : List String) : Option String :=
  if place <+: t.home then t.home[place.length]? else none

/-- The names in a directory. -/
def namesIn (t : FileTree) (place : List String) : List String :=
  (t.wayHome? place).toList ++
    t.nodes.filterMap fun n => if n.1.dropLast = place then n.1.getLast? else none

/-- What the names of documents end in. -/
def documentEnd : String := ".json"

/-- The name without the ending of documents, unless it has no other part. -/
def stem (name : String) : String :=
  let cs := name.toList
  let n := cs.length - documentEnd.length
  if n = 0 then name else String.ofList (cs.take n)

/-- **The stems of the documents in a directory,** sorted. What is no directory has none. -/
def documents (t : FileTree) (p : Path) : List String :=
  match t.resolve p with
  | .ok place =>
    if t.node? place = some .directory then
      let names := (t.namesIn place).filter fun n =>
        documentEnd.toList.isSuffixOf n.toList
      (names.map stem).mergeSort Text.nameLe
    else []
  | .error _ => []

end FileTree

end Questbook
