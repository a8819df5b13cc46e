import Questbook.Text.Cut
import Questbook.Text.Half

set_option autoImplicit false

/-! # Paths

A path is a root, which is empty for a relative path, and the components below it. Reading a path
drops empty components and single dots; `..` is kept, for what it means depends on the files. A path
is shown with its components separated by slashes, and the path without components as a dot.
-/

namespace Questbook

/-- **A path.** -/
structure Path where
  root : String := ""
  parts : List String := []
  deriving DecidableEq, Repr

namespace Path

/-- The root that a path's slashes in front mean: two of them are kept, any other number is one. -/
def rootOf : List Char → String
  | '/' :: '/' :: '/' :: _ => "/"
  | '/' :: '/' :: _ => "//"
  | '/' :: _ => "/"
  | _ => ""

/-- Whether a component counts. -/
def isPart (part : List Char) : Bool :=
  part ≠ [] && part ≠ ['.']

/-- The components of a text. -/
def partsOf (cs : List Char) : List String :=
  ((Text.splitAt '/' cs).filter isPart).map String.ofList

/-- **Reads a path.** -/
def parse (s : String) : Path :=
  { root := rootOf s.toList, parts := partsOf s.toList }

/-- The path of something in a directory. A path with a root of its own stays as it is. -/
def join (dir : Path) (s : String) : Path :=
  let p := parse s
  if p.root = "" then { dir with parts := dir.parts ++ p.parts } else p

/-- The text of a path. -/
def text (p : Path) : String :=
  if p.root = "" ∧ p.parts = [] then "." else p.root ++ "/".intercalate p.parts

/-- Whether all components can be names of files as far as their encoding is concerned. -/
def isEncodable (p : Path) : Bool := p.parts.all Text.isEncodableName

/-- Whether the path holds the NUL character. -/
def hasNul (p : Path) : Bool :=
  p.parts.any fun part => part.toList.contains '\x00'

end Path

end Questbook
