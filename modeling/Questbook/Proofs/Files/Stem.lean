import Questbook.Files.Path
import Questbook.Proofs.Text.Cut

set_option autoImplicit false

/-! # Directories and stems

A path is a name in a directory (`Path.name`, `Path.parent`), and a name is a stem with an ending from
the last dot on (`Path.stem`). What stands in front of that dot may hold further dots, and it may
consist of dots only (`Text.withoutEnding_append`).
-/

namespace Questbook

/-- **A name without its ending,** which starts at the last dot. A dot at either end of the name begins
no ending. -/
def Text.withoutEnding (name : String) : String :=
  match Text.cutAt '.' name.toList.reverse with
  | (_ :: _, some (c :: front)) => String.ofList (c :: front).reverse
  | _ => name

/-- **An ending is taken off again,** whatever it was put to. -/
theorem Text.withoutEnding_append {stem ending : List Char} (hstem : stem ≠ [])
    (hending : ending ≠ []) (hdot : '.' ∉ ending) :
    Text.withoutEnding (String.ofList (stem ++ '.' :: ending)) = String.ofList stem := by
  have hcut : Text.cutAt '.' (stem ++ '.' :: ending).reverse =
      (ending.reverse, some stem.reverse) := by
    rw [List.reverse_append, List.reverse_cons, List.append_assoc]
    exact Text.cutAt_append (mt List.mem_reverse.mp hdot) _
  obtain ⟨d, behind, hbehind⟩ :=
    List.exists_cons_of_ne_nil (mt List.reverse_eq_nil_iff.mp hending)
  obtain ⟨c, front, hfront⟩ := List.exists_cons_of_ne_nil (mt List.reverse_eq_nil_iff.mp hstem)
  unfold Text.withoutEnding
  rw [String.toList_ofList, hcut, hbehind, hfront]
  show String.ofList (c :: front).reverse = _
  rw [← hfront, List.reverse_reverse]

namespace Path

/-- The path without its last component. A path without components stays as it is. -/
def parent (p : Path) : Path := { p with parts := p.parts.dropLast }

/-- The last component of a path, if it has one. -/
def name (p : Path) : String := p.parts.getLast?.getD ""

/-- **The stem of a path:** its name without the ending. -/
def stem (p : Path) : String := Text.withoutEnding p.name

/-- **Whether a path leads right into a directory,** and not to the directory itself. -/
structure IsChildOf (p dir : Path) : Prop where
  parent : p.parent = dir
  ne : p ≠ dir

variable (dir : Path) (part : String)

theorem parent_child : parent { dir with parts := dir.parts ++ [part] } = dir := by
  unfold parent
  rw [List.dropLast_concat]

theorem name_child : name { dir with parts := dir.parts ++ [part] } = part := by
  unfold name
  rw [List.getLast?_concat]
  rfl

theorem isChildOf_child : IsChildOf { dir with parts := dir.parts ++ [part] } dir := by
  refine ⟨parent_child dir part, fun heq => ?_⟩
  have hparts := congrArg (fun p : Path => p.parts.length) heq
  simp at hparts

end Path

end Questbook
