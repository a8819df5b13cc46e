import Questbook.Text.Blank

set_option autoImplicit false

/-! # Cutting texts at separators

`cutAt` cuts a text at the first place where a character stands, `splitAt` at every such place,
and `splitAtLeast` at every `>=`. The separators are dropped, and joining the pieces with the
separator gives the text back (`joinWith_splitAt`, `joinWith_splitAtLeast`).
-/

namespace Questbook.Text

/-- The text before the first `sep`, and the text after it when there is one. -/
def cutAt (sep : Char) : List Char → List Char × Option (List Char)
  | [] => ([], none)
  | c :: cs =>
    if c = sep then ([], some cs)
    else
      let r := cutAt sep cs
      (c :: r.1, r.2)

/-- The pieces of a text between the occurrences of `sep`. There is always at least one. -/
def splitAt (sep : Char) : List Char → List (List Char)
  | [] => [[]]
  | c :: cs =>
    if c = sep then [] :: splitAt sep cs
    else
      match splitAt sep cs with
      | [] => [[c]]
      | p :: ps => (c :: p) :: ps

/-- The pieces of a text between the occurrences of `>=`, looked for from the left. -/
def splitAtLeast : List Char → List (List Char)
  | '>' :: '=' :: cs => [] :: splitAtLeast cs
  | [] => [[]]
  | c :: cs =>
    match splitAtLeast cs with
    | [] => [[c]]
    | p :: ps => (c :: p) :: ps

/-- The pieces written one after the other with the separator between them. -/
def joinWith (sep : List Char) : List (List Char) → List Char
  | [] => []
  | [p] => p
  | p :: q :: ps => p ++ sep ++ joinWith sep (q :: ps)

theorem splitAt_ne_nil (sep : Char) (cs : List Char) : splitAt sep cs ≠ [] := by
  cases cs with
  | nil => simp [splitAt]
  | cons c cs =>
    unfold splitAt
    split
    · simp
    · split <;> simp

theorem joinWith_splitAt (sep : Char) (cs : List Char) :
    joinWith [sep] (splitAt sep cs) = cs := by
  induction cs with
  | nil => rfl
  | cons c cs ih =>
    unfold splitAt
    split
    · next h =>
      subst h
      cases hs : splitAt c cs with
      | nil => exact absurd hs (splitAt_ne_nil c cs)
      | cons p ps => rw [hs] at ih; simp [joinWith, ih]
    · cases hs : splitAt sep cs with
      | nil => exact absurd hs (splitAt_ne_nil sep cs)
      | cons p ps =>
        rw [hs] at ih
        cases ps with
        | nil => simpa [joinWith] using ih
        | cons q ps => simpa [joinWith] using ih

theorem splitAtLeast_ne_nil (cs : List Char) : splitAtLeast cs ≠ [] := by
  fun_induction splitAtLeast cs <;> simp

theorem joinWith_splitAtLeast (cs : List Char) :
    joinWith ['>', '='] (splitAtLeast cs) = cs := by
  fun_induction splitAtLeast cs with
  | case1 cs ih =>
    cases hs : splitAtLeast cs with
    | nil => exact absurd hs (splitAtLeast_ne_nil cs)
    | cons p ps => rw [hs] at ih; simp [joinWith, ih]
  | case2 => rfl
  | case3 c cs _ hs _ => exact absurd hs (splitAtLeast_ne_nil cs)
  | case4 c cs _ p ps hs ih =>
    rw [hs] at ih
    cases ps with
    | nil => simpa [joinWith] using ih
    | cons q ps => simpa [joinWith] using ih

/-- A piece of a cut text holds no separator. -/
theorem notMem_cutAt_fst (sep : Char) (cs : List Char) : sep ∉ (cutAt sep cs).1 := by
  induction cs with
  | nil => simp [cutAt]
  | cons c cs ih =>
    unfold cutAt
    split
    · simp
    · next h => simp [ih, Ne.symm h]

end Questbook.Text
