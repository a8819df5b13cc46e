import Questbook.Text.Lowercase.Table

set_option autoImplicit false

/-! # Lower case

`lowercase` is the full lower-case mapping of Unicode. It differs from case folding: `ß` stays,
`İ` becomes `i` with a dot above, and the form of a capital sigma depends on where it stands. It
is the final `ς` when a letter with case comes before it and none comes after it, the characters
that case ignores being skipped; otherwise it is `σ`.
-/

namespace Questbook.Text

/-- Whether a letter with case comes first in the text once ignored characters are skipped. -/
def startsCased (cs : List Char) : Bool :=
  match cs.dropWhile fun c => inRanges caseIgnorableRanges c.toNat with
  | [] => false
  | c :: _ => inRanges casedRanges c.toNat

/-- The lower case of one character; `before` is the text before it, last character first, and
`after` the text after it. -/
def lowerCharAt (before : List Char) (c : Char) (after : List Char) : List Char :=
  if c.toNat < 128 then [c.toLower]
  else if c = 'Σ' then
    if startsCased before && !startsCased after then ['ς'] else ['σ']
  else if c = 'İ' then ['i', '\u0307']
  else [Char.ofNat ((imageIn? lowerRuns c.toNat).getD c.toNat)]

/-- The lower case of a text that follows `before` (given last character first). -/
def lowerCharsAfter (before : List Char) : List Char → List Char
  | [] => []
  | c :: cs => lowerCharAt before c cs ++ lowerCharsAfter (c :: before) cs

/-- The lower case of a text. -/
def lowerChars (cs : List Char) : List Char :=
  lowerCharsAfter [] cs

/-- **The lower case of a string.** -/
def lowercase (s : String) : String :=
  String.ofList (lowerChars s.toList)

@[simp] theorem lowerChars_nil : lowerChars [] = [] := rfl

theorem lowerCharAt_of_ascii {c : Char} (h : c.toNat < 128) (before after : List Char) :
    lowerCharAt before c after = [c.toLower] := by
  simp [lowerCharAt, h]

/-- On ASCII text lower case is taken letter by letter. -/
theorem lowerChars_of_ascii {cs : List Char} (h : ∀ c ∈ cs, c.toNat < 128) :
    lowerChars cs = cs.map Char.toLower := by
  have key : ∀ (cs before : List Char), (∀ c ∈ cs, c.toNat < 128) →
      lowerCharsAfter before cs = cs.map Char.toLower := by
    intro cs
    induction cs with
    | nil => intro _ _; rfl
    | cons c cs ih =>
      intro before h
      simp only [lowerCharsAfter, List.map_cons]
      rw [lowerCharAt_of_ascii (h c (by simp)), ih _ fun d hd => h d (by simp [hd])]
      rfl
  exact key cs [] h

end Questbook.Text
