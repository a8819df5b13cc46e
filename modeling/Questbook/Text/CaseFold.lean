import Questbook.Text.CaseFold.Table

set_option autoImplicit false

/-! # Full case folding

`fold` is the full case folding of Unicode: the form in which two names are the same name exactly
when they differ in case only. A folded text may be longer than the text, `ß` folds to `ss`.

Folding works character by character, so it distributes over concatenation (`foldChars_append`).
-/

namespace Questbook.Text

/-- The code points a code point above U+007F folds to. -/
def foldWide (n : Nat) : List Nat :=
  match foldExpansions.find? fun e => e.1 = n with
  | some e => e.2
  | none => [(imageIn? foldRuns n).getD n]

/-- The folding of a character. -/
def foldChar (c : Char) : List Char :=
  if c.toNat < 128 then [c.toLower] else (foldWide c.toNat).map Char.ofNat

/-- The folding of a text. -/
def foldChars (cs : List Char) : List Char :=
  cs.flatMap foldChar

/-- **The folding of a string.** -/
def fold (s : String) : String :=
  String.ofList (foldChars s.toList)

theorem foldChars_append (a b : List Char) : foldChars (a ++ b) = foldChars a ++ foldChars b :=
  List.flatMap_append

@[simp] theorem toList_fold (s : String) : (fold s).toList = foldChars s.toList := by
  simp [fold]

/-- The folding of two strings one after the other. -/
theorem fold_append (s t : String) : fold (s ++ t) = fold s ++ fold t := by
  simp [fold, foldChars_append, String.ofList_append]

end Questbook.Text
