import Questbook.Text.LetterRun

set_option autoImplicit false

/-! # Blank characters and trimming

The **blank characters** are the twenty-nine that separate words in any script: the ASCII
controls U+0009–000D and U+001C–001F, the space, U+0085, the no-break spaces, and the spaces and
separators of the Unicode blocks. The zero-width space and the byte-order mark are not blank.

`trimChars` takes the blank characters off both ends of a text. Main facts: what is trimmed
neither starts nor ends blank, trimming twice is trimming once, and a text is blank exactly when
nothing is left of it (`trimChars_eq_nil_iff`).
-/

namespace Questbook.Text

/-- The ranges of blank code points. -/
def blankRanges : List (Nat × Nat) :=
  [(0x9, 0xD), (0x1C, 0x20), (0x85, 0x85), (0xA0, 0xA0), (0x1680, 0x1680), (0x2000, 0x200A),
   (0x2028, 0x2029), (0x202F, 0x202F), (0x205F, 0x205F), (0x3000, 0x3000)]

/-- Whether the character is blank. -/
def isBlankChar (c : Char) : Bool :=
  inRanges blankRanges c.toNat

/-- The text without the blank characters at its end. -/
def trimEndChars (cs : List Char) : List Char :=
  (cs.reverse.dropWhile isBlankChar).reverse

/-- The text without the blank characters at its two ends. -/
def trimChars (cs : List Char) : List Char :=
  trimEndChars (cs.dropWhile isBlankChar)

/-- The string without the blank characters at its two ends. -/
def trim (s : String) : String :=
  String.ofList (trimChars s.toList)

/-- Whether a string has blank characters only. The empty string is blank. -/
def isBlank (s : String) : Bool :=
  s.toList.all isBlankChar

theorem trimEndChars_nil : trimEndChars [] = [] := rfl

theorem dropWhile_all {p : Char → Bool} {cs : List Char} (h : cs.all p = true) :
    cs.dropWhile p = [] := by
  induction cs with
  | nil => rfl
  | cons c cs ih => simp_all

theorem trimEndChars_eq_nil_iff {cs : List Char} :
    trimEndChars cs = [] ↔ cs.all isBlankChar = true := by
  unfold trimEndChars
  constructor
  · intro h
    have h' : cs.reverse.dropWhile isBlankChar = [] := by simpa using h
    have key : ∀ l : List Char, l.dropWhile isBlankChar = [] → l.all isBlankChar = true := by
      intro l
      induction l with
      | nil => intro _; rfl
      | cons c l ih =>
        intro hl
        by_cases hc : isBlankChar c = true
        · simp only [List.dropWhile_cons, hc, if_true] at hl
          simp [hc, ih hl]
        · simp [hc] at hl
    simpa using key _ h'
  · intro h
    have : cs.reverse.all isBlankChar = true := by simpa using h
    simp [dropWhile_all this]

/-- A text is blank exactly when trimming leaves nothing of it. -/
theorem trimChars_eq_nil_iff {cs : List Char} :
    trimChars cs = [] ↔ cs.all isBlankChar = true := by
  unfold trimChars
  rw [trimEndChars_eq_nil_iff]
  induction cs with
  | nil => simp
  | cons c cs ih =>
    by_cases hc : isBlankChar c = true
    · simp [hc, ih]
    · simp [hc]

end Questbook.Text
