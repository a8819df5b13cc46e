import Questbook.Proofs.Text.Lowercase
import Questbook.Text.CaseFold

set_option autoImplicit false

/-! # What case folding leaves

Folding changes letters, and gives letters or marks for them. A character of a folded text that comes
before the letters in ASCII, such as a colon, is therefore one of the text itself
(`mem_of_mem_foldChars`). No character folds to nothing, so that only the empty text does
(`foldChars_eq_nil_iff`).
-/

namespace Questbook.Text

/-! ## What the table says -/

/-- Whether the images of a run are characters from the letters on. -/
def LetterRun.givesLetters (r : LetterRun) : Bool :=
  decide (65 ≤ r.target) &&
    (decide (r.target + (r.last - r.first) < 0xD800) ||
      decide (0xDFFF < r.target) && decide (r.target + (r.last - r.first) < 0x110000))

theorem foldRuns_givesLetters : ∀ r ∈ foldRuns, r.givesLetters = true := by
  decide +kernel

theorem foldExpansions_giveLetters : ∀ e ∈ foldExpansions, ∀ m ∈ e.2, 65 ≤ m ∧ m < 0xD800 := by
  decide +kernel

theorem foldExpansions_ne_nil : ∀ e ∈ foldExpansions, e.2 ≠ [] := by
  decide +kernel

theorem toLower_before_letters : ∀ n < 128,
    (Char.ofNat n).toLower.toNat < 65 → (Char.ofNat n).toLower = Char.ofNat n := by
  decide +kernel

/-! ## Characters -/

/-- What a code point folds to is the code point itself, or a character from the letters on. -/
theorem mem_foldWide_cases {n m : Nat} (h : m ∈ foldWide n) :
    m = n ∨ 65 ≤ m ∧ m.isValidChar := by
  unfold foldWide at h
  split at h
  · next e he =>
    obtain ⟨hlow, hhigh⟩ := foldExpansions_giveLetters e (List.mem_of_find?_eq_some he) m h
    exact Or.inr ⟨hlow, Or.inl (by omega)⟩
  · cases himage : imageIn? foldRuns n with
    | none =>
        rw [himage] at h
        exact Or.inl (List.mem_singleton.mp h)
    | some k =>
        rw [himage] at h
        obtain rfl : m = k := List.mem_singleton.mp h
        obtain ⟨r, hr, -, -, hlow, hhigh⟩ := exists_run_of_imageIn? himage
        have hgives := foldRuns_givesLetters r hr
        simp only [LetterRun.givesLetters, Bool.and_eq_true, Bool.or_eq_true,
          decide_eq_true_eq] at hgives
        obtain ⟨hletter, hvalid⟩ := hgives
        exact Or.inr ⟨by omega, hvalid.imp (by omega) (by omega)⟩

/-- Folding makes no character that comes before the letters. -/
theorem eq_of_mem_foldChar {c d : Char} (hd : d.toNat < 65) (h : d ∈ foldChar c) : d = c := by
  unfold foldChar at h
  split at h
  · next hascii =>
    have hlower := toLower_before_letters c.toNat hascii
    rw [Char.ofNat_toNat] at hlower
    obtain rfl := List.mem_singleton.mp h
    exact hlower hd
  · obtain ⟨m, hm, rfl⟩ := List.mem_map.mp h
    rcases mem_foldWide_cases hm with rfl | ⟨hletter, hvalid⟩
    · exact Char.ofNat_toNat c
    · have hm : (Char.ofNat m).toNat = m := by
        unfold Char.ofNat
        rw [dif_pos hvalid]
        rfl
      omega

theorem foldWide_ne_nil (n : Nat) : foldWide n ≠ [] := by
  unfold foldWide
  split
  · next e he => exact foldExpansions_ne_nil e (List.mem_of_find?_eq_some he)
  · exact List.cons_ne_nil _ _

theorem foldChar_ne_nil (c : Char) : foldChar c ≠ [] := by
  unfold foldChar
  split
  · exact List.cons_ne_nil _ _
  · exact fun h => foldWide_ne_nil c.toNat (List.map_eq_nil_iff.mp h)

/-! ## Texts -/

/-- **A character before the letters stands in the folded text** only if it stands in the text. -/
theorem mem_of_mem_foldChars {cs : List Char} {d : Char} (hd : d.toNat < 65)
    (h : d ∈ foldChars cs) : d ∈ cs := by
  obtain ⟨c, hc, hmem⟩ := List.mem_flatMap.mp h
  rwa [eq_of_mem_foldChar hd hmem]

/-- Only the empty text folds to the empty text. -/
theorem foldChars_eq_nil_iff {cs : List Char} : foldChars cs = [] ↔ cs = [] := by
  unfold foldChars
  rw [List.flatMap_eq_nil_iff]
  constructor
  · intro h
    cases cs with
    | nil => rfl
    | cons c cs => exact absurd (h c List.mem_cons_self) (foldChar_ne_nil c)
  · rintro rfl
    exact nofun

end Questbook.Text
