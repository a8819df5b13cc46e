import Questbook.Json.Printer
import Questbook.Json.Reader
import Questbook.Proofs.Text.Points

set_option autoImplicit false

/-! # Written texts read back

A text is written code point by code point, with escapes for the quote, the backslash and the control
characters, and is read back up to its closing quote (`readText_writtenText`). Only an unpaired half
is lost on the way to a file, and a text that holds one is not written.
-/

namespace Questbook.Json

open Text

/-! ## Hexadecimal digits -/

theorem hexValue?_hexDigit {d : Nat} (h : d < 16) : hexValue? (hexDigit d) = some d := by
  have hall : ∀ e : Fin 16, hexValue? (hexDigit e) = some e.val := by decide
  exact hall ⟨d, h⟩

/-- Four digits hold a 16-bit unit. -/
theorem hexUnit?_hexDigits {n : Nat} (h : n < 65536) :
    ∃ a b c d, hexDigits 4 n = [a, b, c, d] ∧ hexUnit? a b c d = some n := by
  refine ⟨hexDigit (n / 16 / 16 / 16 % 16), hexDigit (n / 16 / 16 % 16), hexDigit (n / 16 % 16),
    hexDigit (n % 16), rfl, ?_⟩
  unfold hexUnit?
  rw [hexValue?_hexDigit (by omega), hexValue?_hexDigit (by omega), hexValue?_hexDigit (by omega),
    hexValue?_hexDigit (by omega)]
  show some _ = some n
  congr 1
  omega

/-! ## Code points -/

theorem readText_unescaped {c : Char} (hquote : c ≠ '"') (hslash : c ≠ '\\')
    (h : ¬ c.toNat < 0x20) (cs : List Char) :
    readText (c :: cs) = consPoint c.toNat (readText cs) := by
  rw [readText.eq_def]
  split
  · next heq => exact absurd (List.cons.inj heq).1 hquote
  · next heq => exact absurd (List.cons.inj heq).1 hslash
  · next heq => exact absurd (List.cons.inj heq).1 hslash
  · next heq =>
    obtain ⟨rfl, rfl⟩ := List.cons.inj heq
    rw [if_neg]
    rintro (hsmall | hback)
    · exact h hsmall
    · exact hslash hback
  · next heq => cases heq

theorem readText_escaped {c e : Char} (hu : c ≠ 'u') (he : escaped? c = some e) (cs : List Char) :
    readText ('\\' :: c :: cs) = consPoint e.toNat (readText cs) := by
  rw [readText.eq_def]
  split
  · next heq => cases (List.cons.inj heq).1
  · next heq => exact absurd (List.cons.inj (List.cons.inj heq).2).1 hu
  · next heq =>
    obtain ⟨rfl, rfl⟩ := List.cons.inj (List.cons.inj heq).2
    rw [he]
  · next hno heq =>
    obtain ⟨rfl, rfl⟩ := List.cons.inj heq
    exact (hno c cs rfl rfl).elim
  · next heq => cases heq

/-- An escaped unit that is no half is read by itself, if what follows is read. -/
theorem readText_unit {n : Nat} (h : n < 0xD800) {cs : List Char} {p : List Char × List Char}
    (hcs : readText cs = .ok p) :
    readText ('\\' :: 'u' :: (hexDigits 4 n ++ cs)) = .ok (kept n ++ p.1, p.2) := by
  obtain ⟨a, b, c, d, hdigits, hunit⟩ := hexUnit?_hexDigits (n := n) (by omega)
  have halone : consPoint n (readText cs) = .ok (kept n ++ p.1, p.2) := by
    rw [hcs]
    rfl
  rw [hdigits, List.cons_append, List.cons_append, List.cons_append, List.cons_append,
    List.nil_append, readText]
  rw [hunit]
  dsimp only
  split
  · next e f g k rest =>
    -- a second unit may follow, but the first one is no half of a pair
    split
    · next hnone =>
      rw [readText, hnone] at hcs
      cases hcs
    · rw [if_neg (by omega)]
      exact halone
  · exact halone

/-- How a character is written: as an escape of one letter or of its unit, or as it is. -/
theorem writtenChar_cases (c : Char) :
    (∃ d, writtenChar c = ['\\', d] ∧ d ≠ 'u' ∧ escaped? d = some c) ∨
      (c.toNat < 0x20 ∧ writtenChar c = '\\' :: 'u' :: hexDigits 4 c.toNat) ∨
      (c ≠ '"' ∧ c ≠ '\\' ∧ ¬ c.toNat < 0x20 ∧ writtenChar c = [c]) := by
  by_cases hletter : c ∈ ['"', '\\', '\n', '\r', '\t', '\x08', '\x0c']
  · have hall : ∀ c ∈ ['"', '\\', '\n', '\r', '\t', '\x08', '\x0c'],
        ∃ d, writtenChar c = ['\\', d] ∧ d ≠ 'u' ∧ escaped? d = some c := by
      simp [writtenChar, escaped?]
    exact Or.inl (hall c hletter)
  · simp only [List.mem_cons, List.not_mem_nil, or_false, not_or] at hletter
    obtain ⟨hquote, hslash, hn, hr, ht, hb, hf⟩ := hletter
    unfold writtenChar
    rw [if_neg hquote, if_neg hslash, if_neg hn, if_neg hr, if_neg ht, if_neg hb, if_neg hf]
    by_cases hsmall : c.toNat < 0x20
    · rw [if_pos hsmall]
      exact Or.inr (Or.inl ⟨hsmall, rfl⟩)
    · rw [if_neg hsmall]
      exact Or.inr (Or.inr ⟨hquote, hslash, hsmall, rfl⟩)

theorem readText_writtenChar (c : Char) {cs : List Char} {p : List Char × List Char}
    (hcs : readText cs = .ok p) :
    readText (writtenChar c ++ cs) = .ok (kept c.toNat ++ p.1, p.2) := by
  rcases writtenChar_cases c with ⟨d, hd, hu, he⟩ | ⟨hsmall, hc⟩ | ⟨hquote, hslash, hsmall, hc⟩
  · rw [hd, List.cons_append, List.cons_append, List.nil_append, readText_escaped hu he, hcs]
    rfl
  · rw [hc]
    exact readText_unit (by omega) hcs
  · rw [hc, List.cons_append, List.nil_append, readText_unescaped hquote hslash hsmall, hcs]
    rfl

theorem readText_writtenPoint {n : Nat} (h : isScalar n = true) {cs : List Char}
    {p : List Char × List Char} (hcs : readText cs = .ok p) :
    readText (writtenPoint n ++ cs) = .ok (kept n ++ p.1, p.2) := by
  have hread := readText_writtenChar (Char.ofNat n) hcs
  rw [toNat_ofNat_of_isScalar h] at hread
  rw [isScalar, Bool.and_eq_true, Bool.not_eq_true'] at h
  rw [writtenPoint, h.2]
  exact hread

/-! ## Texts -/

theorem readText_writtenPoints {ns : List Nat} (h : ∀ n ∈ ns, isScalar n = true)
    (rest : List Char) :
    readText (ns.flatMap writtenPoint ++ '"' :: rest) = .ok (ns.flatMap kept, rest) := by
  induction ns with
  | nil => rw [List.flatMap_nil, List.nil_append, readText, List.flatMap_nil]
  | cons n ns ih =>
      obtain ⟨hn, hns⟩ := List.forall_mem_cons.mp h
      rw [List.flatMap_cons, List.append_assoc, readText_writtenPoint hn (ih hns),
        List.flatMap_cons]

/-- **A written text is read back,** and what follows it is left. -/
theorem readText_writtenText {s : String} (h : hasHalf s = false) (rest : List Char) :
    readText ((points s.toList).flatMap writtenPoint ++ '"' :: rest) = .ok (s.toList, rest) := by
  rw [readText_writtenPoints (hasHalf_eq_false_iff.mp h), flatMap_kept_points]

end Questbook.Json
