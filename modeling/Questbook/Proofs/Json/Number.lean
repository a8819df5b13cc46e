import Questbook.Json.Printer
import Questbook.Json.Reader
import Questbook.Proofs.Token.Numeral

set_option autoImplicit false

/-! # Written whole numbers read back

A whole number is written with its digits and is read back as long as what follows cannot be taken
for a part of it (`readNumber_append`).
-/

namespace Questbook.Json

open Text Numeral

/-- **Whether a number ends before a text:** neither a digit nor a fraction nor an exponent
follows. -/
def EndsNumber (rest : List Char) : Prop :=
  ∀ c, rest.head? = some c → c.isDigit = false ∧ c ≠ '.' ∧ c ≠ 'e' ∧ c ≠ 'E'

theorem endsNumber_nil : EndsNumber [] := by
  intro c hc
  cases hc

theorem toList_toString_int (n : Int) : (toString n).toList = numeralChars false n := by
  rw [Int.toString_eq_repr, Int.repr_eq_if]
  unfold numeralChars
  by_cases hn : 0 ≤ n
  · have hnat : n.toNat = n.natAbs := by omega
    rw [if_pos hn, if_neg (by omega), Nat.toList_repr, hnat]
    rfl
  · have hnat : (-n).toNat = n.natAbs := by omega
    rw [if_neg hn, if_pos (by omega), String.toList_append, Nat.toList_repr, hnat]
    rfl

/-! ## Digits -/

theorem isDigit_of_mem_toDigits {m : Nat} {c : Char} (h : c ∈ Nat.toDigits 10 m) :
    c.isDigit = true :=
  Nat.isDigit_of_mem_toDigits (by decide) (by decide) h

theorem asciiDigitValue?_eq_none {c : Char} (h : c.isDigit = false) : asciiDigitValue? c = none := by
  unfold asciiDigitValue?
  rw [if_neg]
  intro hc
  have hd : c.isDigit = true := by
    simp only [Char.isDigit, Bool.and_eq_true, decide_eq_true_eq, ge_iff_le,
      UInt32.le_iff_toNat_le]
    exact hc
  rw [hd] at h
  cases h

/-- The digits in front of a text that starts with none. -/
theorem spanDigits_append {ds rest : List Char} (hds : ∀ c ∈ ds, c.isDigit = true)
    (hrest : EndsNumber rest) :
    spanDigits (ds ++ rest) = (ds.map fun c => c.toNat - 48, rest) := by
  induction ds with
  | nil =>
      cases rest with
      | nil => rfl
      | cons c rest =>
          have hc := asciiDigitValue?_eq_none (hrest c rfl).1
          rw [List.nil_append, spanDigits, hc]
          rfl
  | cons d ds ih =>
      have hd := asciiDigitValue?_of_isDigit (hds d (by simp))
      rw [List.cons_append, spanDigits, hd]
      dsimp only
      rw [ih fun c hc => hds c (by simp [hc])]
      rfl

/-- A number above zero does not start with a zero. -/
theorem head?_toDigits_ne_zero {m : Nat} (h : 0 < m) : (Nat.toDigits 10 m).head? ≠ some '0' := by
  induction m using Nat.strongRecOn with
  | ind m ih =>
      rw [Nat.toDigits_eq_if (by decide)]
      split
      · next hsmall =>
        have hall : ∀ d : Fin 10, 0 < d.val → [Nat.digitChar d.val].head? ≠ some '0' := by decide
        exact hall ⟨m, hsmall⟩ h
      · next hlarge =>
        have hhead := ih (m / 10) (by omega) (by omega)
        cases hds : Nat.toDigits 10 (m / 10) with
        | nil => exact absurd hds Nat.toDigits_ne_nil
        | cons d ds =>
            rw [hds] at hhead
            exact hhead

theorem readWholePart_append {m : Nat} {rest : List Char} (hrest : EndsNumber rest) :
    readWholePart (Nat.toDigits 10 m ++ rest) =
      ((Nat.toDigits 10 m).map fun c => c.toNat - 48, rest) := by
  by_cases hm : m = 0
  · subst hm
    rfl
  · have hspan := spanDigits_append (fun c hc => isDigit_of_mem_toDigits (m := m) hc) hrest
    have hhead := head?_toDigits_ne_zero (Nat.pos_of_ne_zero hm)
    unfold readWholePart
    split
    · next r heq =>
      cases hds : Nat.toDigits 10 m with
      | nil => exact absurd hds Nat.toDigits_ne_nil
      | cons d ds =>
          rw [hds, List.cons_append] at heq
          rw [hds, (List.cons.inj heq).1] at hhead
          exact absurd rfl hhead
    · exact hspan

/-! ## Numbers -/

theorem readFraction_of_ends {rest : List Char} (h : EndsNumber rest) :
    readFraction rest = ([], rest) := by
  unfold readFraction
  split
  · exact absurd rfl (h '.' rfl).2.1
  · rfl

theorem readExponent_of_ends {rest : List Char} (h : EndsNumber rest) :
    readExponent rest = (none, rest) := by
  unfold readExponent
  split
  · next c cs =>
    obtain ⟨-, -, he, hE⟩ := h c rfl
    rw [if_neg (by simp [he, hE])]
  · rfl

/-- What is read of a whole number after its sign. -/
theorem numberOf_toDigits {negative : Bool} {m : Nat} (h : m < writeLimit) :
    numberOf negative ((Nat.toDigits 10 m).map fun c => c.toNat - 48) [] none =
      .ok (.int (signed negative m)) := by
  have hlen := length_toDigits_le h
  unfold numberOf
  rw [if_pos ⟨rfl, rfl⟩, if_neg (by rw [List.length_map]; omega), ofDigits_map_sub,
    Nat.ofDigitChars_ten_toDigits]

/-- Reads a number after its sign. -/
def readUnsigned (negative : Bool) (body : List Char) : Except ReadFault (Json × List Char) :=
  match readWholePart body with
  | ([], _) => .error .malformed
  | (whole, rest) =>
    let (fraction, rest) := readFraction rest
    let (exponent, rest) := readExponent rest
    (numberOf negative whole fraction exponent).map fun j => (j, rest)

theorem readNumber_minus (body : List Char) : readNumber ('-' :: body) = readUnsigned true body :=
  rfl

theorem readNumber_of_ne_minus {c : Char} (hc : c ≠ '-') (cs : List Char) :
    readNumber (c :: cs) = readUnsigned false (c :: cs) := by
  unfold readNumber
  split
  next negative body heq =>
    split at heq
    · next hcons => exact absurd (List.cons.inj hcons).1 hc
    · cases heq
      rfl

theorem readUnsigned_append {negative : Bool} {m : Nat} (h : m < writeLimit) {rest : List Char}
    (hrest : EndsNumber rest) :
    readUnsigned negative (Nat.toDigits 10 m ++ rest) = .ok (.int (signed negative m), rest) := by
  have hnumber := @numberOf_toDigits negative _ h
  unfold readUnsigned
  rw [readWholePart_append hrest]
  cases hds : Nat.toDigits 10 m with
  | nil => exact absurd hds Nat.toDigits_ne_nil
  | cons d ds =>
      rw [hds] at hnumber
      show Except.map (fun j => (j, (readExponent (readFraction rest).2).2))
        (numberOf negative ((d :: ds).map fun c => c.toNat - 48) (readFraction rest).1
          (readExponent (readFraction rest).2).1) = _
      rw [readFraction_of_ends hrest, readExponent_of_ends hrest, hnumber]
      rfl

/-- **A written whole number is read back,** and what follows it is left. -/
theorem readNumber_append {n : Int} (h : n.natAbs < writeLimit) {rest : List Char}
    (hrest : EndsNumber rest) :
    readNumber (numeralChars false n ++ rest) = .ok (.int n, rest) := by
  unfold numeralChars
  by_cases hn : n < 0
  · have hsigned : signed true n.natAbs = n := by
      rw [← decide_eq_true hn, signed_natAbs]
    rw [if_pos hn]
    show readNumber ('-' :: (Nat.toDigits 10 n.natAbs ++ rest)) = _
    rw [readNumber_minus, readUnsigned_append h hrest, hsigned]
  · have hsigned : signed false n.natAbs = n := by
      rw [← decide_eq_false hn, signed_natAbs]
    have hread := @readUnsigned_append false _ h _ hrest
    rw [if_neg hn, if_neg (by simp), List.nil_append]
    cases hds : Nat.toDigits 10 n.natAbs with
    | nil => exact absurd hds Nat.toDigits_ne_nil
    | cons d ds =>
        have hdigit : d.isDigit = true := isDigit_of_mem_toDigits (m := n.natAbs) (by simp [hds])
        have hminus : d ≠ '-' := by
          rintro rfl
          exact absurd hdigit (by decide)
        rw [hds, List.cons_append] at hread
        rw [List.cons_append, readNumber_of_ne_minus hminus, hread, hsigned]

end Questbook.Json
