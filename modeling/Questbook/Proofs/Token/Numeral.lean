import Mathlib.Data.List.Induction
import Questbook.Proofs.Text.Trim
import Questbook.Token.Writer

set_option autoImplicit false

/-! # Numerals read and written

Reading a written numeral gives its number (`parsePlain?_numeralChars`), whether or not a plus sign
was written, and a number that was read has few enough digits to be written again
(`natAbs_lt_of_parsePlain?`).
-/

namespace Questbook.Numeral

open Text

/-! ## Digits -/

theorem toNat_of_isDigit {c : Char} (h : c.isDigit = true) : 48 ≤ c.toNat ∧ c.toNat ≤ 57 := by
  simp only [Char.isDigit, Bool.and_eq_true, decide_eq_true_eq, ge_iff_le,
    UInt32.le_iff_toNat_le] at h
  exact h

theorem asciiDigitValue?_of_isDigit {c : Char} (h : c.isDigit = true) :
    asciiDigitValue? c = some (c.toNat - 48) := by
  rw [asciiDigitValue?, if_pos (toNat_of_isDigit h)]

theorem plainDigits?_of_isDigit {cs : List Char} (hne : cs ≠ [])
    (h : ∀ c ∈ cs, c.isDigit = true) : plainDigits? cs = some (cs.map fun c => c.toNat - 48) := by
  induction cs with
  | nil => exact absurd rfl hne
  | cons c cs ih =>
      have hc := asciiDigitValue?_of_isDigit (h c (by simp))
      cases cs with
      | nil => simp [plainDigits?, hc]
      | cons d cs =>
          have hcs := ih (by simp) fun e he => h e (by simp [he])
          rw [plainDigits?, hc, hcs]
          · rfl
          · simp

theorem ofDigits_map_sub (cs : List Char) :
    ofDigits (cs.map fun c => c.toNat - 48) = Nat.ofDigitChars 10 cs 0 := by
  have key : ∀ (cs : List Char) (n : Nat),
      (cs.map fun c => c.toNat - 48).foldl (fun n d => n * 10 + d) n = Nat.ofDigitChars 10 cs n := by
    intro cs
    induction cs with
    | nil => intro n; rfl
    | cons c cs ih =>
        intro n
        rw [List.map_cons, List.foldl_cons, ih, Nat.ofDigitChars_cons, Nat.mul_comm]
        rfl
  exact key cs 0

theorem lt_ten_of_plainDigits? {cs : List Char} {ds : List Nat} (h : plainDigits? cs = some ds) :
    ∀ d ∈ ds, d < 10 := by
  fun_induction plainDigits? cs generalizing ds with
  | case1 => cases h
  | case2 c =>
      obtain ⟨d, hd, rfl⟩ := Option.map_eq_some_iff.mp h
      simpa using asciiDigitValue?_lt hd
  | case3 c cs _ ih =>
      obtain ⟨d, hd, hrest⟩ := Option.bind_eq_some_iff.mp h
      obtain ⟨es, hes, heq⟩ := Option.bind_eq_some_iff.mp hrest
      cases heq
      intro e he
      rcases List.mem_cons.mp he with rfl | he
      · exact asciiDigitValue?_lt hd
      · exact ih hes e he

/-- A text that is read as digits holds nothing else. -/
theorem asciiDigitValue?_ne_none_of_mem {cs : List Char} {ds : List Nat}
    (h : plainDigits? cs = some ds) : ∀ c ∈ cs, asciiDigitValue? c ≠ none := by
  fun_induction plainDigits? cs generalizing ds with
  | case1 => cases h
  | case2 c =>
      obtain ⟨d, hd, -⟩ := Option.map_eq_some_iff.mp h
      simp [hd]
  | case3 c cs _ ih =>
      obtain ⟨d, hd, hrest⟩ := Option.bind_eq_some_iff.mp h
      obtain ⟨es, hes, -⟩ := Option.bind_eq_some_iff.mp hrest
      intro e he
      rcases List.mem_cons.mp he with rfl | he
      · simp [hd]
      · exact ih hes e he

theorem ofDigits_lt {ds : List Nat} (h : ∀ d ∈ ds, d < 10) :
    ofDigits ds < Nat.pow 10 ds.length := by
  induction ds using List.reverseRecOn with
  | nil => exact Nat.succ_pos 0
  | append_singleton ds d ih =>
      have hd : d < 10 := h d (by simp)
      have hrest := ih fun e he => h e (by simp [he])
      have hlength : (ds ++ [d]).length = ds.length + 1 := by simp
      rw [ofDigits_append_singleton, hlength]
      show ofDigits ds * 10 + d < Nat.pow 10 ds.length * 10
      omega

/-! ## Written numerals -/

theorem numeralChars_cases {withPlus : Bool} {n : Int} {c : Char} (h : c ∈ numeralChars withPlus n) :
    c = '+' ∨ c = '-' ∨ c.isDigit = true := by
  rcases List.mem_append.mp h with h | h
  · split at h
    · simp at h
      exact Or.inr (Or.inl h)
    · split at h
      · simp at h
        exact Or.inl h
      · cases h
  · exact Or.inr (Or.inr (Nat.isDigit_of_mem_toDigits (by decide) (by decide) h))

theorem not_blank_of_isDigit {c : Char} (h : c.isDigit = true) : isBlankChar c = false := by
  have hc := toNat_of_isDigit h
  rw [isBlankChar, ← Bool.not_eq_true, inRanges_eq_true_iff]
  rintro ⟨r, hr, hle⟩
  simp only [blankRanges, List.mem_cons, List.not_mem_nil, or_false] at hr
  rcases hr with rfl | rfl | rfl | rfl | rfl | rfl | rfl | rfl | rfl | rfl <;> simp at hle <;> omega

theorem not_blank_of_mem_numeralChars {withPlus : Bool} {n : Int} {c : Char}
    (h : c ∈ numeralChars withPlus n) : isBlankChar c = false := by
  rcases numeralChars_cases h with rfl | rfl | hd
  · decide
  · decide
  · exact not_blank_of_isDigit hd

theorem trimmed_numeralChars (withPlus : Bool) (n : Int) : Trimmed (numeralChars withPlus n) :=
  trimmed_of_forall_not_blank fun _ hc => not_blank_of_mem_numeralChars hc

theorem cutSign_digits (m : Nat) : cutSign (Nat.toDigits 10 m) = (false, Nat.toDigits 10 m) := by
  cases h : Nat.toDigits 10 m with
  | nil => rfl
  | cons c cs =>
      have hd : c.isDigit = true :=
        Nat.isDigit_of_mem_toDigits (b := 10) (n := m) (by decide) (by decide) (by simp [h])
      unfold cutSign
      split
      · next heq =>
        cases heq
        exact absurd hd (by decide)
      · next heq =>
        cases heq
        exact absurd hd (by decide)
      · rfl

/-- The sign that is read off a written numeral. -/
theorem cutSign_numeralChars (withPlus : Bool) (n : Int) :
    cutSign (numeralChars withPlus n) = (decide (n < 0), Nat.toDigits 10 n.natAbs) := by
  unfold numeralChars
  by_cases hn : n < 0
  · rw [if_pos hn, decide_eq_true hn]
    rfl
  · rw [if_neg hn, decide_eq_false hn]
    cases withPlus with
    | true => rfl
    | false => exact cutSign_digits n.natAbs

theorem signed_natAbs (n : Int) : signed (decide (n < 0)) n.natAbs = n := by
  unfold signed
  by_cases hn : n < 0
  · rw [decide_eq_true hn, if_pos rfl]
    omega
  · rw [decide_eq_false hn, if_neg (by simp)]
    omega

theorem parsePlain?_eq (cs : List Char) :
    parsePlain? cs = match plainDigits? (cutSign (trimChars cs)).2 with
      | none => .ok none
      | some ds => (valueOf (cutSign (trimChars cs)).1 ds).map some := rfl

/-- A number below the limit has few enough digits to be read. -/
theorem length_toDigits_le {n : Nat} (h : n < writeLimit) :
    (Nat.toDigits 10 n).length ≤ maxDigits := by
  unfold writeLimit at h
  have hpos : 0 < maxDigits := by decide
  generalize maxDigits = k at hpos h ⊢
  exact (Nat.length_toDigits_le_iff (by decide) hpos).mpr h

/-- **A written numeral is read as its number.** -/
theorem parsePlain?_numeralChars {n : Int} (h : n.natAbs < writeLimit) (withPlus : Bool) :
    parsePlain? (numeralChars withPlus n) = .ok (some n) := by
  have hds := @plainDigits?_of_isDigit (Nat.toDigits 10 n.natAbs) Nat.toDigits_ne_nil
    fun c hc => Nat.isDigit_of_mem_toDigits (by decide) (by decide) hc
  have hlen := length_toDigits_le h
  rw [parsePlain?_eq, (trimmed_numeralChars withPlus n).trimChars_eq, cutSign_numeralChars, hds]
  show (valueOf (decide (n < 0)) _).map some = .ok (some n)
  rw [valueOf, if_neg (by rw [List.length_map]; omega), ofDigits_map_sub,
    Nat.ofDigitChars_ten_toDigits, signed_natAbs]
  rfl

/-! ## Numerals that were read -/

theorem parsePlain?_of_padded {cs w : List Char} (h : Padded cs w) :
    parsePlain? w = parsePlain? cs := by
  rw [parsePlain?_eq, parsePlain?_eq, trimChars_of_padded h]

theorem natAbs_signed (negative : Bool) (n : Nat) : (signed negative n).natAbs = n := by
  cases negative <;> simp [signed]

/-- What a numeral that was read consists of. -/
theorem digits_of_parsePlain? {cs : List Char} {n : Int} (h : parsePlain? cs = .ok (some n)) :
    ∃ ds, plainDigits? (cutSign (trimChars cs)).2 = some ds ∧ ds.length ≤ maxDigits ∧
      n = signed (cutSign (trimChars cs)).1 (ofDigits ds) := by
  rw [parsePlain?_eq] at h
  split at h
  · cases h
  · next ds hds =>
    unfold valueOf at h
    split at h
    · cases h
    · next hlen =>
      cases h
      exact ⟨ds, hds, by omega, rfl⟩

/-- Digits that are not too many state a number that can be written. -/
theorem natAbs_signed_lt (negative : Bool) {ds : List Nat} (hdigits : ∀ d ∈ ds, d < 10)
    (hlen : ds.length ≤ maxDigits) : (signed negative (ofDigits ds)).natAbs < writeLimit := by
  rw [natAbs_signed]
  unfold writeLimit
  generalize maxDigits = k at hlen ⊢
  calc ofDigits ds
      < Nat.pow 10 ds.length := ofDigits_lt hdigits
    _ ≤ Nat.pow 10 k := Nat.pow_le_pow_right (by decide) hlen

/-- **A number that was read can be written.** -/
theorem natAbs_lt_of_parsePlain? {cs : List Char} {n : Int} (h : parsePlain? cs = .ok (some n)) :
    n.natAbs < writeLimit := by
  obtain ⟨ds, hds, hlen, rfl⟩ := digits_of_parsePlain? h
  exact natAbs_signed_lt _ (lt_ten_of_plainDigits? hds) hlen

theorem lt_ten_of_looseDigits? {cs : List Char} {ds : List Nat} (h : looseDigits? cs = some ds) :
    ∀ d ∈ ds, d < 10 := by
  fun_induction looseDigits? cs generalizing ds with
  | case1 => cases h
  | case2 c =>
      obtain ⟨d, hd, rfl⟩ := Option.map_eq_some_iff.mp h
      simpa using digitValue?_lt hd
  | case3 c cs ih | case4 c cs _ _ ih =>
      obtain ⟨d, hd, hrest⟩ := Option.bind_eq_some_iff.mp h
      obtain ⟨es, hes, heq⟩ := Option.bind_eq_some_iff.mp hrest
      cases heq
      exact List.forall_mem_cons.mpr ⟨digitValue?_lt hd, ih hes⟩

/-- A number that was read from a loose numeral can be written. -/
theorem natAbs_lt_of_readLoose {cs : List Char} {n : Int} (h : readLoose cs = .ok n) :
    n.natAbs < writeLimit := by
  unfold readLoose at h
  dsimp only at h
  split at h
  · cases h
  · next ds hds =>
    unfold valueOf at h
    split at h
    · cases h
    · next hlen =>
      cases h
      exact natAbs_signed_lt _ (lt_ten_of_looseDigits? hds) (Nat.le_of_not_lt hlen)

/-- A text with another character than signs and digits is no numeral. -/
theorem parsePlain?_of_mem {cs : List Char} {c : Char} (hc : c ∈ cs) (hb : isBlankChar c = false)
    (hp : c ≠ '+') (hm : c ≠ '-') (hd : asciiDigitValue? c = none) :
    parsePlain? cs = .ok none := by
  have ht : c ∈ trimChars cs := (mem_padded_iff (padded_trimChars cs) hb).mp hc
  have hcut : c ∈ (cutSign (trimChars cs)).2 := by
    unfold cutSign
    split
    · next heq => simpa [heq, hp] using ht
    · next heq => simpa [heq, hm] using ht
    · exact ht
  rw [parsePlain?_eq]
  split
  · rfl
  · next ds hds => exact absurd hd (asciiDigitValue?_ne_none_of_mem hds c hcut)

/-- A numeral without a sign is not negative. -/
theorem nonneg_of_parsePlain? {cs : List Char} {n : Int} (h : parsePlain? cs = .ok (some n))
    (hs : isSigned (trimChars cs) = false) : 0 ≤ n := by
  obtain ⟨ds, -, -, rfl⟩ := digits_of_parsePlain? h
  have hcut : (cutSign (trimChars cs)).1 = false := by
    unfold cutSign
    split
    · rfl
    · next heq =>
      rw [heq] at hs
      exact absurd hs (by simp [isSigned])
    · rfl
  rw [hcut]
  exact Int.natCast_nonneg _

theorem isSigned_numeralChars_true (n : Int) : isSigned (numeralChars true n) = true := by
  unfold numeralChars
  by_cases hn : n < 0
  · rw [if_pos hn]
    rfl
  · rw [if_neg hn]
    rfl

theorem isSigned_numeralChars_false {n : Int} (hn : 0 ≤ n) :
    isSigned (numeralChars false n) = false := by
  have hcs : numeralChars false n = Nat.toDigits 10 n.natAbs := by
    unfold numeralChars
    rw [if_neg (by omega)]
    rfl
  have hcut := cutSign_digits n.natAbs
  rw [hcs]
  cases h : Nat.toDigits 10 n.natAbs with
  | nil => rfl
  | cons c cs =>
      have hd : c.isDigit = true :=
        Nat.isDigit_of_mem_toDigits (b := 10) (n := n.natAbs) (by decide) (by decide) (by simp [h])
      have hp : c ≠ '+' := fun x => absurd hd (by simp [x])
      have hm : c ≠ '-' := fun x => absurd hd (by simp [x])
      simp [isSigned, hp, hm]

end Questbook.Numeral
