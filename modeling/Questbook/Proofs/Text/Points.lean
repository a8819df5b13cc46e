import Questbook.Text.Half

set_option autoImplicit false

/-! # Texts and their code points

No code point is lost in a text: the text of a row of code points has these code points again
(`points_flatMap_kept`), and every text is that of its code points (`flatMap_kept_points`). So two texts
with the same code points are the same.

A text of characters has no halves (`hasHalf_ofPoints`), whichever characters these are.
-/

namespace Questbook.Text

/-! ## Characters that are kept for others -/

theorem toNat_ofNat {n : Nat} (h : n.isValidChar) : (Char.ofNat n).toNat = n := by
  unfold Char.ofNat
  rw [dif_pos h]
  rfl

theorem toNat_cases (c : Char) : c.toNat < 0xD800 ∨ 0xDFFF < c.toNat ∧ c.toNat < 0x110000 :=
  c.valid

theorem toNat_mark : mark.toNat = 0x10E000 := by rfl

theorem isHalfUnit_iff {n : Nat} : isHalfUnit n = true ↔ 0xD800 ≤ n ∧ n < 0xE000 := by
  rw [isHalfUnit, Bool.and_eq_true, decide_eq_true_eq, decide_eq_true_eq]

theorem isReserved_iff {n : Nat} : isReserved n = true ↔ 0x10D800 ≤ n ∧ n ≤ 0x10E000 := by
  rw [isReserved, Bool.and_eq_true, decide_eq_true_eq, decide_eq_true_eq]

theorem toNat_ofHalf {n : Nat} (h : isHalfUnit n = true) : (ofHalf n).toNat = 0x100000 + n := by
  have hrange := isHalfUnit_iff.mp h
  exact toNat_ofNat (Or.inr (by unfold halfBase; omega))

/-- No half is lost. -/
theorem half?_ofHalf {n : Nat} (h : isHalfUnit n = true) : half? (ofHalf n) = some n := by
  have hrange := isHalfUnit_iff.mp h
  unfold half? halfBase
  rw [toNat_ofHalf h, if_pos (by omega), Nat.add_sub_cancel_left]

theorem half?_eq_some_iff {c : Char} {n : Nat} :
    half? c = some n ↔ isHalfUnit n = true ∧ c = ofHalf n := by
  constructor
  · intro h
    unfold half? at h
    split at h
    · next hrange =>
      have hn : c.toNat = halfBase + n := by
        rw [← Option.some.inj h]
        unfold halfBase
        omega
      refine ⟨isHalfUnit_iff.mpr ?_, ?_⟩
      · unfold halfBase at hn
        omega
      · rw [ofHalf, ← hn, Char.ofNat_toNat]
    · cases h
  · rintro ⟨h, rfl⟩
    exact half?_ofHalf h

theorem isScalar_iff {n : Nat} :
    isScalar n = true ↔ n < 0x110000 ∧ ¬ (0xD800 ≤ n ∧ n < 0xE000) := by
  rw [isScalar, Bool.and_eq_true, decide_eq_true_eq, Bool.not_eq_true', ← Bool.not_eq_true,
    isHalfUnit_iff]

theorem toNat_ofNat_of_isScalar {n : Nat} (h : isScalar n = true) : (Char.ofNat n).toNat = n := by
  rw [isScalar_iff] at h
  exact toNat_ofNat (by unfold Nat.isValidChar; omega)

theorem isScalar_toNat (c : Char) : isScalar c.toNat = true := by
  have hcode := toNat_cases c
  rw [isScalar_iff]
  omega

/-- What is kept for a half is kept for no character. -/
theorem not_isScalar_of_half? {c : Char} {n : Nat} (h : half? c = some n) : ¬ isScalar n = true := by
  have hrange := isHalfUnit_iff.mp (half?_eq_some_iff.mp h).1
  rw [isScalar_iff]
  exact fun hscalar => hscalar.2 hrange

theorem toNat_marked {n : Nat} (h : isReserved n = true) :
    (Char.ofNat (n + markShift)).toNat = n + markShift := by
  have hrange := isReserved_iff.mp h
  exact toNat_ofNat (Or.inr (by unfold markShift; omega))

/-- What is kept for a reserved character tells which one it is. -/
theorem marked?_eq_some_iff {c : Char} {n : Nat} :
    marked? c = some n ↔ isReserved n = true ∧ c = Char.ofNat (n + markShift) := by
  unfold marked?
  constructor
  · intro h
    split at h
    · next hreserved =>
      have hle : markShift ≤ c.toNat := by
        refine Nat.le_of_not_lt fun hlt => ?_
        rw [Nat.sub_eq_zero_of_le (Nat.le_of_lt hlt)] at hreserved
        cases hreserved
      have hn : c.toNat - markShift = n := Option.some.inj h
      have hcode : n + markShift = c.toNat := by rw [← hn, Nat.sub_add_cancel hle]
      rw [hn] at hreserved
      rw [hcode, Char.ofNat_toNat]
      exact ⟨hreserved, rfl⟩
    · cases h
  · rintro ⟨hreserved, hc⟩
    have hcode : c.toNat = n + markShift := by rw [hc, toNat_marked hreserved]
    rw [hcode, Nat.add_sub_cancel, if_pos hreserved]

/-- What a code point is kept as that is neither a half nor reserved. -/
theorem kept_of_ordinary {n : Nat} (hunit : ¬ (0xD800 ≤ n ∧ n < 0xE000))
    (hreserved : ¬ (0x10D800 ≤ n ∧ n ≤ 0x10E000) ∧ n < 0x110000) : kept n = [Char.ofNat n] := by
  have hloose : n ≠ looseMark := by
    unfold looseMark
    omega
  rw [kept, if_neg (mt isReserved_iff.mp hreserved.1), if_neg (mt isHalfUnit_iff.mp hunit),
    if_neg hloose]

/-- A character that is not marked is kept for its code point. -/
theorem kept_pointOf (c : Char) : kept (pointOf c) = [c] := by
  unfold pointOf
  by_cases hmark : c = mark
  · rw [if_pos hmark, hmark]
    rfl
  · rw [if_neg hmark]
    cases hhalf : half? c with
    | some n =>
        obtain ⟨hunit, hc⟩ := half?_eq_some_iff.mp hhalf
        have hrange := isHalfUnit_iff.mp hunit
        have hnot : ¬ isReserved n = true := fun h => by
          have hreserved := isReserved_iff.mp h
          omega
        rw [Option.getD_some, kept, if_neg hnot, if_pos hunit, hc]
    | none =>
        have hcode := toNat_cases c
        have hne : c.toNat ≠ 0x10E000 := fun heq => hmark (Char.toNat_inj.mp (heq.trans toNat_mark.symm))
        have hout : ¬ (0x10D800 ≤ c.toNat ∧ c.toNat < 0x10E000) := by
          intro hrange
          rw [half?, if_pos hrange] at hhalf
          cases hhalf
        rw [Option.getD_none, kept_of_ordinary (by omega) (by omega), Char.ofNat_toNat]

/-- No half is kept but for itself. -/
theorem eq_of_half?_of_mem_kept {c : Char} {m n : Nat} (h : half? c = some n) (hc : c ∈ kept m) :
    m = n := by
  obtain ⟨hunit, rfl⟩ := half?_eq_some_iff.mp h
  have hcode := toNat_ofHalf hunit
  have hrange := isHalfUnit_iff.mp hunit
  unfold kept at hc
  split at hc
  · next hreserved =>
    have hm := isReserved_iff.mp hreserved
    rw [List.mem_cons, List.mem_singleton] at hc
    rcases hc with heq | heq
    · rw [heq, toNat_mark] at hcode
      omega
    · rw [heq, toNat_marked hreserved] at hcode
      unfold markShift at hcode
      omega
  · next hnot =>
    split at hc
    · next hm =>
      rw [List.mem_singleton.mp hc, toNat_ofHalf hm] at hcode
      omega
    · split at hc
      · rw [List.mem_singleton.mp hc, toNat_mark] at hcode
        omega
      · -- what is kept as it is, is no reserved character
        rw [isReserved_iff] at hnot
        by_cases hvalid : m.isValidChar
        · rw [List.mem_singleton.mp hc, toNat_ofNat hvalid] at hcode
          omega
        · rw [List.mem_singleton.mp hc, Char.ofNat, dif_neg hvalid] at hcode
          have hzero : 0 = 0x100000 + n := hcode
          omega

theorem kept_ne_nil (n : Nat) : kept n ≠ [] := by
  unfold kept
  split
  · nofun
  · split
    · nofun
    · split <;> nofun

theorem half?_of_mem_kept {c : Char} {n : Nat} (h : isScalar n = true) (hc : c ∈ kept n) :
    half? c = none := by
  cases hhalf : half? c with
  | none => rfl
  | some m =>
      obtain rfl := eq_of_half?_of_mem_kept hhalf hc
      exact absurd h (not_isScalar_of_half? hhalf)

/-- No character is kept as an earlier one, but for those that are reserved. -/
theorem le_toNat_of_mem_kept {c : Char} {n k : Nat} (h : isScalar n = true) (hk : k ≤ n)
    (hsmall : k ≤ 0x10E000) (hc : c ∈ kept n) : k ≤ c.toNat := by
  have hcode := toNat_ofNat_of_isScalar h
  unfold kept at hc
  split at hc
  · next hreserved =>
    rw [List.mem_cons, List.mem_singleton] at hc
    rcases hc with heq | heq
    · rw [heq, toNat_mark]
      exact hsmall
    · rw [heq, toNat_marked hreserved]
      exact Nat.le_add_right_of_le hk
  · split at hc
    · next hunit =>
      rw [List.mem_singleton.mp hc, toNat_ofHalf hunit]
      omega
    · split at hc
      · rw [List.mem_singleton.mp hc, toNat_mark]
        exact hsmall
      · rw [List.mem_singleton.mp hc, hcode]
        exact hk

/-! ## The code points of a text -/

theorem points_cons_of_ne {c : Char} (h : c ≠ mark) (cs : List Char) :
    points (c :: cs) = pointOf c :: points cs := by
  cases cs with
  | nil => rfl
  | cons d cs => rw [points, if_neg h]

theorem points_mark_of_marked {d : Char} {n : Nat} (h : marked? d = some n) (cs : List Char) :
    points (mark :: d :: cs) = n :: points cs := by
  rw [points, if_pos rfl, h]

/-- **A code point in front of a text** is the first of its code points. -/
theorem points_kept_append {n : Nat} (h : n < 0x110000) (cs : List Char) :
    points (kept n ++ cs) = n :: points cs := by
  by_cases hreserved : isReserved n = true
  · have hkept : kept n = [mark, Char.ofNat (n + markShift)] := if_pos hreserved
    rw [hkept]
    exact points_mark_of_marked (marked?_eq_some_iff.mpr ⟨hreserved, rfl⟩) cs
  · -- one character is kept, which is no mark
    have hone : ∃ c, kept n = [c] ∧ c ≠ mark ∧ pointOf c = n := by
      by_cases hunit : isHalfUnit n = true
      · have hrange := isHalfUnit_iff.mp hunit
        have hne : ofHalf n ≠ mark := by
          intro heq
          have hcode := toNat_ofHalf hunit
          rw [heq, toNat_mark] at hcode
          omega
        refine ⟨ofHalf n, ?_, hne, ?_⟩
        · rw [kept, if_neg hreserved, if_pos hunit]
        · rw [pointOf, if_neg hne, half?_ofHalf hunit, Option.getD_some]
      · rw [isReserved_iff] at hreserved
        rw [isHalfUnit_iff] at hunit
        have hcode : (Char.ofNat n).toNat = n :=
          toNat_ofNat (by unfold Nat.isValidChar; omega)
        have hne : Char.ofNat n ≠ mark := by
          intro heq
          rw [heq, toNat_mark] at hcode
          omega
        refine ⟨Char.ofNat n, kept_of_ordinary hunit ⟨hreserved, h⟩, hne, ?_⟩
        rw [pointOf, if_neg hne, half?, hcode, if_neg (by omega), Option.getD_none]
    obtain ⟨c, hkept, hne, hpoint⟩ := hone
    rw [hkept, List.singleton_append, points_cons_of_ne hne, hpoint]

/-- **No code point is lost.** -/
theorem points_flatMap_kept {ns : List Nat} (h : ∀ n ∈ ns, n < 0x110000) :
    points (ns.flatMap kept) = ns := by
  induction ns with
  | nil => rfl
  | cons n ns ih =>
      obtain ⟨hn, hns⟩ := List.forall_mem_cons.mp h
      rw [List.flatMap_cons, points_kept_append hn, ih hns]

/-- **Every text is that of its code points.** -/
theorem flatMap_kept_points (cs : List Char) : (points cs).flatMap kept = cs := by
  fun_induction points cs with
  | case1 => rfl
  | case2 c => rw [List.flatMap_singleton, kept_pointOf]
  | case3 c d cs n hn ih =>
      split at hn
      · next hmark =>
        obtain ⟨hreserved, hd⟩ := marked?_eq_some_iff.mp hn
        have hkept : kept n = [mark, d] := by
          rw [kept, if_pos hreserved, ← hd]
        rw [List.flatMap_cons, ih, hkept, hmark]
        rfl
      · cases hn
  | case4 c d cs _ ih =>
      rw [List.flatMap_cons, ih, kept_pointOf]
      rfl

theorem mem_points_of_half? {cs : List Char} {c : Char} {n : Nat} (hc : c ∈ cs)
    (h : half? c = some n) : n ∈ points cs := by
  rw [← flatMap_kept_points cs] at hc
  obtain ⟨m, hm, hmem⟩ := List.mem_flatMap.mp hc
  exact eq_of_half?_of_mem_kept h hmem ▸ hm

theorem ne_mark_of_ascii {c : Char} (h : c.toNat < 128) : c ≠ mark := by
  rintro rfl
  rw [toNat_mark] at h
  omega

theorem marked?_of_ascii {c : Char} (h : c.toNat < 128) : marked? c = none := by
  cases hmarked : marked? c with
  | none => rfl
  | some n =>
      obtain ⟨hreserved, hc⟩ := marked?_eq_some_iff.mp hmarked
      have hrange := isReserved_iff.mp hreserved
      rw [hc, toNat_marked hreserved] at h
      omega

/-- A text has as many code points as before when some of its characters are replaced by ASCII
characters, if these are ASCII characters as well. -/
theorem length_points_map {f : Char → Char}
    (h : ∀ c, f c = c ∨ c.toNat < 128 ∧ (f c).toNat < 128) (cs : List Char) :
    (points (cs.map f)).length = (points cs).length := by
  have hmark : ∀ c, f c = mark ↔ c = mark := by
    intro c
    rcases h c with hsame | ⟨hc, hf⟩
    · rw [hsame]
    · exact iff_of_false (ne_mark_of_ascii hf) (ne_mark_of_ascii hc)
  have hmarked : ∀ c, (marked? (f c)).isSome = (marked? c).isSome := by
    intro c
    rcases h c with hsame | ⟨hc, hf⟩
    · rw [hsame]
    · rw [marked?_of_ascii hc, marked?_of_ascii hf]
  fun_induction points cs with
  | case1 => rfl
  | case2 c => rfl
  | case3 c d cs n hn ih =>
      split at hn
      · next heq =>
        obtain ⟨m, hm⟩ := Option.isSome_iff_exists.mp ((hmarked d).trans (by rw [hn]; rfl))
        rw [List.map_cons, List.map_cons, (hmark c).mpr heq, points_mark_of_marked hm,
          List.length_cons, List.length_cons, ih]
      · cases hn
  | case4 c d cs hn ih =>
      rw [List.map_cons] at ih
      have hnone : (if f c = mark then marked? (f d) else none) = none := by
        split
        · next heq =>
          rw [if_pos ((hmark c).mp heq)] at hn
          have hd := hmarked d
          rw [hn] at hd
          exact Option.isNone_iff_eq_none.mp (Option.isSome_eq_false_iff.mp hd)
        · rfl
      rw [List.map_cons, List.map_cons, points, hnone, List.length_cons, List.length_cons, ih]

/-! ## Texts without halves -/

theorem hasHalf_eq_false_iff {s : String} :
    hasHalf s = false ↔ ∀ n ∈ points s.toList, isScalar n = true := by
  unfold hasHalf
  rw [Bool.not_eq_false', List.all_eq_true]

theorem half?_of_hasHalf {s : String} (h : hasHalf s = false) {c : Char} (hc : c ∈ s.toList) :
    half? c = none := by
  cases hhalf : half? c with
  | none => rfl
  | some n =>
      have hscalar := hasHalf_eq_false_iff.mp h n (mem_points_of_half? hc hhalf)
      exact absurd hscalar (not_isScalar_of_half? hhalf)

/-- **A text of characters has no halves.** -/
theorem hasHalf_ofPoints {ns : List Nat} (h : ∀ n ∈ ns, isScalar n = true) :
    hasHalf (ofPoints ns) = false := by
  have hsmall : ∀ n ∈ ns, n < 0x110000 := fun n hn => (isScalar_iff.mp (h n hn)).1
  rw [hasHalf_eq_false_iff, ofPoints, String.toList_ofList, points_flatMap_kept hsmall]
  exact h

theorem hasHalf_ofCharacters (s : String) : hasHalf (ofCharacters s) = false := by
  refine hasHalf_ofPoints fun n hn => ?_
  obtain ⟨c, _, rfl⟩ := List.mem_map.mp hn
  exact isScalar_toNat c

/-- **No character is lost** in the text that it is kept in. -/
theorem characters_ofCharacters (s : String) : characters (ofCharacters s) = s := by
  have hsmall : ∀ n ∈ s.toList.map Char.toNat, n < 0x110000 := by
    intro n hn
    obtain ⟨c, _, rfl⟩ := List.mem_map.mp hn
    have hcode := toNat_cases c
    omega
  have hsame : Char.ofNat ∘ Char.toNat = id := funext Char.ofNat_toNat
  rw [characters, ofCharacters, ofPoints, String.toList_ofList, points_flatMap_kept hsmall,
    List.map_map, hsame, List.map_id, String.ofList_toList]

end Questbook.Text
