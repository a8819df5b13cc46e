import Questbook.Proofs.Outcome
import Questbook.Proofs.Token.Numeral

set_option autoImplicit false

/-! # Which texts are numerals

A plain numeral is an optional sign and ASCII digits, with blanks around them (`HasDigits`). The
reader takes every numeral of at most `maxDigits` digits (`IsShort`), has a fault for every longer
one (`IsOverlong`), and takes no other text for a numeral (`reads_parsePlain?`).

`Reads` states this of a reader of any kind. It holds of a reader that goes through another one when
it holds of that (`Reads.map`), so the fault for a long numeral is followed from the digits to the
token.
-/

namespace Questbook

open Text

/-! ## Readers -/

section Readers

variable {α β : Type} {good : α → Prop} {good' : β → Prop} {x : Except Fault α} {long ok p : Prop}

/-- **What a reader makes of a text:** the fault for a long numeral exactly in the case `long`, and a
good result exactly in the case `ok`. -/
structure Reads (good : α → Prop) (x : Except Fault α) (long ok : Prop) : Prop where
  error_iff : ∀ f, x = .error f ↔ f = .longNumeral ∧ long
  good_iff : (∃ a, x = .ok a ∧ good a) ↔ ok

theorem Reads.of_ok (a : α) : Reads good (.ok a) False (good a) := by
  refine ⟨?_, ?_⟩
  · intro f
    constructor
    · intro h
      cases h
    · rintro ⟨-, h⟩
      exact h.elim
  · constructor
    · rintro ⟨b, hb, hgood⟩
      cases hb
      exact hgood
    · intro h
      exact ⟨a, rfl, h⟩

/-- A result that is made from one that was read is good when that is and `p` holds. -/
theorem Reads.map {g : α → β} (h : Reads good x long ok) (hg : ∀ a, good' (g a) ↔ good a ∧ p) :
    Reads good' (x.map g) long (ok ∧ p) := by
  refine ⟨?_, ?_⟩
  · intro f
    rw [← h.error_iff f]
    cases x with
    | error e =>
        constructor <;> intro he <;> cases he <;> rfl
    | ok a =>
        constructor <;> intro he <;> cases he
  · constructor
    · rintro ⟨b, hb, hgood⟩
      obtain ⟨a, ha, rfl⟩ := map_eq_ok_iff.mp hb
      obtain ⟨hga, hp⟩ := (hg a).mp hgood
      exact ⟨h.good_iff.mp ⟨a, ha, hga⟩, hp⟩
    · rintro ⟨hok, hp⟩
      obtain ⟨a, ha, hga⟩ := h.good_iff.mpr hok
      exact ⟨g a, map_eq_ok_iff.mpr ⟨a, ha, rfl⟩, (hg a).mpr ⟨hga, hp⟩⟩

theorem Reads.congr {long' ok' : Prop} (h : Reads good x long ok) (hl : long ↔ long')
    (ho : ok ↔ ok') : Reads good x long' ok' := by
  rw [← propext hl, ← propext ho]
  exact h

/-- A text without a long numeral is read. -/
theorem Reads.exists_of_not_long (h : Reads good x long ok) (hl : ¬ long) :
    ∃ a, x = .ok a ∧ (good a ↔ ok) := by
  cases x with
  | error f => exact absurd ((h.error_iff f).mp rfl).2 hl
  | ok a =>
      refine ⟨a, rfl, ?_, ?_⟩
      · intro hga
        exact h.good_iff.mp ⟨a, rfl, hga⟩
      · intro hok
        obtain ⟨b, hb, hgb⟩ := h.good_iff.mpr hok
        cases hb
        exact hgb

/-- A text has no long numeral exactly if it is read. -/
theorem Reads.not_long_iff (h : Reads good x long ok) : ¬ long ↔ x.toBool = true := by
  constructor
  · intro hl
    obtain ⟨a, rfl, -⟩ := h.exists_of_not_long hl
    rfl
  · intro hread hl
    rw [(h.error_iff .longNumeral).mpr ⟨rfl, hl⟩] at hread
    cases hread

end Readers

/-- An optional result that is there. -/
def IsRead {α : Type} (o : Option α) : Prop := o.isSome = true

namespace Numeral

/-! ## Digits -/

/-- **A plain numeral** with the digits `ds`: blanks around an optional sign and digits of ASCII. -/
structure HasDigits (cs ds : List Char) : Prop where
  nonempty : ds ≠ []
  digits : ∀ c ∈ ds, c.isDigit = true
  signed : Padded ds cs ∨ Padded ('+' :: ds) cs ∨ Padded ('-' :: ds) cs

/-- **An optionally signed integer.** -/
def IsInteger (cs : List Char) : Prop := ∃ ds, HasDigits cs ds

/-- An integer with no more digits than a numeral may have. -/
def IsShort (cs : List Char) : Prop := ∃ ds, HasDigits cs ds ∧ ds.length ≤ maxDigits

/-- **An integer with too many digits.** -/
def IsOverlong (cs : List Char) : Prop := ∃ ds, HasDigits cs ds ∧ maxDigits < ds.length

theorem isDigit_of_asciiDigitValue? {c : Char} {d : Nat} (h : asciiDigitValue? c = some d) :
    c.isDigit = true := by
  unfold asciiDigitValue? at h
  split at h
  · next hc =>
    simp only [Char.isDigit, Bool.and_eq_true, decide_eq_true_eq, ge_iff_le,
      UInt32.le_iff_toNat_le]
    exact hc
  · cases h

/-- The texts that are read as digits. -/
theorem plainDigits?_eq_some_iff {cs : List Char} {ns : List Nat} :
    plainDigits? cs = some ns ↔
      cs ≠ [] ∧ (∀ c ∈ cs, c.isDigit = true) ∧ ns = cs.map fun c => c.toNat - 48 := by
  constructor
  · intro h
    have hne : cs ≠ [] := by
      rintro rfl
      cases h
    have hdigits : ∀ c ∈ cs, c.isDigit = true := by
      intro c hc
      obtain ⟨d, hd⟩ := Option.ne_none_iff_exists'.mp (asciiDigitValue?_ne_none_of_mem h c hc)
      exact isDigit_of_asciiDigitValue? hd
    rw [plainDigits?_of_isDigit hne hdigits] at h
    exact ⟨hne, hdigits, (Option.some.inj h).symm⟩
  · rintro ⟨hne, hdigits, rfl⟩
    exact plainDigits?_of_isDigit hne hdigits

theorem cutSign_of_isDigit {ds : List Char} (h : ∀ c ∈ ds, c.isDigit = true) :
    cutSign ds = (false, ds) := by
  unfold cutSign
  split
  · exact absurd (h '+' (by simp)) (by decide)
  · exact absurd (h '-' (by simp)) (by decide)
  · rfl

/-- The digits of a numeral are what is left of it without blanks and sign. -/
theorem hasDigits_iff {cs ds : List Char} :
    HasDigits cs ds ↔
      ds ≠ [] ∧ (∀ c ∈ ds, c.isDigit = true) ∧ (cutSign (trimChars cs)).2 = ds := by
  constructor
  · rintro ⟨hne, hdigits, hsigned⟩
    refine ⟨hne, hdigits, ?_⟩
    have hblank : ∀ c ∈ ds, isBlankChar c = false := fun c hc => not_blank_of_isDigit (hdigits c hc)
    have htrim : ∀ s : Char, isBlankChar s = false → Trimmed (s :: ds) := by
      intro s hs
      refine trimmed_of_forall_not_blank fun c hc => ?_
      rcases List.mem_cons.mp hc with rfl | hc
      · exact hs
      · exact hblank c hc
    rcases hsigned with hp | hp | hp
    · rw [(trimmed_of_forall_not_blank hblank).trimChars_of_padded hp, cutSign_of_isDigit hdigits]
    · rw [(htrim '+' (by decide)).trimChars_of_padded hp]
      rfl
    · rw [(htrim '-' (by decide)).trimChars_of_padded hp]
      rfl
  · rintro ⟨hne, hdigits, hcut⟩
    refine ⟨hne, hdigits, ?_⟩
    have hpad := padded_trimChars cs
    unfold cutSign at hcut
    split at hcut
    · next heq =>
      rw [heq] at hpad
      exact Or.inr (Or.inl (hcut ▸ hpad))
    · next heq =>
      rw [heq] at hpad
      exact Or.inr (Or.inr (hcut ▸ hpad))
    · exact Or.inl (hcut ▸ hpad)

/-- A numeral has one list of digits. -/
theorem HasDigits.unique {cs ds es : List Char} (hd : HasDigits cs ds) (he : HasDigits cs es) :
    ds = es :=
  (hasDigits_iff.mp hd).2.2.symm.trans (hasDigits_iff.mp he).2.2

theorem IsOverlong.isInteger {cs : List Char} (h : IsOverlong cs) : IsInteger cs :=
  h.imp fun _ hd => hd.1

theorem IsShort.isInteger {cs : List Char} (h : IsShort cs) : IsInteger cs :=
  h.imp fun _ hd => hd.1

theorem isShort_iff {cs : List Char} : IsShort cs ↔ IsInteger cs ∧ ¬ IsOverlong cs := by
  constructor
  · rintro ⟨ds, hd, hlen⟩
    refine ⟨⟨ds, hd⟩, ?_⟩
    rintro ⟨es, he, hlong⟩
    rw [he.unique hd] at hlong
    omega
  · rintro ⟨⟨ds, hd⟩, hnot⟩
    exact ⟨ds, hd, Nat.le_of_not_lt fun hlen => hnot ⟨ds, hd, hlen⟩⟩

theorem IsInteger.isShort_or_isOverlong {cs : List Char} (h : IsInteger cs) :
    IsShort cs ∨ IsOverlong cs := by
  obtain ⟨ds, hd⟩ := h
  rcases Nat.lt_or_ge maxDigits ds.length with hlen | hlen
  · exact Or.inr ⟨ds, hd, hlen⟩
  · exact Or.inl ⟨ds, hd, hlen⟩

/-- A numeral consists of blanks, a sign and digits. -/
theorem HasDigits.mem {cs ds : List Char} (h : HasDigits cs ds) {c : Char} (hc : c ∈ cs)
    (hb : isBlankChar c = false) : c = '+' ∨ c = '-' ∨ c.isDigit = true := by
  rcases h.signed with hp | hp | hp
  · exact Or.inr (Or.inr (h.digits c ((mem_padded_iff hp hb).mp hc)))
  · rcases List.mem_cons.mp ((mem_padded_iff hp hb).mp hc) with rfl | hm
    · exact Or.inl rfl
    · exact Or.inr (Or.inr (h.digits c hm))
  · rcases List.mem_cons.mp ((mem_padded_iff hp hb).mp hc) with rfl | hm
    · exact Or.inr (Or.inl rfl)
    · exact Or.inr (Or.inr (h.digits c hm))

/-- No separator of a token stands in a numeral. -/
theorem IsInteger.notMem {cs : List Char} (h : IsInteger cs) {c : Char}
    (hb : isBlankChar c = false) (hp : c ≠ '+') (hm : c ≠ '-') (hd : c.isDigit = false) :
    c ∉ cs := by
  intro hc
  obtain ⟨ds, hds⟩ := h
  rcases hds.mem hc hb with h | h | h
  · exact hp h
  · exact hm h
  · rw [h] at hd
    cases hd

/-- Blanks around a text do not decide whether it is a numeral. -/
theorem hasDigits_trimChars {cs ds : List Char} : HasDigits (trimChars cs) ds ↔ HasDigits cs ds := by
  rw [hasDigits_iff, hasDigits_iff, trimChars_trimChars]

/-! ## The reader of numerals -/

theorem parsePlain?_of_hasDigits {cs ds : List Char} (h : HasDigits cs ds) :
    parsePlain? cs =
      (valueOf (cutSign (trimChars cs)).1 (ds.map fun c => c.toNat - 48)).map some := by
  obtain ⟨hne, hdigits, hcut⟩ := hasDigits_iff.mp h
  rw [parsePlain?_eq, hcut, plainDigits?_of_isDigit hne hdigits]

theorem parsePlain?_of_isOverlong {cs : List Char} (h : IsOverlong cs) :
    parsePlain? cs = .error .longNumeral := by
  obtain ⟨ds, hd, hlen⟩ := h
  rw [parsePlain?_of_hasDigits hd, valueOf, if_pos (by rwa [List.length_map])]
  rfl

theorem exists_parsePlain?_of_isShort {cs : List Char} (h : IsShort cs) :
    ∃ n, parsePlain? cs = .ok (some n) := by
  obtain ⟨ds, hd, hlen⟩ := h
  rw [parsePlain?_of_hasDigits hd, valueOf, if_neg (by rw [List.length_map]; omega)]
  exact ⟨_, rfl⟩

theorem parsePlain?_of_not_isInteger {cs : List Char} (h : ¬ IsInteger cs) :
    parsePlain? cs = .ok none := by
  rw [parsePlain?_eq]
  split
  · rfl
  · next ns hns =>
    obtain ⟨hne, hdigits, -⟩ := plainDigits?_eq_some_iff.mp hns
    exact absurd ⟨_, hasDigits_iff.mpr ⟨hne, hdigits, rfl⟩⟩ h

/-- **What the reader of numerals makes of a text.** -/
theorem reads_parsePlain? (cs : List Char) :
    Reads IsRead (parsePlain? cs) (IsOverlong cs) (IsShort cs) := by
  by_cases hint : IsInteger cs
  · by_cases hlong : IsOverlong cs
    · rw [parsePlain?_of_isOverlong hlong]
      refine ⟨?_, ?_⟩
      · intro f
        simp [hlong, eq_comm]
      · simp [isShort_iff, hlong]
    · have hshort : IsShort cs := isShort_iff.mpr ⟨hint, hlong⟩
      obtain ⟨n, hn⟩ := exists_parsePlain?_of_isShort hshort
      rw [hn]
      exact (Reads.of_ok (some n)).congr (by simp [hlong]) (by simp [IsRead, hshort])
  · have hlong : ¬ IsOverlong cs := fun h => hint h.isInteger
    rw [parsePlain?_of_not_isInteger hint]
    exact (Reads.of_ok none).congr (by simp [hlong]) (by simp [IsRead, isShort_iff, hint])

end Numeral

end Questbook
