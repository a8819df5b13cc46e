import Questbook.Json.Reader
import Questbook.Proofs.Json.Parts
import Questbook.Proofs.Number.Size

set_option autoImplicit false

/-! # Values that can be shown

A message shows a value by its text. Only a whole number with too many digits has none, and such a
number is never read: whatever a document states can be shown (`hasText_of_readBytes`). Nor does a
value that was read convert to such a number (`Bounded.natAbs_lt_of_toWhole`): the floats are not large
enough, and the numerals in texts are limited as well.
-/

namespace Questbook.Json

open Text Numeral

/-- **Whether a value has a text,** so that it can be shown. -/
def HasText (j : Json) : Prop :=
  ∃ t, j.innerText = .ok t

variable {j : Json}

theorem hasText_str (s : String) : (Json.str s).HasText := ⟨_, rfl⟩

/-- What has a text inside another value has one on its own. -/
theorem HasText.text (h : j.HasText) : ∃ t, j.text = .ok t := by
  obtain ⟨t, ht⟩ := h
  cases j
  case str s => exact ⟨s, rfl⟩
  all_goals exact ⟨t, ht⟩

theorem hasText_int {n : Int} (h : n.natAbs < writeLimit) : (Json.int n).HasText := by
  refine ⟨toString n, ?_⟩
  rw [innerText, decimalText, if_pos h]

/-! ## Lists and objects -/

theorem exists_itemTexts_iff {xs : List Json} :
    (∃ ts, itemTexts xs = .ok ts) ↔ ∀ x ∈ xs, x.HasText := by
  induction xs with
  | nil => exact ⟨fun _ => List.forall_mem_nil _, fun _ => ⟨[], rfl⟩⟩
  | cons x xs ih =>
      rw [List.forall_mem_cons, ← ih]
      constructor
      · rintro ⟨ts, hts⟩
        rw [itemTexts] at hts
        obtain ⟨t, ht, hts⟩ := bind_eq_ok_iff.mp hts
        obtain ⟨rest, hrest, -⟩ := bind_eq_ok_iff.mp hts
        exact ⟨⟨t, ht⟩, ⟨rest, hrest⟩⟩
      · rintro ⟨⟨t, ht⟩, ⟨rest, hrest⟩⟩
        refine ⟨t :: rest, ?_⟩
        rw [itemTexts, ht, hrest]
        rfl

theorem hasText_arr_iff {xs : List Json} : (Json.arr xs).HasText ↔ ∀ x ∈ xs, x.HasText := by
  rw [← exists_itemTexts_iff]
  constructor
  · rintro ⟨t, ht⟩
    rw [innerText] at ht
    obtain ⟨ts, hts, -⟩ := bind_eq_ok_iff.mp ht
    exact ⟨ts, hts⟩
  · rintro ⟨ts, hts⟩
    unfold HasText
    rw [innerText, hts]
    exact ⟨_, rfl⟩

theorem exists_fieldTexts_iff {fs : List (String × Json)} :
    (∃ ts, fieldTexts fs = .ok ts) ↔ ∀ f ∈ fs, f.2.HasText := by
  induction fs with
  | nil => exact ⟨fun _ => List.forall_mem_nil _, fun _ => ⟨[], rfl⟩⟩
  | cons f fs ih =>
      obtain ⟨name, x⟩ := f
      rw [List.forall_mem_cons, ← ih]
      constructor
      · rintro ⟨ts, hts⟩
        rw [fieldTexts] at hts
        obtain ⟨t, ht, hts⟩ := bind_eq_ok_iff.mp hts
        obtain ⟨rest, hrest, -⟩ := bind_eq_ok_iff.mp hts
        exact ⟨⟨t, ht⟩, ⟨rest, hrest⟩⟩
      · rintro ⟨⟨t, ht⟩, ⟨rest, hrest⟩⟩
        refine ⟨(String.ofList (quoted name.toList) ++ ": " ++ t) :: rest, ?_⟩
        rw [fieldTexts, ht, hrest]
        rfl

theorem hasText_obj_iff {fs : List (String × Json)} :
    (Json.obj fs).HasText ↔ ∀ f ∈ fs, f.2.HasText := by
  rw [← exists_fieldTexts_iff]
  constructor
  · rintro ⟨t, ht⟩
    rw [innerText] at ht
    obtain ⟨ts, hts, -⟩ := bind_eq_ok_iff.mp ht
    exact ⟨ts, hts⟩
  · rintro ⟨ts, hts⟩
    unfold HasText
    rw [innerText, hts]
    exact ⟨_, rfl⟩

theorem handsDown_hasText : HandsDown HasText where
  null := ⟨_, rfl⟩
  str := hasText_str
  items := hasText_arr_iff.mp
  fields := hasText_obj_iff.mp

/-! ## Numbers that are not too long -/

/-- **Whether no number in a value is too long** to be written: neither a whole number nor the one next to a
float. -/
inductive Bounded : Json → Prop
  | null : Bounded .null
  | bool (b : Bool) : Bounded (.bool b)
  | int {n : Int} (short : n.natAbs < writeLimit) : Bounded (.int n)
  | float {x : Binary64} (short : x.IsBounded) : Bounded (.float x)
  | str (s : String) : Bounded (.str s)
  | arr {xs : List Json} (items : ∀ x ∈ xs, Bounded x) : Bounded (.arr xs)
  | obj {fs : List (String × Json)} (values : ∀ f ∈ fs, Bounded f.2) : Bounded (.obj fs)

theorem handsDown_bounded : HandsDown Bounded where
  null := .null
  str := .str
  items := by
    rintro xs (_ | _ | _ | _ | _ | hitems | _)
    exact hitems
  fields := by
    rintro fs (_ | _ | _ | _ | _ | _ | hvalues)
    exact hvalues

/-- A value without numbers that are too long can be shown. -/
theorem Bounded.hasText (h : j.Bounded) : j.HasText := by
  induction h with
  | null => exact ⟨_, rfl⟩
  | bool b => exact ⟨_, rfl⟩
  | int short => exact hasText_int short
  | float short => exact ⟨_, rfl⟩
  | str s => exact hasText_str s
  | arr items ih => exact hasText_arr_iff.mpr ih
  | obj values ih => exact hasText_obj_iff.mpr ih

/-- **What such a value converts to** is not too long either. -/
theorem Bounded.natAbs_lt_of_toWhole (h : j.Bounded) {n : Int} (hn : j.toWhole = .ok n) :
    n.natAbs < writeLimit := by
  cases h with
  | null | arr | obj => cases hn
  | bool b =>
      cases hn
      have hdigit : ∀ d < 10, (signed false (ofDigits [d])).natAbs < writeLimit := fun d hd =>
        natAbs_signed_lt false (by simpa using hd) (Nat.le_of_ble_eq_true rfl)
      cases b
      · exact hdigit 0 (by decide)
      · exact hdigit 1 (by decide)
  | int short =>
      cases hn
      exact short
  | float short => exact short.natAbs_lt hn
  | str s => exact natAbs_lt_of_readLoose hn

/-! ## Numbers that are read -/

theorem lt_ten_of_mem_spanDigits {cs : List Char} : ∀ d ∈ (spanDigits cs).1, d < 10 := by
  induction cs with
  | nil =>
      intro d hd
      cases hd
  | cons c cs ih =>
      rw [spanDigits]
      split
      · next n hn =>
        intro d hd
        rcases List.mem_cons.mp hd with rfl | hd
        · exact asciiDigitValue?_lt hn
        · exact ih d hd
      · intro d hd
        cases hd

theorem lt_ten_of_mem_readWholePart {cs : List Char} : ∀ d ∈ (readWholePart cs).1, d < 10 := by
  unfold readWholePart
  split
  · intro d hd
    obtain rfl := List.mem_singleton.mp hd
    decide
  · exact lt_ten_of_mem_spanDigits

/-- A numeral that is not too long states a number that is not. -/
theorem bounded_of_numberOf {negative : Bool} {whole fraction : List Nat} {exponent : Option Int}
    (hdigits : ∀ d ∈ whole, d < 10) (h : numberOf negative whole fraction exponent = .ok j) :
    j.Bounded := by
  unfold numberOf at h
  split at h
  · split at h
    · cases h
    · next hlength =>
      cases h
      exact .int (natAbs_signed_lt negative hdigits (Nat.le_of_not_lt hlength))
  · cases h
    exact .float (Binary64.ofDecimal_isBounded _ _ _)

theorem bounded_of_readNumber {cs rest : List Char} (h : readNumber cs = .ok (j, rest)) :
    j.Bounded := by
  unfold readNumber at h
  dsimp only at h
  split at h
  · cases h
  · next whole after _ hwhole =>
    obtain ⟨number, hnumber, hpair⟩ := map_eq_ok_iff.mp h
    cases hpair
    have hdigits : ∀ d ∈ whole, d < 10 := by
      rw [← show _ = whole from congrArg Prod.fst hwhole]
      exact lt_ten_of_mem_readWholePart
    exact bounded_of_numberOf hdigits hnumber

/-! ## Values that are read -/

theorem mem_of_mem_putField {fs : List (String × Json)} {name : String} {value : Json} :
    ∀ f ∈ putField fs name value, f.2 = value ∨ f ∈ fs := by
  induction fs with
  | nil =>
      intro f hf
      rw [List.mem_singleton.mp hf]
      exact Or.inl rfl
  | cons g fs ih =>
      intro f hf
      unfold putField at hf
      split at hf
      · rcases List.mem_cons.mp hf with rfl | hf
        · exact Or.inl rfl
        · exact Or.inr (by simp [hf])
      · rcases List.mem_cons.mp hf with rfl | hf
        · exact Or.inr (by simp)
        · rcases ih f hf with hvalue | hmem
          · exact Or.inl hvalue
          · exact Or.inr (by simp [hmem])

theorem bounded_of_mem_foldl_putField {fs acc : List (String × Json)}
    (hfs : ∀ f ∈ fs, f.2.Bounded) (hacc : ∀ f ∈ acc, f.2.Bounded) :
    ∀ f ∈ fs.foldl (fun acc f => putField acc f.1 f.2) acc, f.2.Bounded := by
  induction fs generalizing acc with
  | nil => exact hacc
  | cons g fs ih =>
      apply ih fun f hf => hfs f (by simp [hf])
      intro f hf
      rcases mem_of_mem_putField f hf with hvalue | hmem
      · rw [hvalue]
        exact hfs g (by simp)
      · exact hacc f hmem

/-- Fields keep their bounds when each name is kept once. -/
theorem bounded_of_mem_mergeFields {fs : List (String × Json)} (h : ∀ f ∈ fs, f.2.Bounded) :
    ∀ f ∈ mergeFields fs, f.2.Bounded :=
  bounded_of_mem_foldl_putField h (List.forall_mem_nil _)

/-- What the readers of values, items and fields read up to a depth is not too long. -/
structure ReadsBounded (depth : Nat) : Prop where
  value : ∀ {cs rest j}, readValue depth cs = .ok (j, rest) → j.Bounded
  items : ∀ {cs rest xs}, readItems depth cs = .ok (xs, rest) → ∀ x ∈ xs, x.Bounded
  fields : ∀ {cs rest fs}, readFields depth cs = .ok (fs, rest) → ∀ f ∈ fs, f.2.Bounded

theorem ReadsBounded.zero : ReadsBounded 0 :=
  ⟨nofun, nofun, nofun⟩

theorem ReadsBounded.value_succ {depth : Nat} (ih : ReadsBounded depth) {cs rest : List Char}
    (h : readValue (depth + 1) cs = .ok (j, rest)) : j.Bounded := by
  unfold readValue at h
  split at h
  · obtain ⟨p, -, hpair⟩ := map_eq_ok_iff.mp h
    cases hpair
    exact .str _
  · split at h
    · cases h
      exact .arr (List.forall_mem_nil _)
    · obtain ⟨p, hp, hpair⟩ := map_eq_ok_iff.mp h
      cases hpair
      exact .arr (ih.items hp)
  · split at h
    · cases h
      exact .obj (List.forall_mem_nil _)
    · obtain ⟨p, hp, hpair⟩ := map_eq_ok_iff.mp h
      cases hpair
      exact .obj (bounded_of_mem_mergeFields (ih.fields hp))
  · cases h
    exact .null
  -- the truth values
  iterate 2
    cases h
    exact .bool _
  -- the floats that have names
  iterate 3
    cases h
    refine .float fun s m e hfinite => ?_
    cases hfinite
  exact bounded_of_readNumber h

theorem ReadsBounded.items_succ {depth : Nat} (ih : ReadsBounded depth) {cs rest : List Char}
    {xs : List Json} (h : readItems (depth + 1) cs = .ok (xs, rest)) : ∀ x ∈ xs, x.Bounded := by
  unfold readItems at h
  split at h
  · cases h
  next first after hfirst =>
  have hbounded := ih.value hfirst
  split at h
  · obtain ⟨p, hp, hpair⟩ := map_eq_ok_iff.mp h
    cases hpair
    exact List.forall_mem_cons.mpr ⟨hbounded, ih.items hp⟩
  · cases h
    exact List.forall_mem_cons.mpr ⟨hbounded, List.forall_mem_nil _⟩
  · cases h

theorem ReadsBounded.fields_succ {depth : Nat} (ih : ReadsBounded depth) {cs rest : List Char}
    {fs : List (String × Json)} (h : readFields (depth + 1) cs = .ok (fs, rest)) :
    ∀ f ∈ fs, f.2.Bounded := by
  unfold readFields at h
  split at h
  · split at h
    · cases h
    split at h
    · split at h
      · cases h
      next first after hfirst =>
      have hbounded := ih.value hfirst
      split at h
      · obtain ⟨p, hp, hpair⟩ := map_eq_ok_iff.mp h
        cases hpair
        exact List.forall_mem_cons.mpr ⟨hbounded, ih.fields hp⟩
      · cases h
        exact List.forall_mem_cons.mpr ⟨hbounded, List.forall_mem_nil _⟩
      · cases h
    · cases h
  · cases h

theorem readsBounded (depth : Nat) : ReadsBounded depth := by
  induction depth with
  | zero => exact .zero
  | succ depth ih => exact ⟨ih.value_succ, ih.items_succ, ih.fields_succ⟩

/-- **No number that a document states is too long.** -/
theorem bounded_of_readBytes {bytes : ByteArray} (h : readBytes bytes = .ok j) : j.Bounded := by
  unfold readBytes at h
  split at h
  · unfold Json.read readChars at h
    split at h
    · cases h
    · next value rest hvalue =>
      split at h
      · cases h
        exact (readsBounded _).value hvalue
      · cases h
  · cases h

/-- **Whatever a document states can be shown.** -/
theorem hasText_of_readBytes {bytes : ByteArray} (h : readBytes bytes = .ok j) : j.HasText :=
  (bounded_of_readBytes h).hasText

end Questbook.Json
