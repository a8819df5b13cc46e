import Mathlib.Data.List.Infix
import Questbook.Proofs.Token.Acceptance
import Questbook.Proofs.Token.RoundTrip

set_option autoImplicit false

/-! # The forms of thresholds

A threshold is a name and a minimum with a separator between them, `>=` or a colon. Either separator
may stand in the name as well, but no text is a threshold with both: the separator of one form would
stand in the number of the other (`Separator.eq_of_form`). So it does not matter which form is tried
first (`readFirst_eq_read`).

How a threshold is spelled does not matter either. Blanks around the name and the number do not count,
and a number may be written with zeros in front of its digits and, if it is not negative, with a plus
sign. These are all the texts that are read as this number (`Numeral.parsePlain?_eq_some_iff`).
-/

namespace Questbook

open Text

/-! ## Ways to write a number -/

namespace Numeral

/-- The digits of a number with zeros in front of them. -/
def zeroed (zeros n : Nat) : List Char :=
  List.replicate zeros '0' ++ Nat.toDigits 10 n

/-- **The ways to write a number.** Zeros may stand in front of its digits, and a plus sign in front of
these. -/
inductive Writes : Int → List Char → Prop
  | unsigned (zeros n : Nat) : Writes n (zeroed zeros n)
  | plus (zeros n : Nat) : Writes n ('+' :: zeroed zeros n)
  | minus (zeros n : Nat) : Writes (-n) ('-' :: zeroed zeros n)

/-- **Whether a text states a number:** with blanks around a way to write it, which has not too many
digits. -/
structure States (n : Int) (cs : List Char) : Prop where
  short : IsShort cs
  written : ∃ w, Writes n w ∧ Padded w cs

theorem isDigit_of_mem_zeroed {zeros n : Nat} {c : Char} (h : c ∈ zeroed zeros n) :
    c.isDigit = true := by
  rcases List.mem_append.mp h with h | h
  · rw [List.eq_of_mem_replicate h]
    rfl
  · exact Nat.isDigit_of_mem_toDigits (by decide) (by decide) h

/-- Zeros in front of the digits do not count. -/
theorem ofDigitChars_zeroed (zeros n : Nat) : Nat.ofDigitChars 10 (zeroed zeros n) 0 = n := by
  unfold zeroed
  rw [Nat.ofDigitChars_append, Nat.ofDigitChars_replicate_zero, Nat.mul_zero,
    Nat.ofDigitChars_ten_toDigits]

theorem toDigits_of_isDigit {c : Char} (h : c.isDigit = true) :
    Nat.toDigits 10 (c.toNat - 48) = [c] := by
  obtain ⟨hlow, hhigh⟩ := toNat_of_isDigit h
  rw [Nat.toDigits_of_lt_base (by omega)]
  have hall : ∀ d < 10, (Nat.digitChar d).toNat = d + 48 := by decide
  have hcode := hall (c.toNat - 48) (by omega)
  rw [List.singleton_inj, ← Char.toNat_inj]
  omega

/-- **Digits are those of their number with zeros in front.** -/
theorem exists_zeroed {ds : List Char} (hne : ds ≠ []) (h : ∀ c ∈ ds, c.isDigit = true) :
    ∃ zeros, ds = zeroed zeros (Nat.ofDigitChars 10 ds 0) := by
  -- from the first digit to the last one, as a digit behind the others leaves the zeros where they are
  induction ds using List.reverseRecOn with
  | nil => exact absurd rfl hne
  | append_singleton ds c ih =>
      have hdigit := toDigits_of_isDigit (h c (by simp))
      obtain ⟨hlow, hhigh⟩ := toNat_of_isDigit (h c (by simp))
      have hvalue : Nat.ofDigitChars 10 (ds ++ [c]) 0 =
          10 * Nat.ofDigitChars 10 ds 0 + (c.toNat - 48) := by
        rw [Nat.ofDigitChars_append, Nat.ofDigitChars_cons]
        rfl
      rw [hvalue]
      by_cases hds : ds = []
      · refine ⟨0, ?_⟩
        rw [hds, zeroed, Nat.ofDigitChars_nil, Nat.mul_zero, Nat.zero_add, hdigit]
        rfl
      · obtain ⟨zeros, hzeros⟩ := ih hds fun d hd => h d (by simp [hd])
        generalize Nat.ofDigitChars 10 ds 0 = m at hzeros
        rcases Nat.eq_zero_or_pos m with rfl | hm
        · -- all digits so far are zeros
          refine ⟨zeros + 1, ?_⟩
          unfold zeroed at hzeros ⊢
          rw [hzeros, Nat.mul_zero, Nat.zero_add, hdigit, List.replicate_succ']
          rfl
        · refine ⟨zeros, ?_⟩
          unfold zeroed at hzeros ⊢
          rw [← Nat.toDigits_append_toDigits (by decide) hm (by omega), hdigit, hzeros,
            List.append_assoc]

/-- A way to write a number is a sign and its digits with zeros in front. -/
theorem writes_iff {n : Int} {w : List Char} :
    Writes n w ↔ ∃ negative zeros m, cutSign w = (negative, zeroed zeros m) ∧
      n = signed negative m := by
  constructor
  · intro h
    cases h with
    | unsigned zeros m =>
        exact ⟨false, zeros, m, cutSign_of_isDigit fun _ => isDigit_of_mem_zeroed, rfl⟩
    | plus zeros m => exact ⟨false, zeros, m, rfl, rfl⟩
    | minus zeros m => exact ⟨true, zeros, m, rfl, rfl⟩
  · rintro ⟨negative, zeros, m, hcut, rfl⟩
    unfold cutSign at hcut
    split at hcut
    · obtain ⟨rfl, rfl⟩ := Prod.mk.inj hcut
      exact .plus zeros m
    · obtain ⟨rfl, rfl⟩ := Prod.mk.inj hcut
      exact .minus zeros m
    · obtain ⟨rfl, rfl⟩ := Prod.mk.inj hcut
      exact .unsigned zeros m

theorem Writes.trimmed {n : Int} {w : List Char} (h : Writes n w) : Trimmed w := by
  have hdigit : ∀ zeros m, ∀ c ∈ zeroed zeros m, isBlankChar c = false :=
    fun _ _ _ hc => not_blank_of_isDigit (isDigit_of_mem_zeroed hc)
  refine trimmed_of_forall_not_blank ?_
  cases h with
  | unsigned zeros m => exact hdigit zeros m
  | plus zeros m => exact List.forall_mem_cons.mpr ⟨by decide, hdigit zeros m⟩
  | minus zeros m => exact List.forall_mem_cons.mpr ⟨by decide, hdigit zeros m⟩

theorem states_iff {n : Int} {cs : List Char} :
    States n cs ↔ IsShort cs ∧ Writes n (trimChars cs) := by
  constructor
  · rintro ⟨hshort, w, hw, hpad⟩
    rw [hw.trimmed.trimChars_of_padded hpad]
    exact ⟨hshort, hw⟩
  · rintro ⟨hshort, hw⟩
    exact ⟨hshort, _, hw, padded_trimChars cs⟩

/-- **A text is read as a number exactly if it states it.** -/
theorem parsePlain?_eq_some_iff {cs : List Char} {n : Int} :
    parsePlain? cs = .ok (some n) ↔ States n cs := by
  rw [states_iff, writes_iff]
  constructor
  · intro h
    have hshort : IsShort cs := (reads_parsePlain? cs).good_iff.mp ⟨some n, h, rfl⟩
    obtain ⟨ns, hns, -, rfl⟩ := digits_of_parsePlain? h
    obtain ⟨hne, hdigits, rfl⟩ := plainDigits?_eq_some_iff.mp hns
    obtain ⟨zeros, hzeros⟩ := exists_zeroed hne hdigits
    rw [ofDigits_map_sub]
    exact ⟨hshort, _, zeros, _, Prod.ext rfl hzeros, rfl⟩
  · rintro ⟨⟨ds, hds, hlength⟩, negative, zeros, m, hcut, rfl⟩
    have hdigits : ds = zeroed zeros m := by
      rw [← (hasDigits_iff.mp hds).2.2, hcut]
    rw [parsePlain?_of_hasDigits hds, valueOf, if_neg (by rw [List.length_map]; omega),
      ofDigits_map_sub, hdigits, ofDigitChars_zeroed, hcut]
    rfl

end Numeral

open Numeral

/-! ## The two forms -/

/-- **What stands between the name and the minimum of a threshold.** -/
inductive Separator
  | atLeast
  | colon
  deriving DecidableEq, Repr

namespace Separator

/-- The text of a separator. -/
def chars : Separator → List Char
  | atLeast => ['>', '=']
  | colon => [':']

/-- The pieces of a text between the occurrences of a separator. -/
def cut : Separator → List Char → List (List Char)
  | atLeast => splitAtLeast
  | colon => Text.splitAt ':'

/-- **Reads a threshold in the form with a separator.** -/
def read (sep : Separator) (value : List Char) : Except Fault (Option (String × Int)) :=
  nameAndNumber ((sep.cut value).map trimChars)

/-- Whether a text has the form with a separator: a name and a numeral with the only one of the text
between them. -/
def Form : Separator → (List Char → Prop) → List Char → Prop
  | atLeast => AtLeastForm
  | colon => ColonForm

/-- Whether a separator stands in a text. -/
def StandsIn (sep : Separator) (cs : List Char) : Prop := sep.chars <:+: cs

variable {sep other : Separator} {value name number : List Char}

theorem standsIn_colon_iff {cs : List Char} : colon.StandsIn cs ↔ ':' ∈ cs :=
  List.singleton_infix_iff ..

/-- Blanks around a text bring no separator into it. -/
theorem standsIn_iff_of_padded {cs w : List Char} (h : Padded cs w) :
    sep.StandsIn w ↔ sep.StandsIn cs := by
  cases sep with
  | atLeast => exact holdsAtLeast_iff_of_padded h
  | colon =>
      rw [standsIn_colon_iff, standsIn_colon_iff]
      exact mem_padded_iff h (by decide)

/-- No separator stands in an integer. -/
theorem not_standsIn_of_isInteger (sep : Separator) (h : IsInteger number) :
    ¬ sep.StandsIn number := by
  cases sep with
  | atLeast =>
      intro hs
      have hsign : '>' ∉ number := h.notMem (by decide) (by decide) (by decide) (by decide)
      exact hsign (hs.subset (by simp [chars]))
  | colon =>
      rw [standsIn_colon_iff]
      exact h.notMem (by decide) (by decide) (by decide) (by decide)

/-- The two pieces of a text that is cut at its only separator. -/
theorem cut_eq_pair_iff :
    sep.cut value = [name, number] ↔
      value = name ++ sep.chars ++ number ∧ ¬ sep.StandsIn name ∧ ¬ sep.StandsIn number := by
  cases sep with
  | atLeast =>
      have hchars : name ++ atLeast.chars ++ number = name ++ '>' :: '=' :: number := by simp [chars]
      rw [hchars]
      exact splitAtLeast_eq_pair_iff
  | colon =>
      have hchars : name ++ colon.chars ++ number = name ++ ':' :: number := by simp [chars]
      rw [hchars, standsIn_colon_iff, standsIn_colon_iff]
      exact splitAt_eq_pair_iff

/-- **What the reader of a form makes of a text.** -/
theorem reads_read (sep : Separator) (value : List Char) :
    Reads IsRead (sep.read value) (sep.Form IsOverlong value) (sep.Form IsShort value) := by
  cases sep with
  | atLeast => exact reads_atLeast value
  | colon => exact reads_colon value

theorem exists_read_iff :
    (∃ t, sep.read value = .ok (some t)) ↔ sep.Form IsShort value := by
  rw [← (reads_read sep value).good_iff]
  constructor
  · rintro ⟨t, ht⟩
    exact ⟨some t, ht, rfl⟩
  · rintro ⟨o, ho, hread⟩
    obtain ⟨t, rfl⟩ := Option.isSome_iff_exists.mp hread
    exact ⟨t, ho⟩

theorem Form.imp {num num' : List Char → Prop} (hnum : ∀ cs, num cs → num' cs)
    (h : sep.Form num value) : sep.Form num' value := by
  cases sep with
  | atLeast => exact AtLeastForm.imp hnum h
  | colon => exact ColonForm.imp hnum h

/-- **No text has both forms.** -/
theorem eq_of_form (h : sep.Form IsInteger value) (hother : other.Form IsInteger value) :
    sep = other := by
  have hnot := not_atLeastForm_and_colonForm value
  cases sep with
  | atLeast =>
      cases other with
      | atLeast => rfl
      | colon => exact absurd ⟨h, hother⟩ hnot
  | colon =>
      cases other with
      | atLeast => exact absurd ⟨hother, h⟩ hnot
      | colon => rfl

theorem form_of_read {t : String × Int} (h : sep.read value = .ok (some t)) :
    sep.Form IsInteger value :=
  (exists_read_iff.mp ⟨t, h⟩).imp fun _ hs => hs.isInteger

/-- Nothing is read in a form that the text does not have. -/
theorem read_of_not_form (h : ¬ sep.Form IsInteger value) : sep.read value = .ok none := by
  have hlong : ¬ sep.Form IsOverlong value := fun hl => h (hl.imp fun _ hi => hi.isInteger)
  obtain ⟨o, ho, -⟩ := (reads_read sep value).exists_of_not_long hlong
  cases o with
  | none => exact ho
  | some t => exact absurd (form_of_read ho) h

/-- Something is read in a form that the text has, or its number is too long. -/
theorem read_ne_none_of_form (h : sep.Form IsInteger value) : sep.read value ≠ .ok none := by
  intro hnone
  have hreads := reads_read sep value
  have hnum : sep.Form IsShort value ∨ sep.Form IsOverlong value := by
    cases sep with
    | atLeast => exact AtLeastForm.or (fun _ hi => hi.isShort_or_isOverlong) h
    | colon => exact ColonForm.or (fun _ hi => hi.isShort_or_isOverlong) h
  rcases hnum with hshort | hlong
  · obtain ⟨t, ht⟩ := exists_read_iff.mpr hshort
    rw [hnone] at ht
    cases ht
  · have herror := (hreads.error_iff .longNumeral).mpr ⟨rfl, hlong⟩
    rw [hnone] at herror
    cases herror

end Separator

/-! ## The order of the forms -/

/-- **Reads a threshold in the first of some forms that the text has.** -/
def readFirst : List Separator → List Char → Except Fault (Option (String × Int))
  | [], _ => .ok none
  | sep :: seps, value => do
    match ← sep.read value with
    | some t => pure (some t)
    | none => readFirst seps value

variable {sep : Separator} {seps : List Separator} {value : List Char}

theorem readFirst_cons_of_not_form (h : ¬ sep.Form IsInteger value) :
    readFirst (sep :: seps) value = readFirst seps value := by
  rw [readFirst, Separator.read_of_not_form h]
  rfl

theorem readFirst_cons_of_form (h : sep.Form IsInteger value) :
    readFirst (sep :: seps) value = sep.read value := by
  have hne := Separator.read_ne_none_of_form h
  rw [readFirst]
  cases hread : sep.read value with
  | error f => rfl
  | ok o =>
      cases o with
      | none => exact absurd hread hne
      | some t => rfl

/-- **The form that a text has is the one that is read,** wherever it stands among the forms that are
tried. -/
theorem readFirst_eq_read (h : sep.Form IsInteger value) (hmem : sep ∈ seps) :
    readFirst seps value = sep.read value := by
  induction seps with
  | nil => cases hmem
  | cons first seps ih =>
      by_cases hfirst : first.Form IsInteger value
      · rw [readFirst_cons_of_form hfirst, Separator.eq_of_form hfirst h]
      · have hne : sep ≠ first := fun heq => hfirst (heq ▸ h)
        rw [readFirst_cons_of_not_form hfirst, ih (List.mem_of_ne_of_mem hne hmem)]

theorem readFirst_of_no_form (h : ∀ sep : Separator, ¬ sep.Form IsInteger value) :
    readFirst seps value = .ok none := by
  induction seps with
  | nil => rfl
  | cons first seps ih => rw [readFirst_cons_of_not_form (h first), ih]

/-- The reader of thresholds tries the form with `>=` first. -/
theorem readThreshold_eq_readFirst (value : List Char) :
    readThreshold value = readFirst [.atLeast, .colon] value := by
  have hlast : readFirst [.colon] value = nameAndNumber (allFields value) := by
    show (nameAndNumber (allFields value) >>= fun o => match o with
      | some t => pure (some t)
      | none => .ok none) = _
    cases nameAndNumber (allFields value) with
    | error f => rfl
    | ok o => cases o <;> rfl
  unfold readThreshold
  rw [readFirst, hlast]
  rfl

/-- **The order of the forms does not matter,** as long as none is left out. -/
theorem readFirst_eq_readThreshold (h : ∀ sep, sep ∈ seps) (value : List Char) :
    readFirst seps value = readThreshold value := by
  have hboth : ∀ sep : Separator, sep ∈ [Separator.atLeast, .colon] := by
    intro sep
    cases sep <;> decide
  rw [readThreshold_eq_readFirst]
  by_cases hform : ∃ sep : Separator, sep.Form IsInteger value
  · obtain ⟨sep, hsep⟩ := hform
    rw [readFirst_eq_read hsep (h sep), readFirst_eq_read hsep (hboth sep)]
  · rw [not_exists] at hform
    rw [readFirst_of_no_form hform, readFirst_of_no_form hform]

/-- **A threshold is what is read in one of the forms.** -/
theorem readThreshold_eq_some_iff {t : String × Int} :
    readThreshold value = .ok (some t) ↔ ∃ sep : Separator, sep.read value = .ok (some t) := by
  have heq : ∀ {sep : Separator}, sep.Form IsInteger value →
      readThreshold value = sep.read value := by
    intro sep hsep
    rw [← @readFirst_eq_readThreshold [sep, .atLeast, .colon] (by intro s; cases s <;> simp),
      readFirst_cons_of_form hsep]
  constructor
  · intro h
    have hform : ∃ sep : Separator, sep.Form IsInteger value := by
      by_contra hno
      rw [not_exists] at hno
      rw [readThreshold_eq_readFirst, readFirst_of_no_form hno] at h
      cases h
    obtain ⟨sep, hsep⟩ := hform
    exact ⟨sep, (heq hsep).symm.trans h⟩
  · rintro ⟨sep, hsep⟩
    exact (heq (Separator.form_of_read hsep)).trans hsep

/-! ## Respelled thresholds -/

theorem nameAndNumber_eq_some_iff {parts : List (List Char)} {name : String} {n : Int} :
    nameAndNumber (parts.map trimChars) = .ok (some (name, n)) ↔
      ∃ a b, parts = [a, b] ∧ NotBlank a ∧ trimChars a = name.toList ∧ States n b := by
  have hstates : ∀ b, parsePlain? (trimChars b) = .ok (some n) ↔ States n b := by
    intro b
    rw [← parsePlain?_of_padded (padded_trimChars b), parsePlain?_eq_some_iff]
  constructor
  · intro h
    match parts with
    | [] => cases h
    | [_] => cases h
    | _ :: _ :: _ :: _ => cases h
    | [a, b] =>
        rw [List.map_cons, List.map_singleton, nameAndNumber] at h
        split at h
        · cases h
        · next hname =>
          obtain ⟨o, ho, h⟩ := map_eq_ok_iff.mp h
          obtain ⟨m, rfl, hpair⟩ := Option.map_eq_some_iff.mp h
          obtain ⟨rfl, rfl⟩ := Prod.mk.inj hpair
          exact ⟨a, b, rfl, mt isEmpty_trimChars.mpr hname, String.toList_ofList.symm,
            (hstates b).mp ho⟩
  · rintro ⟨a, b, rfl, hname, htrim, hnumber⟩
    rw [List.map_cons, List.map_singleton, nameAndNumber, if_neg (mt isEmpty_trimChars.mp hname),
      (hstates b).mpr hnumber, htrim, String.ofList_toList]
    rfl

namespace Separator

variable {name : String} {n : Int}

/-- **What is read in a form is what the pieces of the text state.** -/
theorem read_eq_some_iff :
    sep.read value = .ok (some (name, n)) ↔ ∃ a b, value = a ++ sep.chars ++ b ∧
      ¬ sep.StandsIn a ∧ NotBlank a ∧ trimChars a = name.toList ∧ States n b := by
  unfold read
  rw [nameAndNumber_eq_some_iff]
  constructor
  · rintro ⟨a, b, hcut, hname, htrim, hnumber⟩
    obtain ⟨hvalue, ha, -⟩ := cut_eq_pair_iff.mp hcut
    exact ⟨a, b, hvalue, ha, hname, htrim, hnumber⟩
  · rintro ⟨a, b, hvalue, ha, hname, htrim, hnumber⟩
    have hb := sep.not_standsIn_of_isInteger hnumber.short.isInteger
    exact ⟨a, b, cut_eq_pair_iff.mpr ⟨hvalue, ha, hb⟩, hname, htrim, hnumber⟩

/-- **A threshold is read from every spelling** of its name and its number. -/
theorem read_of_respelled (h : sep.read value = .ok (some (name, n))) {a b : List Char}
    (ha : Padded name.toList a) (hb : States n b) :
    sep.read (a ++ sep.chars ++ b) = .ok (some (name, n)) := by
  obtain ⟨a₀, -, -, hstands, hname, htrim, -⟩ := read_eq_some_iff.mp h
  have hpad : Padded name.toList a₀ := htrim ▸ padded_trimChars a₀
  have hsame : trimChars a = trimChars a₀ := by
    rw [trimChars_of_padded ha, trimChars_of_padded hpad]
  refine read_eq_some_iff.mpr ⟨a, b, rfl, ?_, ?_, hsame.trans htrim, hb⟩
  · rw [standsIn_iff_of_padded ha, ← standsIn_iff_of_padded hpad]
    exact hstands
  · rw [← trimChars_ne_nil_iff, hsame, trimChars_ne_nil_iff]
    exact hname

end Separator

/-! ## Thresholds have one form -/

/-- **The two forms of a threshold never compete.** A text is read in a form exactly if it has it, and
in one form at most, so that the forms can be tried in any order. The threshold that is read stays the
same when other blanks are put around the name, and when the number is written in another way. -/
theorem threshold_forms_never_compete (value : List Char) :
    (∀ sep : Separator, (∃ t, sep.read value = .ok (some t)) ↔ sep.Form IsShort value) ∧
    (∀ (sep other : Separator) t u, sep.read value = .ok (some t) →
      other.read value = .ok (some u) → sep = other) ∧
    (∀ seps : List Separator, (∀ sep, sep ∈ seps) → readFirst seps value = readThreshold value) ∧
    (∀ t, readThreshold value = .ok (some t) ↔
      ∃ sep : Separator, sep.read value = .ok (some t)) ∧
    ∀ (sep : Separator) name n, sep.read value = .ok (some (name, n)) →
      (∃ a b, value = a ++ sep.chars ++ b ∧ Padded name.toList a ∧ States n b) ∧
      ∀ a b, Padded name.toList a → States n b →
        readThreshold (a ++ sep.chars ++ b) = .ok (some (name, n)) := by
  refine ⟨fun sep => Separator.exists_read_iff, ?_, ?_, fun t => readThreshold_eq_some_iff, ?_⟩
  · intro sep other t u ht hu
    exact Separator.eq_of_form (Separator.form_of_read ht) (Separator.form_of_read hu)
  · intro seps hseps
    exact readFirst_eq_readThreshold hseps value
  · intro sep name n h
    refine ⟨?_, fun a b ha hb => ?_⟩
    · obtain ⟨a, b, hvalue, -, -, htrim, hb⟩ := Separator.read_eq_some_iff.mp h
      exact ⟨a, b, hvalue, htrim ▸ padded_trimChars a, hb⟩
    · exact readThreshold_eq_some_iff.mpr ⟨sep, Separator.read_of_respelled h ha hb⟩

/-- A name that holds a colon, with `>=` before the number; the colon may be tried first, and the
number written with a plus sign and zeros. -/
theorem threshold_forms_never_compete_colon_in_name :
    Separator.atLeast.read "arms: bow>=7".toList = .ok (some ("arms: bow", 7)) ∧
    Padded "arms: bow".toList " arms: bow ".toList ∧ States 7 "\t+007 ".toList ∧
    readFirst [.colon, .atLeast] "arms: bow>=7".toList =
      readThreshold "arms: bow>=7".toList ∧
    readThreshold " arms: bow >=\t+007 ".toList = .ok (some ("arms: bow", 7)) := by
  have hread : Separator.atLeast.read "arms: bow>=7".toList = .ok (some ("arms: bow", 7)) := by rfl
  have hblank : AllBlank [' '] := List.forall_mem_singleton.mpr rfl
  have hname : Padded "arms: bow".toList " arms: bow ".toList := ⟨_, _, hblank, hblank, rfl⟩
  have hnumber : States 7 "\t+007 ".toList := parsePlain?_eq_some_iff.mp rfl
  obtain ⟨-, -, horder, -, hspelled⟩ := threshold_forms_never_compete "arms: bow>=7".toList
  refine ⟨hread, hname, hnumber, horder _ (fun sep => by cases sep <;> decide), ?_⟩
  exact (hspelled _ _ _ hread).2 _ _ hname hnumber

end Questbook
