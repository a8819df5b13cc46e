import Questbook.Proofs.Text.Trim
import Questbook.Text.Lowercase

set_option autoImplicit false

/-! # What lower case gives

Lowering a text makes no blanks and takes none away (`eq_of_mem_lowerCharAt_of_blank`), so that a trimmed
text stays trimmed (`Trimmed.lowerChars`). It leaves no character that has an ASCII letter other than
itself as its lower case (`isSettled_of_mem_lowerChars`): what has been lowered is ASCII after another
lowering only if it has been the same text before (`lowerChars_eq_self`).

What the table of runs has to do with this is checked for all runs at once (`lowerRuns_sound`).
-/

namespace Questbook.Text

/-! ## What the table says -/

/-- Whether the images of a run lie outside of all ranges of a list. -/
def LetterRun.avoids (r : LetterRun) (ranges : List (Nat × Nat)) : Bool :=
  ranges.all fun range => r.target + (r.last - r.first) < range.1 || range.2 < r.target

/-- The Kelvin sign, the one character beyond ASCII whose lower case is an ASCII letter. -/
def kelvinSign : Nat := 0x212A

/-- The code points with ASCII letters other than themselves in their lower case: the capitals, the
capital `İ`, and the Kelvin sign. -/
def unsettledRanges : List (Nat × Nat) := [(65, 90), (0x130, 0x130), (kelvinSign, kelvinSign)]

/-- Whether the images of a run are characters, none of them blank or unsettled, and beyond ASCII but
for that of the Kelvin sign. -/
def LetterRun.isSound (r : LetterRun) : Bool :=
  r.avoids (blankRanges ++ unsettledRanges) &&
    (decide (r.target + (r.last - r.first) < 0xD800) ||
      decide (0xDFFF < r.target) && decide (r.target + (r.last - r.first) < 0x110000)) &&
    (decide (128 ≤ r.target) || decide (r.first = kelvinSign) && decide (r.last = kelvinSign))

theorem lowerRuns_sound : ∀ r ∈ lowerRuns, r.isSound = true := by
  decide +kernel

theorem LetterRun.not_inRanges_of_avoids {r : LetterRun} {ranges : List (Nat × Nat)} {m : Nat}
    (h : r.avoids ranges = true) (hlow : r.target ≤ m) (hhigh : m ≤ r.target + (r.last - r.first)) :
    inRanges ranges m = false := by
  rw [← Bool.not_eq_true, inRanges_eq_true_iff]
  rintro ⟨range, hmem, hbelow, habove⟩
  have hrange := List.all_eq_true.mp h range hmem
  simp only [Bool.or_eq_true, decide_eq_true_eq] at hrange
  omega

/-- An image comes from a run that holds the code point. -/
theorem exists_run_of_imageIn? {runs : List LetterRun} {n m : Nat} (h : imageIn? runs n = some m) :
    ∃ r ∈ runs, r.first ≤ n ∧ n ≤ r.last ∧ r.target ≤ m ∧ m ≤ r.target + (r.last - r.first) := by
  obtain ⟨r, hr, himage⟩ := List.exists_of_findSome?_eq_some h
  unfold LetterRun.image? at himage
  split at himage
  · next hin =>
    have hm := Option.some.inj himage
    exact ⟨r, hr, hin.1, hin.2.1, by omega, by omega⟩
  · cases himage

theorem inRanges_append (a b : List (Nat × Nat)) (n : Nat) :
    inRanges (a ++ b) n = (inRanges a n || inRanges b n) :=
  List.any_append

/-! ## Characters -/

/-- **Whether lower case has no ASCII letter for a character** other than the character itself. -/
def IsSettled (c : Char) : Prop := inRanges unsettledRanges c.toNat = false

instance (c : Char) : Decidable (IsSettled c) := inferInstanceAs (Decidable (_ = _))

theorem isSettled_of_wide {c : Char} (hwide : 128 ≤ c.toNat) (hdotted : c ≠ 'İ')
    (hkelvin : c.toNat ≠ kelvinSign) : IsSettled c := by
  unfold IsSettled
  rw [← Bool.not_eq_true, inRanges_eq_true_iff]
  rintro ⟨range, hmem, hlow, hhigh⟩
  simp only [unsettledRanges, List.mem_cons, List.not_mem_nil, or_false] at hmem
  rcases hmem with rfl | rfl | rfl
  · dsimp at hhigh
    omega
  · have hc : c.toNat = 'İ'.toNat := Nat.le_antisymm hhigh hlow
    exact hdotted (Char.toNat_inj.mp hc)
  · exact hkelvin (Nat.le_antisymm hhigh hlow)

/-- What is known of the image of a code point. -/
structure IsImage (n : Nat) (d : Char) : Prop where
  notBlank : isBlankChar d = false
  settled : IsSettled d
  wide : n ≠ kelvinSign → 128 ≤ d.toNat

theorem isImage_of_imageIn? {n m : Nat} (h : imageIn? lowerRuns n = some m) :
    IsImage n (Char.ofNat m) := by
  obtain ⟨r, hr, hfirst, hlast, hlow, hhigh⟩ := exists_run_of_imageIn? h
  have hsound := lowerRuns_sound r hr
  simp only [LetterRun.isSound, Bool.and_eq_true, Bool.or_eq_true, decide_eq_true_eq] at hsound
  obtain ⟨⟨havoids, hvalid⟩, hascii⟩ := hsound
  have hm : (Char.ofNat m).toNat = m := by
    have hchar : m.isValidChar := hvalid.imp (by omega) (by omega)
    unfold Char.ofNat
    rw [dif_pos hchar]
    rfl
  have hnot := LetterRun.not_inRanges_of_avoids havoids hlow hhigh
  rw [inRanges_append, Bool.or_eq_false_iff] at hnot
  refine ⟨?_, ?_, ?_⟩
  · unfold isBlankChar
    rw [hm]
    exact hnot.1
  · unfold IsSettled
    rw [hm]
    exact hnot.2
  · rw [hm]
    omega

/-- Lowering an ASCII letter gives a letter that is lowered to itself. -/
theorem toLower_ascii : ∀ n < 128,
    (Char.ofNat n).toLower = Char.ofNat n ∧ inRanges unsettledRanges (Char.ofNat n).toNat = false ∨
      inRanges unsettledRanges (Char.ofNat n).toNat = true ∧
        isBlankChar (Char.ofNat n).toLower = false ∧
        inRanges unsettledRanges (Char.ofNat n).toLower.toNat = false := by
  decide +kernel

/-- What is known of the lower case of a character that it changes. -/
def Changes (c : Char) (ds : List Char) : Prop :=
  ∀ d ∈ ds, isBlankChar d = false ∧ IsSettled d ∧ (IsSettled c → 128 ≤ d.toNat)

/-- **Lower case leaves a character as it is,** or gives other characters of a certain kind. -/
theorem lowerCharAt_cases (before : List Char) (c : Char) (after : List Char) :
    lowerCharAt before c after = [c] ∧ IsSettled c ∨ Changes c (lowerCharAt before c after) := by
  unfold lowerCharAt
  split
  · next hascii =>
    have hc := toLower_ascii c.toNat hascii
    rw [Char.ofNat_toNat] at hc
    rcases hc with ⟨hsame, hsettled⟩ | ⟨hcapital, hblank, hsettled⟩
    · exact Or.inl ⟨congrArg (fun d => [d]) hsame, hsettled⟩
    · refine Or.inr fun d hd => ?_
      obtain rfl := List.mem_singleton.mp hd
      refine ⟨hblank, hsettled, fun hc => ?_⟩
      rw [IsSettled, hcapital] at hc
      cases hc
  next hwide =>
  have hsigma : ∀ d, d = 'ς' ∨ d = 'σ' →
      isBlankChar d = false ∧ IsSettled d ∧ (IsSettled c → 128 ≤ d.toNat) := by
    rintro d (rfl | rfl)
    · exact ⟨rfl, rfl, fun _ => by decide⟩
    · exact ⟨rfl, rfl, fun _ => by decide⟩
  split
  · refine Or.inr fun d hd => hsigma d ?_
    split at hd
    · exact Or.inl (List.mem_singleton.mp hd)
    · exact Or.inr (List.mem_singleton.mp hd)
  split
  · next hdotted =>
    refine Or.inr fun d hd => ?_
    have hunsettled : ¬ IsSettled c := by
      rw [hdotted]
      decide
    rcases List.mem_cons.mp hd with rfl | hd
    · exact ⟨rfl, rfl, fun h => absurd h hunsettled⟩
    · obtain rfl := List.mem_singleton.mp hd
      exact ⟨rfl, rfl, fun h => absurd h hunsettled⟩
  next hdotted =>
  cases himage : imageIn? lowerRuns c.toNat with
  | none =>
      refine Or.inl ⟨by rw [Option.getD_none, Char.ofNat_toNat], ?_⟩
      refine isSettled_of_wide (Nat.le_of_not_lt hwide) hdotted fun hkelvin => ?_
      rw [hkelvin] at himage
      cases himage
  | some m =>
      obtain ⟨hblank, hsettled, hfar⟩ := isImage_of_imageIn? himage
      refine Or.inr fun d hd => ?_
      rw [Option.getD_some, List.mem_singleton] at hd
      subst hd
      refine ⟨hblank, hsettled, fun hc => hfar ?_⟩
      rintro hkelvin
      rw [IsSettled, hkelvin] at hc
      cases hc

theorem lowerCharAt_ne_nil (before : List Char) (c : Char) (after : List Char) :
    lowerCharAt before c after ≠ [] := by
  unfold lowerCharAt
  repeat' split
  all_goals exact List.cons_ne_nil _ _

/-- Lower case makes no blanks. -/
theorem eq_of_mem_lowerCharAt_of_blank {before after : List Char} {c d : Char}
    (h : d ∈ lowerCharAt before c after) (hd : isBlankChar d = true) : d = c := by
  rcases lowerCharAt_cases before c after with ⟨hsame, -⟩ | hchanges
  · rw [hsame] at h
    exact List.mem_singleton.mp h
  · rw [(hchanges d h).1] at hd
    cases hd

theorem isSettled_of_mem_lowerCharAt {before after : List Char} {c d : Char}
    (h : d ∈ lowerCharAt before c after) : IsSettled d := by
  rcases lowerCharAt_cases before c after with ⟨hsame, hsettled⟩ | hchanges
  · rw [hsame] at h
    rwa [List.mem_singleton.mp h]
  · exact (hchanges d h).2.1

/-- A settled character that has an ASCII lower case is this lower case. -/
theorem lowerCharAt_eq_self {before after : List Char} {c : Char} (hc : IsSettled c)
    (h : ∀ d ∈ lowerCharAt before c after, d.toNat < 128) : lowerCharAt before c after = [c] := by
  rcases lowerCharAt_cases before c after with ⟨hsame, -⟩ | hchanges
  · exact hsame
  · obtain ⟨d, hd⟩ := List.exists_mem_of_ne_nil _ (lowerCharAt_ne_nil before c after)
    have hwide := (hchanges d hd).2.2 hc
    have hascii := h d hd
    omega

/-! ## Texts -/

theorem mem_lowerCharsAfter {before cs : List Char} {d : Char} (h : d ∈ lowerCharsAfter before cs) :
    ∃ b c a, c ∈ cs ∧ d ∈ lowerCharAt b c a := by
  induction cs generalizing before with
  | nil => cases h
  | cons c cs ih =>
      rcases List.mem_append.mp h with h | h
      · exact ⟨before, c, cs, by simp, h⟩
      · obtain ⟨b, c', a, hc', hd⟩ := ih h
        exact ⟨b, c', a, by simp [hc'], hd⟩

/-- A blank of the lower case is one of the text. -/
theorem mem_of_mem_lowerChars_of_blank {cs : List Char} {d : Char} (h : d ∈ lowerChars cs)
    (hd : isBlankChar d = true) : d ∈ cs := by
  obtain ⟨b, c, a, hc, hmem⟩ := mem_lowerCharsAfter h
  rwa [eq_of_mem_lowerCharAt_of_blank hmem hd]

theorem isSettled_of_mem_lowerChars {cs : List Char} {d : Char} (h : d ∈ lowerChars cs) :
    IsSettled d := by
  obtain ⟨b, c, a, -, hmem⟩ := mem_lowerCharsAfter h
  exact isSettled_of_mem_lowerCharAt hmem

/-- **A settled text that has an ASCII lower case** is this lower case. -/
theorem lowerChars_eq_self {cs : List Char} (hcs : ∀ c ∈ cs, IsSettled c)
    (h : ∀ d ∈ lowerChars cs, d.toNat < 128) : lowerChars cs = cs := by
  have key : ∀ (cs before : List Char), (∀ c ∈ cs, IsSettled c) →
      (∀ d ∈ lowerCharsAfter before cs, d.toNat < 128) → lowerCharsAfter before cs = cs := by
    intro cs
    induction cs with
    | nil => exact fun _ _ _ => rfl
    | cons c cs ih =>
        intro before hcs h
        obtain ⟨hc, hrest⟩ := List.forall_mem_cons.mp hcs
        obtain ⟨hhere, hthere⟩ := List.forall_mem_append.mp h
        rw [lowerCharsAfter, lowerCharAt_eq_self hc hhere, ih (c :: before) hrest hthere]
        rfl
  exact key cs [] hcs h

theorem lowerCharsAfter_ne_nil {before cs : List Char} (h : cs ≠ []) :
    lowerCharsAfter before cs ≠ [] := by
  cases cs with
  | nil => exact absurd rfl h
  | cons c cs =>
      rw [lowerCharsAfter]
      exact List.append_ne_nil_of_left_ne_nil (lowerCharAt_ne_nil before c cs) _

theorem lowerChars_ne_nil {cs : List Char} (h : cs ≠ []) : lowerChars cs ≠ [] :=
  lowerCharsAfter_ne_nil h

/-- The lower case of a text ends with that of its last character. -/
theorem getLast?_lowerCharsAfter {before cs : List Char} {d : Char}
    (h : (lowerCharsAfter before cs).getLast? = some d) :
    ∃ b c a, cs.getLast? = some c ∧ d ∈ lowerCharAt b c a := by
  induction cs generalizing before with
  | nil => cases h
  | cons c cs ih =>
      rw [lowerCharsAfter, List.getLast?_append] at h
      cases hrest : (lowerCharsAfter (c :: before) cs).getLast? with
      | some d' =>
          rw [hrest] at h
          obtain rfl := Option.some.inj h
          obtain ⟨b, c', a, hlast, hmem⟩ := ih hrest
          refine ⟨b, c', a, ?_, hmem⟩
          rw [List.getLast?_cons, hlast]
          rfl
      | none =>
          have hnil : cs = [] := by
            by_cases hcs : cs = []
            · exact hcs
            · exact absurd (List.getLast?_eq_none_iff.mp hrest) (lowerCharsAfter_ne_nil hcs)
          rw [hrest] at h
          exact ⟨before, c, cs, by rw [hnil]; rfl, List.mem_of_getLast? h⟩

/-- **A trimmed text has a trimmed lower case.** -/
theorem Trimmed.lowerChars {cs : List Char} (h : Trimmed cs) : Trimmed (lowerChars cs) := by
  have hblank : ∀ {b a : List Char} {c d : Char}, isBlankChar c = false →
      d ∈ lowerCharAt b c a → isBlankChar d = false := by
    intro b a c d hc hd
    rw [← Bool.not_eq_true]
    intro hblank
    rw [eq_of_mem_lowerCharAt_of_blank hd hblank, hc] at hblank
    cases hblank
  refine ⟨fun d hd => ?_, fun d hd => ?_⟩
  · cases cs with
    | nil => cases hd
    | cons c cs =>
        obtain ⟨x, xs, hx⟩ := List.exists_cons_of_ne_nil (lowerCharAt_ne_nil [] c cs)
        rw [Text.lowerChars, lowerCharsAfter, hx] at hd
        obtain rfl : x = d := Option.some.inj hd
        exact hblank (h.head c rfl) (show x ∈ lowerCharAt [] c cs by simp [hx])
  · obtain ⟨b, c, a, hlast, hmem⟩ := getLast?_lowerCharsAfter hd
    exact hblank (h.last c hlast) hmem

end Questbook.Text
