import Questbook.Proofs.Token.Digits
import Questbook.Proofs.Text.Cut
import Questbook.Token.Reader

set_option autoImplicit false

/-! # The grammar of tokens

Which texts are tokens, said without the readers: a key and a value at the first colon, and for each
kind of token the form of its value (`Condition.IsToken`, `Change.IsToken`).

The forms of values are stated for any notion of a numeral. They serve for all integers in the
grammar, for those that are read (`IsShort`), and for those that a reader has a fault for, which make
a token with a long numeral (`Condition.HasLongNumeral`, `Change.HasLongNumeral`).
-/

namespace Questbook

open Text Numeral

/-! ## Cutting at colons -/

/-- **A text cut at its first colon,** if it has one. -/
inductive CutAtColon : List Char → List Char → Option (List Char) → Prop
  | whole {a : List Char} (h : ':' ∉ a) : CutAtColon a a none
  | cut {a : List Char} (h : ':' ∉ a) (b : List Char) : CutAtColon (a ++ ':' :: b) a (some b)

theorem cutAtColon_iff {cs a : List Char} {rest : Option (List Char)} :
    CutAtColon cs a rest ↔ cutAt ':' cs = (a, rest) := by
  constructor
  · intro h
    cases h with
    | whole h => exact cutAt_of_notMem h
    | cut h b => exact cutAt_append h b
  · intro h
    by_cases hc : ':' ∈ cs
    · obtain ⟨p, q, rfl, hp⟩ := List.eq_append_cons_of_mem hc
      rw [cutAt_append hp] at h
      cases h
      exact .cut hp q
    · rw [cutAt_of_notMem hc] at h
      cases h
      exact .whole hc

theorem exists_cutAtColon (cs : List Char) : ∃ a rest, CutAtColon cs a rest :=
  ⟨(cutAt ':' cs).1, (cutAt ':' cs).2, cutAtColon_iff.mpr rfl⟩

theorem CutAtColon.unique {cs a b : List Char} {r s : Option (List Char)}
    (ha : CutAtColon cs a r) (hb : CutAtColon cs b s) : a = b ∧ r = s := by
  have h := (cutAtColon_iff.mp ha).symm.trans (cutAtColon_iff.mp hb)
  exact ⟨congrArg Prod.fst h, congrArg Prod.snd h⟩

theorem CutAtColon.firstField {cs a : List Char} {rest : Option (List Char)}
    (h : CutAtColon cs a rest) : firstField cs = (trimChars a, rest.map trimChars) := by
  unfold Questbook.firstField
  rw [cutAtColon_iff.mp h]

/-! ## Forms of values -/

/-- A text that is not blank, as a name has to be. -/
def NotBlank (cs : List Char) : Prop := ¬ AllBlank cs

/-- A name and a numeral with the only `>=` of the text between them. -/
def AtLeastForm (num : List Char → Prop) (value : List Char) : Prop :=
  ∃ name number, value = name ++ '>' :: '=' :: number ∧ ¬ HoldsAtLeast name ∧
    ¬ HoldsAtLeast number ∧ NotBlank name ∧ num number

/-- A name and a numeral with the only colon of the text between them. -/
def ColonForm (num : List Char → Prop) (value : List Char) : Prop :=
  ∃ name number, value = name ++ ':' :: number ∧ ':' ∉ name ∧ ':' ∉ number ∧ NotBlank name ∧
    num number

/-- **The value of a threshold,** in one of its two forms. -/
def ThresholdForm (num : List Char → Prop) (value : List Char) : Prop :=
  AtLeastForm num value ∨ ColonForm num value

/-- **What is changed and by how much,** at the first colon. -/
def AssignmentForm (what num : List Char → Prop) (value : List Char) : Prop :=
  ∃ name number, CutAtColon value name (some number) ∧ what name ∧ num number

/-- Whether the text before the first colon is not blank. -/
def StartsNamed (value : List Char) : Prop :=
  ∃ name rest, CutAtColon value name rest ∧ NotBlank name

/-- Whether a text, its case apart, is a word of the format. -/
def ReadsAs (w : String) (cs : List Char) : Prop :=
  lowerChars (trimChars cs) = w.toList

/-- Whether a text is a mode of changing endurance. -/
def IsMode (cs : List Char) : Prop := ReadsAs "damage" cs ∨ ReadsAs "heal" cs

/-- Whether a text says what is done with an item. -/
def IsAction (cs : List Char) : Prop := ReadsAs "add" cs ∨ ReadsAs "remove" cs

/-- **The value of an `item` effect:** a first field that is not blank, and a second one if the first
says what is done with the item. -/
def ItemForm (value : List Char) : Prop :=
  ∃ first rest, CutAtColon value first rest ∧ NotBlank first ∧
    (IsAction first → ∃ second, rest = some second ∧ StartsNamed second)

/-- **The value of a requirement token** of a kind. -/
def Condition.Kind.Accepts (num : List Char → Prop) : Condition.Kind → List Char → Prop
  | .skill, value | .item, value => value ≠ []
  | .flag, value => StartsNamed value
  | .combat, value => num value ∨ ∃ number, value = '>' :: '=' :: number ∧ num number
  | .stat, value | .counter, value | .slot, value => ThresholdForm num value

/-- **The value of an effect token** of a kind. -/
def Change.Kind.Accepts (num : List Char → Prop) : Change.Kind → List Char → Prop
  | .combat, value => num value
  | .stat, value | .counter, value | .slot, value => AssignmentForm NotBlank num value
  | .endurance, value => AssignmentForm IsMode num value
  | .flag, value => StartsNamed value
  | .discipline, value => value ≠ []
  | .item, value => ItemForm value

/-- The value of a requirement token of a kind, but for a numeral that is too long. -/
def Condition.Kind.Overflows : Condition.Kind → List Char → Prop
  | .skill, _ | .item, _ | .flag, _ => False
  | kind, value => kind.Accepts IsOverlong value

/-- The value of an effect token of a kind, but for a numeral that is too long. The numeral of an
`endurance` token is read before its mode is. -/
def Change.Kind.Overflows : Change.Kind → List Char → Prop
  | .flag, _ | .discipline, _ | .item, _ => False
  | .endurance, value => AssignmentForm (fun _ => True) IsOverlong value
  | kind, value => kind.Accepts IsOverlong value

/-- **A token of a table of keys:** the trimmed texts before and after its first colon are a key of
the table, its case apart, and a value that fits the kind of the key. -/
def IsTokenOf {κ : Type} (keys : List (String × κ)) (fits : κ → List Char → Prop)
    (token : List Char) : Prop :=
  ∃ key value, CutAtColon (trimChars token) key (some value) ∧ trimChars key ≠ [] ∧
    ∃ entry ∈ keys, ReadsAs entry.1 key ∧ fits entry.2 (trimChars value)

/-- **A requirement token.** -/
def Condition.IsToken (token : List Char) : Prop :=
  IsTokenOf Condition.keys (Condition.Kind.Accepts IsInteger) token

/-- **An effect token.** -/
def Change.IsToken (token : List Char) : Prop :=
  IsTokenOf Change.keys (Change.Kind.Accepts IsInteger) token

/-- **A requirement token but for a numeral that is too long.** -/
def Condition.HasLongNumeral (token : List Char) : Prop :=
  IsTokenOf Condition.keys Condition.Kind.Overflows token

/-- **An effect token but for a numeral that is too long.** -/
def Change.HasLongNumeral (token : List Char) : Prop :=
  IsTokenOf Change.keys Change.Kind.Overflows token

/-! ## Forms of a text that is cut -/

theorem assignmentForm_iff {what num : List Char → Prop} {value name number : List Char}
    (h : CutAtColon value name (some number)) :
    AssignmentForm what num value ↔ what name ∧ num number := by
  constructor
  · rintro ⟨a, b, hcut, hab⟩
    obtain ⟨rfl, hrest⟩ := h.unique hcut
    cases hrest
    exact hab
  · intro hab
    exact ⟨name, number, h, hab⟩

theorem not_assignmentForm {what num : List Char → Prop} {value name : List Char}
    (h : CutAtColon value name none) : ¬ AssignmentForm what num value := by
  rintro ⟨a, b, hcut, -⟩
  cases (h.unique hcut).2

theorem startsNamed_iff {value name : List Char} {rest : Option (List Char)}
    (h : CutAtColon value name rest) : StartsNamed value ↔ NotBlank name := by
  constructor
  · rintro ⟨a, r, hcut, ha⟩
    obtain ⟨rfl, -⟩ := h.unique hcut
    exact ha
  · intro ha
    exact ⟨name, rest, h, ha⟩

theorem itemForm_iff {value first : List Char} {rest : Option (List Char)}
    (h : CutAtColon value first rest) :
    ItemForm value ↔ NotBlank first ∧ (IsAction first → ∃ second, rest = some second ∧
      StartsNamed second) := by
  constructor
  · rintro ⟨a, r, hcut, hform⟩
    obtain ⟨rfl, rfl⟩ := h.unique hcut
    exact hform
  · intro hform
    exact ⟨first, rest, h, hform⟩

/-! ## Forms and numerals -/

/-- No text is a name and an integer in both forms: the separator of either form would stand in the
integer of the other. -/
theorem not_atLeastForm_and_colonForm (value : List Char) :
    ¬ (AtLeastForm IsInteger value ∧ ColonForm IsInteger value) := by
  rintro ⟨⟨a, b, hab, -, -, -, hb⟩, ⟨c, d, hcd, -, -, -, hd⟩⟩
  have hcolon : ':' ∉ b := hb.notMem (by decide) (by decide) (by decide) (by decide)
  have hsign : '>' ∉ d := hd.notMem (by decide) (by decide) (by decide) (by decide)
  rcases List.append_eq_append_iff.mp (hab.symm.trans hcd) with ⟨r, -, hr⟩ | ⟨r, -, hr⟩
  · have hm : ':' ∈ '>' :: '=' :: b := by simp [hr]
    simp [hcolon] at hm
  · have hm : '>' ∈ ':' :: d := by simp [hr]
    simp [hsign] at hm

section

variable {num num₁ num₂ : List Char → Prop} {value : List Char}

theorem AtLeastForm.or (hnum : ∀ cs, num cs → num₁ cs ∨ num₂ cs) (h : AtLeastForm num value) :
    AtLeastForm num₁ value ∨ AtLeastForm num₂ value := by
  obtain ⟨name, number, hv, hn, hm, hb, hnumber⟩ := h
  rcases hnum number hnumber with h | h
  · exact Or.inl ⟨name, number, hv, hn, hm, hb, h⟩
  · exact Or.inr ⟨name, number, hv, hn, hm, hb, h⟩

theorem AtLeastForm.imp (hnum : ∀ cs, num cs → num₁ cs) (h : AtLeastForm num value) :
    AtLeastForm num₁ value :=
  (h.or fun cs hc => Or.inl (hnum cs hc)).elim id id

theorem ColonForm.or (hnum : ∀ cs, num cs → num₁ cs ∨ num₂ cs) (h : ColonForm num value) :
    ColonForm num₁ value ∨ ColonForm num₂ value := by
  obtain ⟨name, number, hv, hn, hm, hb, hnumber⟩ := h
  rcases hnum number hnumber with h | h
  · exact Or.inl ⟨name, number, hv, hn, hm, hb, h⟩
  · exact Or.inr ⟨name, number, hv, hn, hm, hb, h⟩

theorem ColonForm.imp (hnum : ∀ cs, num cs → num₁ cs) (h : ColonForm num value) :
    ColonForm num₁ value :=
  (h.or fun cs hc => Or.inl (hnum cs hc)).elim id id

theorem ThresholdForm.or (hnum : ∀ cs, num cs → num₁ cs ∨ num₂ cs) (h : ThresholdForm num value) :
    ThresholdForm num₁ value ∨ ThresholdForm num₂ value := by
  rcases h with h | h
  · exact (h.or hnum).imp Or.inl Or.inl
  · exact (h.or hnum).imp Or.inr Or.inr

theorem AssignmentForm.or {what : List Char → Prop} (hnum : ∀ cs, num cs → num₁ cs ∨ num₂ cs)
    (h : AssignmentForm what num value) :
    AssignmentForm what num₁ value ∨ AssignmentForm what num₂ value := by
  obtain ⟨name, number, hcut, hwhat, hnumber⟩ := h
  rcases hnum number hnumber with h | h
  · exact Or.inl ⟨name, number, hcut, hwhat, h⟩
  · exact Or.inr ⟨name, number, hcut, hwhat, h⟩

/-- A value with one of two kinds of numerals is a value with the first kind or with the second. -/
theorem Condition.Kind.Accepts.or (hnum : ∀ cs, num cs → num₁ cs ∨ num₂ cs)
    {kind : Condition.Kind} (h : kind.Accepts num value) :
    kind.Accepts num₁ value ∨ kind.Accepts num₂ value := by
  cases kind with
  | skill => exact Or.inl h
  | item => exact Or.inl h
  | flag => exact Or.inl h
  | stat => exact ThresholdForm.or hnum h
  | counter => exact ThresholdForm.or hnum h
  | slot => exact ThresholdForm.or hnum h
  | combat =>
      rcases h with h | ⟨number, hv, h⟩
      · exact (hnum value h).imp Or.inl Or.inl
      · exact (hnum number h).imp (fun hs => Or.inr ⟨number, hv, hs⟩)
          fun hl => Or.inr ⟨number, hv, hl⟩

theorem Condition.Kind.Accepts.imp (hnum : ∀ cs, num cs → num₁ cs) {kind : Condition.Kind}
    (h : kind.Accepts num value) : kind.Accepts num₁ value :=
  (h.or fun cs hc => Or.inl (hnum cs hc)).elim id id

theorem Change.Kind.Accepts.or (hnum : ∀ cs, num cs → num₁ cs ∨ num₂ cs) {kind : Change.Kind}
    (h : kind.Accepts num value) : kind.Accepts num₁ value ∨ kind.Accepts num₂ value := by
  cases kind with
  | flag => exact Or.inl h
  | discipline => exact Or.inl h
  | item => exact Or.inl h
  | combat => exact hnum value h
  | stat => exact AssignmentForm.or hnum h
  | counter => exact AssignmentForm.or hnum h
  | slot => exact AssignmentForm.or hnum h
  | endurance => exact AssignmentForm.or hnum h

theorem Change.Kind.Accepts.imp (hnum : ∀ cs, num cs → num₁ cs) {kind : Change.Kind}
    (h : kind.Accepts num value) : kind.Accepts num₁ value :=
  (h.or fun cs hc => Or.inl (hnum cs hc)).elim id id

end

/-- A value with an integer has a short one or a long one. -/
theorem Condition.Kind.accepts_isShort_or_overflows {kind : Condition.Kind} {value : List Char}
    (h : kind.Accepts IsInteger value) : kind.Accepts IsShort value ∨ kind.Overflows value := by
  rcases h.or fun _ hi => hi.isShort_or_isOverlong with h | h
  · exact Or.inl h
  · cases kind with
    | skill => exact Or.inl h
    | item => exact Or.inl h
    | flag => exact Or.inl h
    | stat => exact Or.inr h
    | counter => exact Or.inr h
    | slot => exact Or.inr h
    | combat => exact Or.inr h

theorem Change.Kind.accepts_isShort_or_overflows {kind : Change.Kind} {value : List Char}
    (h : kind.Accepts IsInteger value) : kind.Accepts IsShort value ∨ kind.Overflows value := by
  rcases h.or fun _ hi => hi.isShort_or_isOverlong with h | h
  · exact Or.inl h
  · cases kind with
    | flag => exact Or.inl h
    | discipline => exact Or.inl h
    | item => exact Or.inl h
    | combat => exact Or.inr h
    | stat => exact Or.inr h
    | counter => exact Or.inr h
    | slot => exact Or.inr h
    | endurance =>
        obtain ⟨mode, number, hcut, -, hnumber⟩ := h
        exact Or.inr ⟨mode, number, hcut, trivial, hnumber⟩

/-- A token with a short numeral is a token, and a token without a long one has a short one. -/
theorem isTokenOf_isShort_iff {κ : Type} {keys : List (String × κ)}
    {accepts : (List Char → Prop) → κ → List Char → Prop} {overflows : κ → List Char → Prop}
    (himp : ∀ kind value, accepts IsShort kind value → accepts IsInteger kind value)
    (hor : ∀ kind value, accepts IsInteger kind value →
      accepts IsShort kind value ∨ overflows kind value)
    {token : List Char} (hlong : ¬ IsTokenOf keys overflows token) :
    IsTokenOf keys (accepts IsShort) token ↔ IsTokenOf keys (accepts IsInteger) token := by
  constructor
  · rintro ⟨k, v, hcut, hne, entry, hmem, hreads, hfits⟩
    exact ⟨k, v, hcut, hne, entry, hmem, hreads, himp _ _ hfits⟩
  · rintro ⟨k, v, hcut, hne, entry, hmem, hreads, hfits⟩
    rcases hor _ _ hfits with h | h
    · exact ⟨k, v, hcut, hne, entry, hmem, hreads, h⟩
    · exact absurd ⟨k, v, hcut, hne, entry, hmem, hreads, h⟩ hlong

end Questbook
