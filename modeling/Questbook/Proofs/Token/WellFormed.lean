import Questbook.Proofs.Outcome
import Questbook.Proofs.Text.Cut
import Questbook.Proofs.Token.Numeral

set_option autoImplicit false

/-! # What tokens state

The names, categories and numbers that a token can state are not arbitrary: names are trimmed and
not empty, what stands before a colon holds none, a threshold is named with one kind of separator at
most, a counter is set to no negative value, and no number is too long to be written again.
`Condition.WellFormed` and `Change.WellFormed` say so, and what is read is well formed
(`Condition.wellFormed_of_parse`, `Change.wellFormed_of_parse`).
-/

namespace Questbook

open Text

/-! ## Well-formed conditions and changes -/

/-- A text that can be a name: it is trimmed and not empty. -/
structure IsName (name : String) : Prop where
  nonempty : name.toList ≠ []
  trimmed : Trimmed name.toList

/-- **A name that stands before a colon** and holds none itself. -/
structure IsField (name : String) : Prop extends IsName name where
  noColon : ':' ∉ name.toList

/-- **The name of a threshold.** It may hold colons or `>=`, but not both. -/
structure IsThresholdName (name : String) : Prop extends IsName name where
  oneSeparator : ¬ (':' ∈ name.toList ∧ HoldsAtLeast name.toList)

/-- Whether a whole number has few enough digits to be written. -/
def IsWritable (n : Int) : Prop := n.natAbs < Numeral.writeLimit

theorem isWritable_of_lt_ten {n : Int} (h : n.natAbs < 10) : IsWritable n := by
  have hpos : 1 ≤ Numeral.maxDigits := by decide
  unfold IsWritable Numeral.writeLimit
  generalize Numeral.maxDigits = k at hpos ⊢
  exact Nat.lt_of_lt_of_le h (Nat.pow_le_pow_right (n := 10) (by decide) hpos)

/-- **A condition that a token can state.** -/
def Condition.WellFormed : Condition → Prop
  | skill name | item name => IsName name
  | stat name minimum | counter name minimum | slot name minimum =>
    IsThresholdName name ∧ IsWritable minimum
  | flag name expected => IsField name ∧ ∀ e, expected = some e → Trimmed e.toList
  | combat minimum => IsWritable minimum
  | unsupported => True

/-- An update that a token can state. -/
def Update.WellFormed : Update → Prop
  | set value => 0 ≤ value ∧ IsWritable value
  | shift delta => IsWritable delta

/-- **A change that a token can state.** -/
def Change.WellFormed : Change → Prop
  | adjustStat name delta => IsField name ∧ IsWritable delta
  | adjustCombat delta => IsWritable delta
  | damage amount | heal amount => 0 ≤ amount ∧ IsWritable amount
  | addItem name category => IsField name ∧ IsField category
  | removeItem name => IsField name
  | setFlag name value => IsField name ∧ Trimmed value.toList
  | grantDiscipline name => IsName name
  | updateCounter name update | updateSlot name update => IsField name ∧ update.WellFormed
  | unsupported => True

theorem isName_ofList {cs : List Char} (hne : cs ≠ []) (ht : Trimmed cs) :
    IsName (String.ofList cs) :=
  ⟨by simpa using hne, by simpa using ht⟩

theorem isField_ofList {cs : List Char} (hne : cs ≠ []) (ht : Trimmed cs) (hc : ':' ∉ cs) :
    IsField (String.ofList cs) :=
  ⟨isName_ofList hne ht, by simpa using hc⟩

theorem ne_nil_of_isEmpty_eq_false {cs : List Char} (h : ¬ cs.isEmpty = true) : cs ≠ [] := by
  intro hcs
  exact h (by simp [hcs])

theorem isField_generalCategory : IsField generalCategory := by
  refine ⟨⟨by decide, ?_⟩, by decide⟩
  exact trimmed_of_all rfl

/-! ## Fields -/

/-- What stands before the first colon is trimmed and holds none, and what stands after it is
trimmed. -/
theorem firstField_spec {value name : List Char} {rest : Option (List Char)}
    (h : firstField value = (name, rest)) :
    Trimmed name ∧ ':' ∉ name ∧ ∀ r, rest = some r → Trimmed r := by
  unfold firstField at h
  cases h
  refine ⟨trimmed_trimChars _, ?_, ?_⟩
  · exact fun hm => notMem_cutAt_fst ':' value (mem_of_mem_trimChars hm)
  · intro r hr
    obtain ⟨t, -, rfl⟩ := Option.map_eq_some_iff.mp hr
    exact trimmed_trimChars t

theorem allFields_spec {value p : List Char} (h : p ∈ allFields value) : Trimmed p ∧ ':' ∉ p := by
  obtain ⟨q, hq, rfl⟩ := List.mem_map.mp h
  exact ⟨trimmed_trimChars q, fun hm => notMem_of_mem_splitAt hq (mem_of_mem_trimChars hm)⟩

theorem eq_of_nameAndNumber {parts : List (List Char)} {name : String} {n : Int}
    (h : nameAndNumber parts = .ok (some (name, n))) :
    ∃ a b, parts = [a, b] ∧ a ≠ [] ∧ name = String.ofList a ∧
      Numeral.parsePlain? b = .ok (some n) := by
  unfold nameAndNumber at h
  split at h
  · next a b =>
    split at h
    · cases h
    · next ha =>
      obtain ⟨o, hb, ho⟩ := map_eq_ok_iff.mp h
      obtain ⟨m, rfl, hm⟩ := Option.map_eq_some_iff.mp ho
      cases hm
      exact ⟨a, b, rfl, ne_nil_of_isEmpty_eq_false ha, rfl, hb⟩
  · cases h

/-- What a threshold is read from: two pieces at `>=`, or else two pieces at a colon. -/
theorem readThreshold_eq_some {value : List Char} {t : String × Int}
    (h : readThreshold value = .ok (some t)) :
    nameAndNumber ((splitAtLeast value).map trimChars) = .ok (some t) ∨
      nameAndNumber (allFields value) = .ok (some t) := by
  unfold readThreshold at h
  obtain ⟨o, hs, ho⟩ := bind_eq_ok_iff.mp h
  cases o with
  | none => exact Or.inr ho
  | some u =>
      cases ho
      exact Or.inl hs

theorem wellFormed_of_readThreshold {value : List Char} {name : String} {n : Int}
    (h : readThreshold value = .ok (some (name, n))) : IsThresholdName name ∧ IsWritable n := by
  rcases readThreshold_eq_some h with h | h
  · obtain ⟨a, b, hparts, hne, rfl, hn⟩ := eq_of_nameAndNumber h
    obtain ⟨p, hp, rfl⟩ : ∃ p ∈ splitAtLeast value, trimChars p = a :=
      List.mem_map.mp (by simp [hparts])
    have hno : ¬ HoldsAtLeast (trimChars p) := by
      intro hh
      obtain ⟨x, y, -, -, hxy⟩ := padded_trimChars p
      -- `>=` in the trimmed piece would stand in the piece itself
      refine not_holds_of_mem_splitAtLeast hp ?_
      unfold HoldsAtLeast
      rw [hxy]
      exact hh.trans (List.infix_append x (trimChars p) y)
    refine ⟨⟨isName_ofList hne (trimmed_trimChars p), ?_⟩, Numeral.natAbs_lt_of_parsePlain? hn⟩
    simpa using fun _ => hno
  · obtain ⟨a, b, hparts, hne, rfl, hn⟩ := eq_of_nameAndNumber h
    obtain ⟨ht, hc⟩ := @allFields_spec value a (by simp [hparts])
    refine ⟨⟨isName_ofList hne ht, ?_⟩, Numeral.natAbs_lt_of_parsePlain? hn⟩
    simpa using fun hm => absurd hm hc

theorem wellFormed_of_readUpdate {value : List Char} {name : String} {u : Update}
    (h : readUpdate value = .ok (some (name, u))) : IsField name ∧ u.WellFormed := by
  unfold readUpdate at h
  split at h
  · next a number hf =>
    obtain ⟨ht, hc, hr⟩ := firstField_spec hf
    split at h
    · cases h
    · next ha =>
      obtain ⟨o, hb, ho⟩ := map_eq_ok_iff.mp h
      obtain ⟨m, rfl, hm⟩ := Option.map_eq_some_iff.mp ho
      cases hm
      have hw : IsWritable m := Numeral.natAbs_lt_of_parsePlain? hb
      refine ⟨isField_ofList (ne_nil_of_isEmpty_eq_false ha) ht hc, ?_⟩
      split
      · exact hw
      · next hs =>
        -- the number is trimmed already, so its first character is the sign that is read off
        have htr := (hr number rfl).trimChars_eq
        exact ⟨Numeral.nonneg_of_parsePlain? hb (by rw [htr]; simpa using hs), hw⟩
  · cases h

/-! ## Conditions -/

theorem wellFormed_thresholdCondition (make : String → Int → Condition) {value : List Char}
    {c : Condition}
    (hmake : ∀ name n, IsThresholdName name ∧ IsWritable n → (make name n).WellFormed)
    (h : (readThreshold value).map (thresholdCondition make) = .ok c) : c.WellFormed := by
  obtain ⟨o, ht, rfl⟩ := map_eq_ok_iff.mp h
  cases o with
  | none => trivial
  | some t => exact hmake t.1 t.2 (wellFormed_of_readThreshold ht)

theorem Condition.wellFormed_of_ofValue {kind : Condition.Kind} {value : List Char}
    {c : Condition} (hv : Trimmed value) (h : Condition.ofValue kind value = .ok c) :
    c.WellFormed := by
  cases kind with
  | skill =>
      simp only [Condition.ofValue] at h
      cases h
      split
      · trivial
      · next hne => exact isName_ofList (ne_nil_of_isEmpty_eq_false hne) hv
  | item =>
      simp only [Condition.ofValue] at h
      cases h
      split
      · trivial
      · next hne => exact isName_ofList (ne_nil_of_isEmpty_eq_false hne) hv
  | stat => exact wellFormed_thresholdCondition .stat (fun _ _ hw => hw) h
  | counter => exact wellFormed_thresholdCondition .counter (fun _ _ hw => hw) h
  | slot => exact wellFormed_thresholdCondition .slot (fun _ _ hw => hw) h
  | flag =>
      simp only [Condition.ofValue] at h
      obtain ⟨ht, hc, hr⟩ := @firstField_spec value _ _ rfl
      cases h
      split
      · trivial
      · next hne =>
        refine ⟨isField_ofList (ne_nil_of_isEmpty_eq_false hne) ht hc, ?_⟩
        intro e he
        obtain ⟨r, hr', rfl⟩ := Option.map_eq_some_iff.mp he
        simpa using hr r hr'
  | combat =>
      simp only [Condition.ofValue] at h
      obtain ⟨o, hn, rfl⟩ := map_eq_ok_iff.mp h
      cases o with
      | none => trivial
      | some n => exact Numeral.natAbs_lt_of_parsePlain? hn

/-- The value of a token is trimmed, and so is its key. -/
theorem trimmed_of_cutToken {token key value : List Char} (h : cutToken token = some (key, value)) :
    Trimmed value := by
  unfold cutToken at h
  split at h
  · cases h
  · next k v hcut =>
    by_cases hk : (trimChars k).isEmpty = true
    · rw [if_pos hk] at h
      cases h
    · rw [if_neg hk] at h
      cases h
      exact trimmed_trimChars v

/-- **What a requirement token states is well formed.** -/
theorem Condition.wellFormed_of_parse {token : List Char} {c : Condition}
    (h : Condition.parse token = .ok c) : c.WellFormed := by
  unfold Condition.parse at h
  split at h
  · cases h
    trivial
  · next hcut =>
    split at h
    · cases h
      trivial
    · exact Condition.wellFormed_of_ofValue (trimmed_of_cutToken hcut) h

/-! ## Changes -/

/-- A field of an item: its name, its category, or the word for what is done with it. -/
def IsItemField (cs : List Char) : Prop := Trimmed cs ∧ ':' ∉ cs

theorem wellFormed_addition {name : List Char} {category : Option (List Char)}
    (hname : IsItemField name) (hcat : ∀ c, category = some c → IsItemField c) :
    (addition name category).WellFormed := by
  unfold addition
  split
  · trivial
  · next hne =>
    refine ⟨isField_ofList (ne_nil_of_isEmpty_eq_false hne) hname.1 hname.2, ?_⟩
    split
    · next c cs =>
      obtain ⟨ht, hc⟩ := hcat (c :: cs) rfl
      exact isField_ofList (by simp) ht hc
    · exact isField_generalCategory

theorem wellFormed_itemChange {fields : List (List Char)} (h : ∀ f ∈ fields, IsItemField f) :
    (itemChange fields).WellFormed := by
  unfold itemChange
  have hhead : ∀ (fs : List (List Char)), (∀ f ∈ fs, f ∈ fields) →
      ∀ c, fs.head? = some c → IsItemField c := by
    intro fs hfs c hc
    exact h c (hfs c (List.mem_of_head? hc))
  split
  · trivial
  · next action rest =>
    split
    · split
      · trivial
      · next name rest =>
        exact wellFormed_addition (h name (by simp)) (hhead rest (by simp +contextual))
    · split
      · split
        · trivial
        · next name rest =>
          split
          · trivial
          · next hne =>
            obtain ⟨ht, hc⟩ := h name (by simp)
            exact isField_ofList (ne_nil_of_isEmpty_eq_false hne) ht hc
      · exact wellFormed_addition (h action (by simp)) (hhead rest (by simp +contextual))

theorem wellFormed_updateChange (make : String → Update → Change) {value : List Char} {c : Change}
    (hmake : ∀ name u, IsField name ∧ u.WellFormed → (make name u).WellFormed)
    (h : (readUpdate value).map (updateChange make) = .ok c) : c.WellFormed := by
  obtain ⟨o, hu, rfl⟩ := map_eq_ok_iff.mp h
  cases o with
  | none => trivial
  | some u => exact hmake u.1 u.2 (wellFormed_of_readUpdate hu)

theorem wellFormed_enduranceChange {mode : List Char} {amount : Int}
    (h : 0 ≤ amount ∧ IsWritable amount) : (enduranceChange mode amount).WellFormed := by
  unfold enduranceChange
  split
  · exact h
  · split
    · exact h
    · trivial

theorem Change.wellFormed_of_ofValue {kind : Change.Kind} {value : List Char} {c : Change}
    (hv : Trimmed value) (h : Change.ofValue kind value = .ok c) : c.WellFormed := by
  cases kind with
  | stat =>
      simp only [Change.ofValue] at h
      split at h
      · next name number hf =>
        obtain ⟨ht, hc, -⟩ := firstField_spec hf
        obtain ⟨o, hn, rfl⟩ := map_eq_ok_iff.mp h
        cases o with
        | none => trivial
        | some t =>
            obtain ⟨a, b, hparts, hne, hname, hb⟩ := @eq_of_nameAndNumber _ t.1 t.2 hn
            cases hparts
            show IsField t.1 ∧ IsWritable t.2
            rw [hname]
            exact ⟨isField_ofList hne ht hc, Numeral.natAbs_lt_of_parsePlain? hb⟩
      · cases h
        trivial
  | combat =>
      simp only [Change.ofValue] at h
      obtain ⟨o, hn, rfl⟩ := map_eq_ok_iff.mp h
      cases o with
      | none => trivial
      | some n => exact Numeral.natAbs_lt_of_parsePlain? hn
  | endurance =>
      simp only [Change.ofValue] at h
      split at h
      · obtain ⟨o, hn, rfl⟩ := map_eq_ok_iff.mp h
        cases o with
        | none => trivial
        | some n =>
            have hw : IsWritable n.natAbs := by
              unfold IsWritable
              rw [Int.natAbs_natCast]
              exact Numeral.natAbs_lt_of_parsePlain? hn
            exact wellFormed_enduranceChange ⟨Int.natCast_nonneg n.natAbs, hw⟩
      · cases h
        trivial
  | item =>
      simp only [Change.ofValue] at h
      cases h
      exact wellFormed_itemChange fun f hf => allFields_spec hf
  | flag =>
      simp only [Change.ofValue] at h
      obtain ⟨ht, hc, hr⟩ := @firstField_spec value _ _ rfl
      cases h
      split
      · trivial
      · next hne =>
        refine ⟨isField_ofList (ne_nil_of_isEmpty_eq_false hne) ht hc, ?_⟩
        cases hw : (firstField value).2 with
        | none => exact trimmed_of_all rfl
        | some r => simpa using hr r hw
  | discipline =>
      simp only [Change.ofValue] at h
      cases h
      split
      · trivial
      · next hne => exact isName_ofList (ne_nil_of_isEmpty_eq_false hne) hv
  | counter => exact wellFormed_updateChange .updateCounter (fun _ _ hw => hw) h
  | slot => exact wellFormed_updateChange .updateSlot (fun _ _ hw => hw) h

/-- **What an effect token states is well formed.** -/
theorem Change.wellFormed_of_parse {token : List Char} {c : Change}
    (h : Change.parse token = .ok c) : c.WellFormed := by
  unfold Change.parse at h
  split at h
  · cases h
    trivial
  · next hcut =>
    split at h
    · cases h
      trivial
    · exact Change.wellFormed_of_ofValue (trimmed_of_cutToken hcut) h

/-- Whatever sign the amount of a wound or of healing is written with, none is negative. -/
theorem Change.amount_nonneg_of_parse {token : List Char} {amount : Int}
    (h : Change.parse token = .ok (.damage amount) ∨ Change.parse token = .ok (.heal amount)) :
    0 ≤ amount := by
  rcases h with hdamage | hheal
  · exact (Change.wellFormed_of_parse hdamage).1
  · exact (Change.wellFormed_of_parse hheal).1

end Questbook
