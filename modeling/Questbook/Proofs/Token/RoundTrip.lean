import Questbook.Proofs.Token.Spelling

set_option autoImplicit false

/-! # Tokens read back

Well-formed conditions and changes are read from every spelling of their tokens
(`Condition.parse_of_spells`, `Change.parse_of_spells`). What is read is well formed, so every token
that is supported has a canonical form that states the same.

The canonical form of a threshold has to be found by the reader although `>=` is tried before the
colon: a name that holds `>=` gives no two fields of which the second is a numeral
(`readThreshold_append`).
-/

namespace Questbook

open Text

/-! ## Values -/

theorem nameAndNumber_numeralChars {name : String} {n : Int} (hname : IsName name)
    (hn : IsWritable n) (withPlus : Bool) :
    nameAndNumber [name.toList, numeralChars withPlus n] = .ok (some (name, n)) := by
  show (if name.toList.isEmpty = true then Except.ok none
    else (Numeral.parsePlain? (numeralChars withPlus n)).map _) = _
  rw [if_neg (by simpa using hname.nonempty), Numeral.parsePlain?_numeralChars hn]
  simp [Except.map]

theorem notMem_numeralChars {withPlus : Bool} {n : Int} {c : Char} (hp : c ≠ '+') (hm : c ≠ '-')
    (hd : c.isDigit = false) : c ∉ numeralChars withPlus n := by
  intro h
  rcases Numeral.numeralChars_cases h with h | h | h
  · exact hp h
  · exact hm h
  · simp [h] at hd

theorem holdsAtLeast_iff_of_padded {cs w : List Char} (h : Padded cs w) :
    HoldsAtLeast w ↔ HoldsAtLeast cs := by
  have hlen := congrArg List.length (map_trimChars_splitAtLeast_of_padded h)
  rw [List.length_map, List.length_map] at hlen
  rw [← Decidable.not_iff_not, ← length_splitAtLeast_eq_one_iff, ← length_splitAtLeast_eq_one_iff, hlen]

/-- A name and a number with a colon between them are no name and number with `>=` between them. -/
theorem nameAndNumber_splitAtLeast_colon (a : List Char) {b : List Char} (hb : '>' ∉ b) :
    nameAndNumber ((splitAtLeast (a ++ ':' :: b)).map trimChars) = .ok none := by
  unfold nameAndNumber
  split
  · next name number hparts =>
    split
    · rfl
    · obtain ⟨p, ps, hp, hps⟩ : ∃ p ps, splitAtLeast (a ++ ':' :: b) = p :: ps ∧
          ps.map trimChars = [number] := by
        obtain ⟨p, ps, hs, -, hps⟩ := List.map_eq_cons_iff.mp hparts
        exact ⟨p, ps, hs, hps⟩
      obtain ⟨q, rfl, hq⟩ : ∃ q, ps = [q] ∧ trimChars q = number := by
        obtain ⟨q, qs, rfl, hq, hqs⟩ := List.map_eq_cons_iff.mp hps
        exact ⟨q, by rw [List.map_eq_nil_iff.mp hqs], hq⟩
      -- the colon comes after the only `>=`, for nothing behind the colon holds one
      have hcolon : ':' ∈ q := by
        have hj := joinWith_splitAtLeast (a ++ ':' :: b)
        rw [hp] at hj
        have hj' : p ++ ('>' :: '=' :: q) = a ++ ':' :: b := by
          simpa [joinWith] using hj
        rcases List.append_eq_append_iff.mp hj' with ⟨r, -, hr⟩ | ⟨r, -, hr⟩
        · cases r with
          | nil => simp at hr
          | cons d r =>
              cases r with
              | nil => simp at hr
              | cons e r =>
                  have hq' : q = r ++ ':' :: b := by
                    simp only [List.cons_append, List.cons.injEq] at hr
                    exact hr.2.2
                  simp [hq']
        · have hm : '>' ∈ ':' :: b := by simp [hr]
          simp [hb] at hm
      rw [← hq, Numeral.parsePlain?_of_padded (padded_trimChars q) |>.symm,
        Numeral.parsePlain?_of_mem hcolon (by decide) (by decide) (by decide) (by decide)]
      rfl
  · rfl

/-- **A threshold is read from its name and its minimum** with the separator of the canonical form
between them. -/
theorem readThreshold_append {name : String} {n : Int} (hname : IsThresholdName name)
    (hn : IsWritable n) {a b : List Char} (ha : Padded name.toList a)
    (hb : Padded (numeralChars false n) b) :
    readThreshold (a ++ thresholdSeparator name ++ b) = .ok (some (name, n)) := by
  have hgt : '>' ∉ b := by
    rw [mem_padded_iff hb (by decide)]
    exact notMem_numeralChars (by decide) (by decide) (by decide)
  have hfields : [a, b].map trimChars = [name.toList, numeralChars false n] := by
    simp [hname.trimmed.trimChars_of_padded ha,
      (Numeral.trimmed_numeralChars false n).trimChars_of_padded hb]
  have hread := nameAndNumber_numeralChars hname.toIsName hn false
  unfold readThreshold thresholdSeparator
  by_cases hs : HoldsAtLeast name.toList
  · have hcolon : ':' ∉ a := by
      rw [mem_padded_iff ha (by decide)]
      exact fun hm => hname.oneSeparator ⟨hm, hs⟩
    have hcolon' : ':' ∉ b := by
      rw [mem_padded_iff hb (by decide)]
      exact notMem_numeralChars (by decide) (by decide) (by decide)
    have hcut : a ++ [':'] ++ b = a ++ ':' :: b := by simp
    rw [if_pos hs, hcut, nameAndNumber_splitAtLeast_colon a hgt]
    show nameAndNumber (allFields (a ++ ':' :: b)) = _
    rw [allFields, splitAt_append hcolon, splitAt_of_notMem hcolon', hfields, hread]
  · have hno : ¬ HoldsAtLeast a := by rwa [holdsAtLeast_iff_of_padded ha]
    have hno' : ¬ HoldsAtLeast b := fun h => hgt (h.subset (by simp))
    have hcut : a ++ ['>', '='] ++ b = a ++ '>' :: '=' :: b := by simp
    rw [if_neg hs, hcut, splitAtLeast_append hno, splitAtLeast_of_not_holds hno', hfields, hread]
    rfl

/-- **An update is read from its name and its number** with a colon between them. -/
theorem readUpdate_append {name : String} {u : Update} (hname : IsField name) (hu : u.WellFormed)
    {a b : List Char} (ha : Padded name.toList a)
    (hb : Padded (numeralChars (!u.isAbsolute) u.value) b) :
    readUpdate (a ++ ':' :: b) = .ok (some (name, u)) := by
  have hcolon : ':' ∉ a := by
    rw [mem_padded_iff ha (by decide)]
    exact hname.noColon
  unfold readUpdate
  rw [firstField_append hcolon, hname.trimmed.trimChars_of_padded ha,
    (Numeral.trimmed_numeralChars _ _).trimChars_of_padded hb]
  show (if name.toList.isEmpty = true then _ else _) = _
  rw [if_neg (by simpa using hname.nonempty)]
  cases u with
  | set value =>
      have hread : Numeral.parsePlain? (numeralChars false value) = .ok (some value) :=
        Numeral.parsePlain?_numeralChars hu.2 false
      show (Numeral.parsePlain? (numeralChars false value)).map _ = _
      rw [hread]
      simp [Except.map, Update.isAbsolute, Update.value, Numeral.isSigned_numeralChars_false hu.1]
  | shift delta =>
      have hread : Numeral.parsePlain? (numeralChars true delta) = .ok (some delta) :=
        Numeral.parsePlain?_numeralChars hu true
      show (Numeral.parsePlain? (numeralChars true delta)).map _ = _
      rw [hread]
      simp [Except.map, Update.isAbsolute, Update.value, Numeral.isSigned_numeralChars_true]

/-! ## The shapes of patterns -/

theorem spells_one {key : String} {q : Part} {w : List Char}
    (h : (Pattern.mk key [([':'], q)]).Spells w) :
    ∃ a b, (Part.word key).Spells a ∧ q.Spells b ∧ w = a ++ ':' :: b := by
  obtain ⟨a, _, ha, ⟨b, _, hb, rfl, rfl⟩, rfl⟩ := h
  exact ⟨a, b, ha, hb, by simp⟩

theorem spells_two {key : String} {q r : Part} {sep w : List Char}
    (h : (Pattern.mk key [([':'], q), (sep, r)]).Spells w) :
    ∃ a b c, (Part.word key).Spells a ∧ q.Spells b ∧ r.Spells c ∧
      w = a ++ ':' :: (b ++ sep ++ c) := by
  obtain ⟨a, _, ha, ⟨b, _, hb, ⟨c, _, hc, rfl, rfl⟩, rfl⟩, rfl⟩ := h
  exact ⟨a, b, c, ha, hb, hc, by simp⟩

theorem spells_three {key : String} {q r t : Part} {sep sep' w : List Char}
    (h : (Pattern.mk key [([':'], q), (sep, r), (sep', t)]).Spells w) :
    ∃ a b c d, (Part.word key).Spells a ∧ q.Spells b ∧ r.Spells c ∧ t.Spells d ∧
      w = a ++ ':' :: (b ++ sep ++ c ++ sep' ++ d) := by
  obtain ⟨a, _, ha, ⟨b, _, hb, ⟨c, _, hc, ⟨d, _, hd, rfl, rfl⟩, rfl⟩, rfl⟩, rfl⟩ := h
  exact ⟨a, b, c, d, ha, hb, hc, hd, by simp⟩

/-! ## The fields of padded parts -/

theorem IsField.notMem_of_padded {name : String} (hname : IsField name) {b : List Char}
    (hb : Padded name.toList b) : ':' ∉ b := by
  rw [mem_padded_iff hb (by decide)]
  exact hname.noColon

theorem firstField_trimChars_append {b : List Char} (hb : ':' ∉ b) (d : List Char) :
    firstField (trimChars (b ++ [':'] ++ d)) = (trimChars b, some (trimChars d)) := by
  have hcut : b ++ [':'] ++ d = b ++ ':' :: d := by simp
  rw [← firstField_of_padded (padded_trimChars _), hcut, firstField_append hb]

theorem firstField_trimChars_of_notMem {b : List Char} (hb : ':' ∉ b) :
    firstField (trimChars b) = (trimChars b, none) := by
  rw [← firstField_of_padded (padded_trimChars b), firstField_of_notMem hb]

theorem allFields_trimChars_two {b d : List Char} (hb : ':' ∉ b) (hd : ':' ∉ d) :
    allFields (trimChars (b ++ [':'] ++ d)) = [trimChars b, trimChars d] := by
  have hcut : b ++ [':'] ++ d = b ++ ':' :: d := by simp
  rw [← allFields_of_padded (padded_trimChars _), hcut, allFields, splitAt_append hb,
    splitAt_of_notMem hd]
  rfl

theorem allFields_trimChars_three {b d e : List Char} (hb : ':' ∉ b) (hd : ':' ∉ d)
    (he : ':' ∉ e) :
    allFields (trimChars (b ++ [':'] ++ d ++ [':'] ++ e)) =
      [trimChars b, trimChars d, trimChars e] := by
  have hcut : b ++ [':'] ++ d ++ [':'] ++ e = b ++ ':' :: (d ++ ':' :: e) := by simp
  rw [← allFields_of_padded (padded_trimChars _), hcut, allFields, splitAt_append hb,
    splitAt_append hd, splitAt_of_notMem he]
  rfl

/-! ## Conditions -/

theorem Condition.ofValue_threshold {make : String → Int → Condition} {name : String} {n : Int}
    (h : IsThresholdName name ∧ IsWritable n) {a b : List Char} (ha : Padded name.toList a)
    (hb : Padded (numeralChars false n) b) :
    (readThreshold (trimChars (a ++ thresholdSeparator name ++ b))).map
      (thresholdCondition make) = .ok (make name n) := by
  rw [← readThreshold_of_padded (padded_trimChars _), readThreshold_append h.1 h.2 ha hb]
  rfl

theorem dropAtLeast_of_notMem {cs : List Char} (h : '>' ∉ cs) : dropAtLeast cs = cs := by
  unfold dropAtLeast
  split
  · exact absurd (by simp) h
  · rfl

/-- **A condition is read from every spelling of its token.** -/
theorem Condition.parse_of_spells {c : Condition} {p : Pattern} {w : List Char}
    (hc : c.WellFormed) (hp : c.pattern? = some p) (hw : p.Spells w) :
    Condition.parse w = .ok c := by
  rcases c with name | ⟨name, n⟩ | name | ⟨name, _ | e⟩ | ⟨name, n⟩ | n | ⟨name, n⟩ | _
  case skill =>
    cases hp
    obtain ⟨a, b, ha, hb, rfl⟩ := spells_one hw
    rw [parse_of_value "skill" .skill (.of_isWord rfl) rfl ha,
      hc.trimmed.trimChars_of_padded hb]
    simp [Condition.ofValue, hc.nonempty]
  case item =>
    cases hp
    obtain ⟨a, b, ha, hb, rfl⟩ := spells_one hw
    rw [parse_of_value "item" .item (.of_isWord rfl) rfl ha,
      hc.trimmed.trimChars_of_padded hb]
    simp [Condition.ofValue, hc.nonempty]
  case stat =>
    cases hp
    obtain ⟨a, b, d, ha, hb, hd, rfl⟩ := spells_two hw
    rw [parse_of_value "stat" .stat (.of_isWord rfl) rfl ha]
    exact ofValue_threshold hc hb hd
  case counter =>
    cases hp
    obtain ⟨a, b, d, ha, hb, hd, rfl⟩ := spells_two hw
    rw [parse_of_value "counter" .counter (.of_isWord rfl) rfl ha]
    exact ofValue_threshold hc hb hd
  case slot =>
    cases hp
    obtain ⟨a, b, d, ha, hb, hd, rfl⟩ := spells_two hw
    rw [parse_of_value "slot" .slot (.of_isWord rfl) rfl ha]
    exact ofValue_threshold hc hb hd
  case flag.none =>
    cases hp
    obtain ⟨a, b, ha, hb, rfl⟩ := spells_one hw
    rw [parse_of_value "flag" .flag (.of_isWord rfl) rfl ha]
    simp only [Condition.ofValue]
    rw [firstField_trimChars_of_notMem (hc.1.notMem_of_padded hb),
      hc.1.trimmed.trimChars_of_padded hb]
    simp [hc.1.nonempty]
  case flag.some =>
    cases hp
    obtain ⟨a, b, d, ha, hb, hd, rfl⟩ := spells_two hw
    rw [parse_of_value "flag" .flag (.of_isWord rfl) rfl ha]
    simp only [Condition.ofValue]
    rw [firstField_trimChars_append (hc.1.notMem_of_padded hb),
      hc.1.trimmed.trimChars_of_padded hb, (hc.2 e rfl).trimChars_of_padded hd]
    simp [hc.1.nonempty]
  case combat =>
    cases hp
    obtain ⟨a, b, ha, hb, rfl⟩ := spells_one hw
    have hgt : '>' ∉ numeralChars false n :=
      notMem_numeralChars (by decide) (by decide) (by decide)
    rw [parse_of_value "combat" .combat (.of_isWord rfl) rfl ha,
      (Numeral.trimmed_numeralChars false n).trimChars_of_padded hb]
    simp only [Condition.ofValue]
    rw [dropAtLeast_of_notMem hgt, Numeral.parsePlain?_numeralChars hc]
    rfl
  case unsupported => cases hp

/-! ## Changes -/

theorem Change.ofValue_update {make : String → Update → Change} {name : String} {u : Update}
    (h : IsField name ∧ u.WellFormed) {a b : List Char} (ha : Padded name.toList a)
    (hb : Padded (numeralChars (!u.isAbsolute) u.value) b) :
    (readUpdate (trimChars (a ++ [':'] ++ b))).map (updateChange make) = .ok (make name u) := by
  have hcut : a ++ [':'] ++ b = a ++ ':' :: b := by simp
  rw [← readUpdate_of_padded (padded_trimChars _), hcut, readUpdate_append h.1 h.2 ha hb]
  rfl

/-- The amount of endurance that a spelled mode and number state. -/
theorem Change.ofValue_endurance {mode : String} (hmode : IsWord mode) {amount : Int}
    (h : 0 ≤ amount ∧ IsWritable amount) {b d : List Char} (hb : (Part.word mode).Spells b)
    (hd : Padded (numeralChars false amount) d) :
    Change.ofValue .endurance (trimChars (b ++ [':'] ++ d)) =
      .ok (enduranceChange mode.toList amount) := by
  obtain ⟨hlower, -, hcolon⟩ := hmode.of_spells hb
  have hself : lowerChars mode.toList = mode.toList := by
    have := (hmode.of_spells (Part.spells_word hmode)).1
    rwa [hmode.trimmed.trimChars_eq] at this
  simp only [Change.ofValue]
  rw [firstField_trimChars_append hcolon,
    (Numeral.trimmed_numeralChars false amount).trimChars_of_padded hd]
  show (Numeral.parsePlain? (numeralChars false amount)).map _ = _
  rw [Numeral.parsePlain?_numeralChars h.2]
  show Except.ok (enduranceChange (trimChars b) amount.natAbs) = _
  rw [Int.natAbs_of_nonneg h.1]
  unfold enduranceChange
  rw [hlower, hself]

/-- **A change is read from every spelling of its token.** -/
theorem Change.parse_of_spells {c : Change} {p : Pattern} {w : List Char}
    (hc : c.WellFormed) (hp : c.pattern? = some p) (hw : p.Spells w) :
    Change.parse w = .ok c := by
  cases c with
  | adjustStat name delta =>
      cases hp
      obtain ⟨a, b, d, ha, hb, hd, rfl⟩ := spells_two hw
      rw [parse_of_value "stat" .stat (.of_isWord rfl) rfl ha]
      simp only [Change.ofValue]
      rw [firstField_trimChars_append (hc.1.notMem_of_padded hb),
        hc.1.trimmed.trimChars_of_padded hb,
        (Numeral.trimmed_numeralChars true delta).trimChars_of_padded hd]
      show (nameAndNumber [name.toList, numeralChars true delta]).map _ = _
      rw [nameAndNumber_numeralChars hc.1.toIsName hc.2]
      rfl
  | adjustCombat delta =>
      cases hp
      obtain ⟨a, b, ha, hb, rfl⟩ := spells_one hw
      rw [parse_of_value "combat" .combat (.of_isWord rfl) rfl ha,
        (Numeral.trimmed_numeralChars true delta).trimChars_of_padded hb]
      simp only [Change.ofValue]
      rw [Numeral.parsePlain?_numeralChars hc]
      rfl
  | damage amount =>
      cases hp
      obtain ⟨a, b, d, ha, hb, hd, rfl⟩ := spells_two hw
      rw [parse_of_value "endurance" .endurance (.of_isWord rfl) rfl ha,
        ofValue_endurance (.of_isWord rfl) hc hb hd]
      rfl
  | heal amount =>
      cases hp
      obtain ⟨a, b, d, ha, hb, hd, rfl⟩ := spells_two hw
      rw [parse_of_value "endurance" .endurance (.of_isWord rfl) rfl ha,
        ofValue_endurance (.of_isWord rfl) hc hb hd]
      rfl
  | addItem name category =>
      cases hp
      obtain ⟨a, b, d, e, ha, hb, hd, he, rfl⟩ := spells_three hw
      obtain ⟨hlower, -, hcolon⟩ := IsWord.of_spells (.of_isWord rfl) hb
      rw [parse_of_value "item" .item (.of_isWord rfl) rfl ha]
      simp only [Change.ofValue]
      rw [allFields_trimChars_three hcolon (hc.1.notMem_of_padded hd) (hc.2.notMem_of_padded he),
        hc.1.trimmed.trimChars_of_padded hd, hc.2.trimmed.trimChars_of_padded he]
      have hadd : itemChange [trimChars b, name.toList, category.toList] =
          addition name.toList (some category.toList) := by
        simp [itemChange, hlower]
      rw [hadd]
      cases hcat : category.toList with
      | nil => exact absurd hcat hc.2.nonempty
      | cons c cs => simp [addition, hc.1.nonempty, ← hcat]
  | removeItem name =>
      cases hp
      obtain ⟨a, b, d, ha, hb, hd, rfl⟩ := spells_two hw
      obtain ⟨hlower, -, hcolon⟩ := IsWord.of_spells (.of_isWord rfl) hb
      rw [parse_of_value "item" .item (.of_isWord rfl) rfl ha]
      simp only [Change.ofValue]
      rw [allFields_trimChars_two hcolon (IsField.notMem_of_padded hc hd),
        hc.trimmed.trimChars_of_padded hd]
      simp [itemChange, hlower, hc.nonempty]
  | setFlag name value =>
      cases hp
      obtain ⟨a, b, d, ha, hb, hd, rfl⟩ := spells_two hw
      rw [parse_of_value "flag" .flag (.of_isWord rfl) rfl ha]
      simp only [Change.ofValue]
      rw [firstField_trimChars_append (hc.1.notMem_of_padded hb),
        hc.1.trimmed.trimChars_of_padded hb, hc.2.trimChars_of_padded hd]
      simp [hc.1.nonempty]
  | grantDiscipline name =>
      cases hp
      obtain ⟨a, b, ha, hb, rfl⟩ := spells_one hw
      rw [parse_of_value "discipline" .discipline (.of_isWord rfl) rfl ha,
        hc.trimmed.trimChars_of_padded hb]
      simp [Change.ofValue, hc.nonempty]
  | updateCounter name u =>
      cases hp
      obtain ⟨a, b, d, ha, hb, hd, rfl⟩ := spells_two hw
      rw [parse_of_value "counter" .counter (.of_isWord rfl) rfl ha]
      exact ofValue_update hc hb hd
  | updateSlot name u =>
      cases hp
      obtain ⟨a, b, d, ha, hb, hd, rfl⟩ := spells_two hw
      rw [parse_of_value "slot" .slot (.of_isWord rfl) rfl ha]
      exact ofValue_update hc hb hd
  | unsupported => cases hp

/-! ## Tokens -/

theorem Condition.pattern?_isSome {c : Condition} (h : c ≠ .unsupported) :
    ∃ p, c.pattern? = some p := by
  rcases c with name | ⟨name, n⟩ | name | ⟨name, _ | e⟩ | ⟨name, n⟩ | n | ⟨name, n⟩ | _
  case unsupported => exact absurd rfl h
  all_goals exact ⟨_, rfl⟩

theorem Change.pattern?_isSome {c : Change} (h : c ≠ .unsupported) : ∃ p, c.pattern? = some p := by
  cases c
  case unsupported => exact absurd rfl h
  all_goals exact ⟨_, rfl⟩

/-- **Tokens are read back.** What a supported token states is well formed and has a canonical
token; that token, and every spelling of it, states the same again. -/
theorem parse_render_of_parse :
    (∀ (raw : String) (r : Requirement), Requirement.parse raw = .ok r →
      r.condition ≠ .unsupported →
      r.raw = raw ∧ r.condition.WellFormed ∧
        ∃ p token, r.condition.pattern? = some p ∧ r.condition.render? = some token ∧
          p.canonical = token ∧
          Requirement.parse (String.ofList token) = .ok { r with raw := String.ofList token } ∧
          ∀ w : String, p.Spells w.toList → Requirement.parse w = .ok { r with raw := w }) ∧
    (∀ (raw : String) (e : Effect), Effect.parse raw = .ok e → e.change ≠ .unsupported →
      e.raw = raw ∧ e.change.WellFormed ∧
        ∃ p token, e.change.pattern? = some p ∧ e.change.render? = some token ∧
          p.canonical = token ∧
          Effect.parse (String.ofList token) = .ok { e with raw := String.ofList token } ∧
          ∀ w : String, p.Spells w.toList → Effect.parse w = .ok { e with raw := w }) := by
  constructor
  · intro raw r h hne
    obtain ⟨c, hc, rfl⟩ := map_eq_ok_iff.mp h
    have hwf : c.WellFormed := Condition.wellFormed_of_parse hc
    obtain ⟨p, hp⟩ := Condition.pattern?_isSome hne
    refine ⟨rfl, hwf, p, p.canonical, hp, ?_, rfl, ?_, ?_⟩
    · rw [Condition.render?_eq, hp]
      rfl
    · have hspells := Condition.spells_canonical hp
      rw [← String.toList_ofList (l := p.canonical)] at hspells
      exact Requirement.parse_eq (Condition.parse_of_spells hwf hp hspells)
    · intro w hw
      exact Requirement.parse_eq (Condition.parse_of_spells hwf hp hw)
  · intro raw e h hne
    obtain ⟨c, hc, rfl⟩ := map_eq_ok_iff.mp h
    have hwf : c.WellFormed := Change.wellFormed_of_parse hc
    obtain ⟨p, hp⟩ := Change.pattern?_isSome hne
    refine ⟨rfl, hwf, p, p.canonical, hp, ?_, rfl, ?_, ?_⟩
    · rw [Change.render?_eq, hp]
      rfl
    · have hspells := Change.spells_canonical hp
      rw [← String.toList_ofList (l := p.canonical)] at hspells
      exact Effect.parse_eq (Change.parse_of_spells hwf hp hspells)
    · intro w hw
      exact Effect.parse_eq (Change.parse_of_spells hwf hp hw)

/-- A threshold whose name holds `>=`, and an item with a category. -/
theorem parse_render_of_parse_threshold_and_item :
    Requirement.parse " Counter : a >= b : +07" =
      .ok ⟨.counter "a >= b" 7, " Counter : a >= b : +07"⟩ ∧
    Effect.parse "ITEM: Add:Sword :weapon:x" =
      .ok ⟨.addItem "Sword" "weapon", "ITEM: Add:Sword :weapon:x"⟩ ∧
    Requirement.parse (String.ofList "counter:a >= b:7".toList) =
      .ok ⟨.counter "a >= b" 7, String.ofList "counter:a >= b:7".toList⟩ ∧
    Effect.parse (String.ofList "item:add:Sword:weapon".toList) =
      .ok ⟨.addItem "Sword" "weapon", String.ofList "item:add:Sword:weapon".toList⟩ := by
  have hr : Requirement.parse " Counter : a >= b : +07" =
      .ok ⟨.counter "a >= b" 7, " Counter : a >= b : +07"⟩ := by rfl
  have he : Effect.parse "ITEM: Add:Sword :weapon:x" =
      .ok ⟨.addItem "Sword" "weapon", "ITEM: Add:Sword :weapon:x"⟩ := by rfl
  obtain ⟨-, -, p, token, hp, -, rfl, hread, -⟩ := parse_render_of_parse.1 _ _ hr (by decide)
  obtain ⟨-, -, q, token', hq, -, rfl, hread', -⟩ := parse_render_of_parse.2 _ _ he (by decide)
  cases hp
  cases hq
  exact ⟨hr, he, hread, hread'⟩

end Questbook
