import Questbook.Proofs.Token.Grammar
import Questbook.Proofs.Token.Spelling

set_option autoImplicit false

/-! # What the readers of tokens accept

The readers accept exactly the tokens of the grammar (`parse_isSupported_iff`), and the only texts
that they have a fault for are tokens with a long numeral; whatever else is read keeps its text
(`parse_outcome`).

Each reader has one lemma, `reads_…`, which states both at once, and which the lemma of the reader
that calls it is made from.
-/

namespace Questbook

open Text Numeral

/-! ## Names and numbers -/

theorem isEmpty_trimChars {cs : List Char} : (trimChars cs).isEmpty = true ↔ AllBlank cs := by
  rw [List.isEmpty_iff, trimChars_eq_nil_iff, List.all_eq_true]
  exact Iff.rfl

theorem trimChars_ne_nil_iff {cs : List Char} : trimChars cs ≠ [] ↔ NotBlank cs := by
  rw [Ne, ← List.isEmpty_iff, isEmpty_trimChars]
  exact Iff.rfl

theorem isShort_trimChars {cs : List Char} : IsShort (trimChars cs) ↔ IsShort cs := by
  simp only [IsShort, hasDigits_trimChars]

theorem isOverlong_trimChars {cs : List Char} :
    IsOverlong (trimChars cs) ↔ IsOverlong cs := by
  simp only [IsOverlong, hasDigits_trimChars]

/-- The reader of numerals does not look at the blanks around a text. -/
theorem reads_parsePlain?_trimChars (cs : List Char) :
    Reads IsRead (parsePlain? (trimChars cs)) (IsOverlong cs) (IsShort cs) :=
  (reads_parsePlain? (trimChars cs)).congr isOverlong_trimChars isShort_trimChars

/-- A name and a number are read when the name is not blank. -/
theorem reads_name_and_number {α : Type} (name number : List Char) (make : Int → α) :
    Reads IsRead
      (if (trimChars name).isEmpty then .ok none
        else (parsePlain? (trimChars number)).map fun n => n.map make)
      (NotBlank name ∧ IsOverlong number) (NotBlank name ∧ IsShort number) := by
  by_cases hname : AllBlank name
  · have hnot : ¬ NotBlank name := not_not_intro hname
    rw [if_pos (isEmpty_trimChars.mpr hname)]
    exact (Reads.of_ok none).congr (by simp [hnot]) (by simp [hnot, IsRead])
  · have hnot : NotBlank name := hname
    rw [if_neg (mt isEmpty_trimChars.mp hname)]
    have hread : ∀ o : Option Int, IsRead (o.map make) ↔ IsRead o ∧ True := by
      intro o
      cases o <;> simp [IsRead]
    exact ((reads_parsePlain?_trimChars number).map hread).congr (by simp [hnot])
      (by simp [hnot])

/-- A name and a numeral as the two pieces of a text. -/
def PairForm (num : List Char → Prop) (parts : List (List Char)) : Prop :=
  ∃ name number, parts = [name, number] ∧ NotBlank name ∧ num number

theorem pairForm_pair {num : List Char → Prop} {a b : List Char} :
    PairForm num [a, b] ↔ NotBlank a ∧ num b := by
  constructor
  · rintro ⟨name, number, heq, h⟩
    cases heq
    exact h
  · intro h
    exact ⟨a, b, rfl, h⟩

/-- A name and a number are read from a text in two pieces. -/
theorem reads_nameAndNumber (parts : List (List Char)) :
    Reads IsRead (nameAndNumber (parts.map trimChars)) (PairForm IsOverlong parts)
      (PairForm IsShort parts) := by
  match parts with
  | [name, number] =>
      exact (reads_name_and_number name number fun n => (String.ofList (trimChars name), n)).congr
        pairForm_pair.symm pairForm_pair.symm
  | [] => exact (Reads.of_ok none).congr (by simp [PairForm]) (by simp [PairForm, IsRead])
  | [_] => exact (Reads.of_ok none).congr (by simp [PairForm]) (by simp [PairForm, IsRead])
  | _ :: _ :: _ :: _ =>
      exact (Reads.of_ok none).congr (by simp [PairForm]) (by simp [PairForm, IsRead])

theorem reads_atLeast (value : List Char) :
    Reads IsRead (nameAndNumber ((splitAtLeast value).map trimChars))
      (AtLeastForm IsOverlong value) (AtLeastForm IsShort value) := by
  refine (reads_nameAndNumber (splitAtLeast value)).congr ?_ ?_ <;>
    simp only [PairForm, splitAtLeast_eq_pair_iff, AtLeastForm, and_assoc]

theorem reads_colon (value : List Char) :
    Reads IsRead (nameAndNumber (allFields value))
      (ColonForm IsOverlong value) (ColonForm IsShort value) := by
  refine (reads_nameAndNumber (Text.splitAt ':' value)).congr ?_ ?_ <;>
    simp only [PairForm, splitAt_eq_pair_iff, ColonForm, and_assoc]

/-! ## Thresholds -/

/-- **What the reader of thresholds makes of a text.** -/
theorem reads_readThreshold (value : List Char) :
    Reads IsRead (readThreshold value) (ThresholdForm IsOverlong value)
      (ThresholdForm IsShort value) := by
  have hfirst := reads_atLeast value
  have hsecond := reads_colon value
  have hnot : ∀ {num num' : List Char → Prop}, (∀ cs, num cs → IsInteger cs) →
      (∀ cs, num' cs → IsInteger cs) → AtLeastForm num value → ¬ ColonForm num' value := by
    intro num num' hi hi' ha hc
    exact not_atLeastForm_and_colonForm value ⟨ha.imp hi, hc.imp hi'⟩
  have hlong : ∀ cs, IsOverlong cs → IsInteger cs := fun _ h => h.isInteger
  have hshort : ∀ cs, IsShort cs → IsInteger cs := fun _ h => h.isInteger
  unfold readThreshold
  cases h : nameAndNumber ((splitAtLeast value).map trimChars) with
  | error f =>
      obtain ⟨rfl, ha⟩ := (hfirst.error_iff f).mp h
      have hs : ¬ AtLeastForm IsShort value := by
        intro has
        obtain ⟨o, ho, -⟩ := hfirst.good_iff.mpr has
        rw [h] at ho
        cases ho
      refine ⟨?_, ?_⟩
      · intro g
        simp [bind, Except.bind, ThresholdForm, ha, eq_comm]
      · simp [bind, Except.bind, ThresholdForm, hs, hnot hlong hshort ha]
  | ok o =>
      have hl : ¬ AtLeastForm IsOverlong value := by
        intro hal
        rw [(hfirst.error_iff .longNumeral).mpr ⟨rfl, hal⟩] at h
        cases h
      cases o with
      | none =>
          have hs : ¬ AtLeastForm IsShort value := by
            intro has
            obtain ⟨o, ho, hread⟩ := hfirst.good_iff.mpr has
            rw [h] at ho
            cases ho
            cases hread
          exact hsecond.congr (by simp [ThresholdForm, hl]) (by simp [ThresholdForm, hs])
      | some t =>
          have ha : AtLeastForm IsShort value := hfirst.good_iff.mp ⟨some t, h, rfl⟩
          have hc : ¬ ColonForm IsOverlong value := hnot hshort hlong ha
          exact (Reads.of_ok (some t)).congr (by simp [ThresholdForm, hl, hc])
            (by simp [ThresholdForm, ha, IsRead])

/-! ## Updates -/

/-- **What the reader of updates makes of a text.** -/
theorem reads_readUpdate (value : List Char) :
    Reads IsRead (readUpdate value) (AssignmentForm NotBlank IsOverlong value)
      (AssignmentForm NotBlank IsShort value) := by
  obtain ⟨name, rest, hcut⟩ := exists_cutAtColon value
  unfold readUpdate
  rw [hcut.firstField]
  cases rest with
  | none =>
      exact (Reads.of_ok none).congr (by simp [not_assignmentForm hcut])
        (by simp [IsRead, not_assignmentForm hcut])
  | some number =>
      exact (reads_name_and_number name number _).congr (assignmentForm_iff hcut).symm
        (assignmentForm_iff hcut).symm

/-! ## Values of requirements -/

/-- A condition that a supported token states. -/
def Condition.IsSupported (c : Condition) : Prop := c ≠ .unsupported

/-- A result that is made from a text exactly when it is not empty. -/
theorem reads_ite_isEmpty {α : Type} {good : α → Prop} {none some : α} (hn : ¬ good none)
    (hs : good some) (cs : List Char) :
    Reads good (.ok (if cs.isEmpty then none else some)) False (cs ≠ []) := by
  refine (Reads.of_ok _).congr Iff.rfl ?_
  cases cs with
  | nil => simp [hn]
  | cons c cs => simp [hs]

theorem reads_threshold {make : String → Int → Condition}
    (hmake : ∀ name n, (make name n).IsSupported) (value : List Char) :
    Reads Condition.IsSupported ((readThreshold value).map (thresholdCondition make))
      (ThresholdForm IsOverlong value) (ThresholdForm IsShort value) := by
  have hread : ∀ o, (thresholdCondition make o).IsSupported ↔ IsRead o ∧ True := by
    intro o
    cases o with
    | none => simp [thresholdCondition, Condition.IsSupported, IsRead]
    | some t => simpa [thresholdCondition, IsRead] using hmake t.1 t.2
  exact ((reads_readThreshold value).map hread).congr Iff.rfl (by simp)

/-- The value of a `combat` requirement may start with `>=`. -/
theorem dropAtLeast_iff {num : List Char → Prop} (hnum : ∀ cs, num cs → IsInteger cs)
    (value : List Char) :
    num (dropAtLeast value) ↔ num value ∨ ∃ number, value = '>' :: '=' :: number ∧ num number := by
  have hnot : ∀ number, ¬ num ('>' :: '=' :: number) := by
    intro number h
    have hm : '>' ∉ '>' :: '=' :: number :=
      (hnum _ h).notMem (by decide) (by decide) (by decide) (by decide)
    simp at hm
  unfold dropAtLeast
  split
  · next number => simp [hnot number]
  · next h =>
    constructor
    · exact Or.inl
    · rintro (hn | ⟨number, rfl, -⟩)
      · exact hn
      · exact absurd rfl (h number)

theorem Condition.isSupported_combat (o : Option Int) :
    IsSupported (match o with
      | some minimum => .combat minimum
      | none => .unsupported) ↔ IsRead o ∧ True := by
  cases o <;> simp [IsSupported, IsRead]

/-- **What the reader of a requirement makes of its value.** -/
theorem Condition.reads_ofValue (kind : Condition.Kind) (value : List Char) :
    Reads IsSupported (Condition.ofValue kind value) (kind.Overflows value)
      (kind.Accepts IsShort value) := by
  cases kind with
  | skill => exact reads_ite_isEmpty (by simp [IsSupported]) (by simp [IsSupported]) value
  | item => exact reads_ite_isEmpty (by simp [IsSupported]) (by simp [IsSupported]) value
  | stat => exact reads_threshold (by simp [IsSupported]) value
  | counter => exact reads_threshold (by simp [IsSupported]) value
  | slot => exact reads_threshold (by simp [IsSupported]) value
  | flag =>
      obtain ⟨name, rest, hcut⟩ := exists_cutAtColon value
      simp only [Condition.ofValue, hcut.firstField]
      refine (reads_ite_isEmpty (by simp [IsSupported]) (by simp [IsSupported]) _).congr Iff.rfl ?_
      rw [trimChars_ne_nil_iff]
      exact (startsNamed_iff hcut).symm
  | combat =>
      refine ((reads_parsePlain? (dropAtLeast value)).map isSupported_combat).congr ?_ ?_
      · exact dropAtLeast_iff (fun _ h => h.isInteger) value
      · rw [and_true]
        exact dropAtLeast_iff (fun _ h => h.isInteger) value

/-! ## Values of effects -/

/-- A change that a supported token states. -/
def Change.IsSupported (c : Change) : Prop := c ≠ .unsupported

theorem reads_update {make : String → Update → Change}
    (hmake : ∀ name u, (make name u).IsSupported) (value : List Char) :
    Reads Change.IsSupported ((readUpdate value).map (updateChange make))
      (AssignmentForm NotBlank IsOverlong value) (AssignmentForm NotBlank IsShort value) := by
  have hread : ∀ o, (updateChange make o).IsSupported ↔ IsRead o ∧ True := by
    intro o
    cases o with
    | none => simp [updateChange, Change.IsSupported, IsRead]
    | some t => simpa [updateChange, IsRead] using hmake t.1 t.2
  exact ((reads_readUpdate value).map hread).congr Iff.rfl (by simp)

theorem isSupported_addition {name : List Char} (category : Option (List Char)) :
    (addition (trimChars name) category).IsSupported ↔ NotBlank name := by
  unfold addition
  by_cases h : AllBlank name
  · rw [if_pos (isEmpty_trimChars.mpr h)]
    simp [Change.IsSupported, NotBlank, h]
  · rw [if_neg (mt isEmpty_trimChars.mp h)]
    simp [Change.IsSupported, NotBlank, h]

theorem isSupported_removal {name : List Char} :
    Change.IsSupported (if (trimChars name).isEmpty then .unsupported
      else .removeItem (String.ofList (trimChars name))) ↔ NotBlank name := by
  by_cases h : AllBlank name
  · rw [if_pos (isEmpty_trimChars.mpr h)]
    simp [Change.IsSupported, NotBlank, h]
  · rw [if_neg (mt isEmpty_trimChars.mp h)]
    simp [Change.IsSupported, NotBlank, h]

/-- The fields behind the first colon of a text. -/
def fieldsAfter : Option (List Char) → List (List Char)
  | none => []
  | some rest => allFields rest

/-- The fields of a text are what stands before its first colon, and the fields behind it. -/
theorem CutAtColon.allFields {value first : List Char} {rest : Option (List Char)}
    (h : CutAtColon value first rest) :
    allFields value = trimChars first :: fieldsAfter rest := by
  unfold Questbook.allFields fieldsAfter
  cases h with
  | whole h => rw [splitAt_of_notMem h]; rfl
  | cut h b => rw [splitAt_append h]; rfl

/-- A word that a text reads as is not blank. -/
theorem ReadsAs.notBlank {w : String} {cs : List Char} (h : ReadsAs w cs) (hw : w.toList ≠ []) :
    NotBlank cs := by
  rw [← trimChars_ne_nil_iff]
  intro hnil
  unfold ReadsAs at h
  rw [hnil, lowerChars_nil] at h
  exact hw h.symm

/-- The name after a word of an `item` effect decides whether the effect is supported. -/
theorem isSupported_of_action (make : List Char → List (List Char) → Change)
    (hmake : ∀ name fields, (make (trimChars name) fields).IsSupported ↔ NotBlank name)
    (rest : Option (List Char)) :
    (match fieldsAfter rest with
      | [] => Change.unsupported
      | name :: fields => make name fields).IsSupported ↔
      ∃ second, rest = some second ∧ StartsNamed second := by
  cases rest with
  | none => simp [fieldsAfter, Change.IsSupported]
  | some r =>
      obtain ⟨name, rest, hcut⟩ := exists_cutAtColon r
      simp [fieldsAfter, hcut.allFields, hmake, startsNamed_iff hcut]

/-- **An `item` effect is supported when its value has the form of one.** -/
theorem isSupported_itemChange (value : List Char) :
    (itemChange (allFields value)).IsSupported ↔ ItemForm value := by
  obtain ⟨first, rest, hcut⟩ := exists_cutAtColon value
  rw [hcut.allFields, itemForm_iff hcut]
  unfold itemChange
  split
  · next heq => cases heq
  · next action fields heq =>
    obtain ⟨rfl, rfl⟩ := List.cons.inj heq
    split
    · next hadd =>
      have hname : NotBlank first := ReadsAs.notBlank (w := "add") hadd (by decide)
      have haction : IsAction first := Or.inl hadd
      refine (isSupported_of_action (fun name fields => addition name fields.head?)
        (fun name _ => isSupported_addition _) rest).trans ?_
      simp only [hname, haction, true_and, forall_const]
    · next hadd =>
      split
      · next hremove =>
        have hname : NotBlank first := ReadsAs.notBlank (w := "remove") hremove (by decide)
        have haction : IsAction first := Or.inr hremove
        refine (isSupported_of_action
          (fun name _ => if name.isEmpty then .unsupported else .removeItem (String.ofList name))
          (fun name _ => isSupported_removal) rest).trans ?_
        simp only [hname, haction, true_and, forall_const]
      · next hremove =>
        have haction : ¬ IsAction first := not_or.mpr ⟨hadd, hremove⟩
        rw [isSupported_addition]
        simp [haction]

theorem isSupported_enduranceChange (mode : List Char) (amount : Int) :
    (enduranceChange (trimChars mode) amount).IsSupported ↔ IsMode mode := by
  unfold enduranceChange
  split
  · next hdamage => exact iff_of_true (by simp [Change.IsSupported]) (Or.inl hdamage)
  · next hdamage =>
    split
    · next hheal => exact iff_of_true (by simp [Change.IsSupported]) (Or.inr hheal)
    · next hheal =>
      exact iff_of_false (by simp [Change.IsSupported]) (not_or.mpr ⟨hdamage, hheal⟩)

theorem Change.isSupported_adjustStat (o : Option (String × Int)) :
    IsSupported (match o with
      | some (name, delta) => .adjustStat name delta
      | none => .unsupported) ↔ IsRead o ∧ True := by
  cases o <;> simp [IsSupported, IsRead]

theorem Change.isSupported_adjustCombat (o : Option Int) :
    IsSupported (match o with
      | some delta => .adjustCombat delta
      | none => .unsupported) ↔ IsRead o ∧ True := by
  cases o <;> simp [IsSupported, IsRead]

theorem Change.isSupported_endurance (mode : List Char) (o : Option Int) :
    IsSupported (match o with
      | some n => enduranceChange (trimChars mode) n.natAbs
      | none => .unsupported) ↔ IsRead o ∧ IsMode mode := by
  cases o with
  | none => simp [IsSupported, IsRead]
  | some n => simp [IsRead, isSupported_enduranceChange]

/-- **What the reader of an effect makes of its value.** -/
theorem Change.reads_ofValue (kind : Change.Kind) (value : List Char) :
    Reads IsSupported (Change.ofValue kind value) (kind.Overflows value)
      (kind.Accepts IsShort value) := by
  cases kind with
  | stat =>
      obtain ⟨name, rest, hcut⟩ := exists_cutAtColon value
      simp only [Change.ofValue, hcut.firstField]
      cases rest with
      | none =>
          exact (Reads.of_ok _).congr (iff_of_false id (not_assignmentForm hcut))
            (iff_of_false (fun h => h rfl) (not_assignmentForm hcut))
      | some number =>
          refine ((reads_nameAndNumber [name, number]).map isSupported_adjustStat).congr ?_ ?_
          · rw [pairForm_pair]
            exact (assignmentForm_iff hcut).symm
          · rw [pairForm_pair, and_true]
            exact (assignmentForm_iff hcut).symm
  | combat =>
      exact ((reads_parsePlain? value).map isSupported_adjustCombat).congr Iff.rfl (by rw [and_true]; rfl)
  | endurance =>
      obtain ⟨mode, rest, hcut⟩ := exists_cutAtColon value
      simp only [Change.ofValue, hcut.firstField]
      cases rest with
      | none =>
          exact (Reads.of_ok _).congr (iff_of_false id (not_assignmentForm hcut))
            (iff_of_false (fun h => h rfl) (not_assignmentForm hcut))
      | some number =>
          refine ((reads_parsePlain?_trimChars number).map (isSupported_endurance mode)).congr ?_ ?_
          · have hform : AssignmentForm (fun _ => True) IsOverlong value ↔
                True ∧ IsOverlong number := assignmentForm_iff hcut
            rw [true_and] at hform
            exact hform.symm
          · exact and_comm.trans (assignmentForm_iff hcut).symm
  | item => exact (Reads.of_ok _).congr Iff.rfl (isSupported_itemChange value)
  | flag =>
      obtain ⟨name, rest, hcut⟩ := exists_cutAtColon value
      simp only [Change.ofValue, hcut.firstField]
      refine (reads_ite_isEmpty (by simp [IsSupported]) (by simp [IsSupported]) _).congr Iff.rfl ?_
      rw [trimChars_ne_nil_iff]
      exact (startsNamed_iff hcut).symm
  | discipline => exact reads_ite_isEmpty (by simp [IsSupported]) (by simp [IsSupported]) value
  | counter => exact reads_update (by simp [IsSupported]) value
  | slot => exact reads_update (by simp [IsSupported]) value

/-! ## Tokens -/

theorem cutToken_eq_some_iff {token key value : List Char} :
    cutToken token = some (key, value) ↔
      ∃ k v, CutAtColon (trimChars token) k (some v) ∧ trimChars k ≠ [] ∧ trimChars k = key ∧
        trimChars v = value := by
  obtain ⟨k, rest, hcut⟩ := exists_cutAtColon (trimChars token)
  unfold cutToken
  rw [cutAtColon_iff.mp hcut]
  constructor
  · intro h
    cases rest with
    | none => cases h
    | some v =>
        by_cases hk : (trimChars k).isEmpty = true
        · simp [hk] at h
        · simp only [hk] at h
          cases h
          exact ⟨k, v, hcut, ne_nil_of_isEmpty_eq_false hk, rfl, rfl⟩
  · rintro ⟨k', v, hcut', hne, rfl, rfl⟩
    obtain ⟨rfl, rfl⟩ := hcut.unique hcut'
    have hk : ¬ (trimChars k).isEmpty = true := by rwa [List.isEmpty_iff]
    simp [hk]

/-- The entry of a table that a key is read as, when no two entries have the same key. -/
theorem kindOf?_eq_some_iff {κ : Type} {keys : List (String × κ)}
    (hkeys : (keys.map fun e => e.1).Nodup) {key : List Char} {kind : κ} :
    kindOf? keys (trimChars key) = some kind ↔
      ∃ entry ∈ keys, ReadsAs entry.1 key ∧ entry.2 = kind := by
  unfold kindOf?
  rw [Option.map_eq_some_iff]
  constructor
  · rintro ⟨entry, hfind, rfl⟩
    have hreads : entry.1.toList = lowerChars (trimChars key) := by
      simpa using List.find?_some hfind
    exact ⟨entry, List.mem_of_find?_eq_some hfind, hreads.symm, rfl⟩
  · rintro ⟨entry, hmem, hreads, rfl⟩
    refine ⟨entry, ?_, rfl⟩
    induction keys with
    | nil => cases hmem
    | cons e keys ih =>
        obtain ⟨hnot, hnodup⟩ := List.nodup_cons.mp hkeys
        rcases List.mem_cons.mp hmem with rfl | hmem
        · exact List.find?_cons_of_pos (decide_eq_true hreads.symm)
        · -- an entry in front with the same key would stand for it twice
          have hne : e.1.toList ≠ lowerChars (trimChars key) := by
            intro heq
            have hkey : entry.1 = e.1 := String.toList_inj.mp (heq.trans hreads).symm
            exact hnot (List.mem_map.mpr ⟨entry, hmem, hkey⟩)
          rw [List.find?_cons_of_neg (by simpa using hne)]
          exact ih hnodup hmem

/-- A token of a table of keys is cut into a key of the table and a value. -/
theorem isTokenOf_iff {κ : Type} {keys : List (String × κ)}
    (hkeys : (keys.map fun e => e.1).Nodup) {fits : κ → List Char → Prop} {token : List Char} :
    IsTokenOf keys fits token ↔ ∃ key value kind, cutToken token = some (key, value) ∧
      kindOf? keys key = some kind ∧ fits kind value := by
  constructor
  · rintro ⟨k, v, hcut, hne, entry, hmem, hreads, hfits⟩
    exact ⟨trimChars k, trimChars v, entry.2, cutToken_eq_some_iff.mpr ⟨k, v, hcut, hne, rfl, rfl⟩,
      (kindOf?_eq_some_iff hkeys).mpr ⟨entry, hmem, hreads, rfl⟩, hfits⟩
  · rintro ⟨key, value, kind, htoken, hkind, hfits⟩
    obtain ⟨k, v, hcut, hne, rfl, rfl⟩ := cutToken_eq_some_iff.mp htoken
    obtain ⟨entry, hmem, hreads, rfl⟩ := (kindOf?_eq_some_iff hkeys).mp hkind
    exact ⟨k, v, hcut, hne, entry, hmem, hreads, hfits⟩

/-- **A result that goes by the key of a token:** that of the value under a key of the table, and
`unsupported` under any other key and without one. -/
structure GoesByKey {κ α : Type} (keys : List (String × κ)) (unsupported : α)
    (ofValue : κ → List Char → Except Fault α) (token : List Char) (x : Except Fault α) : Prop where
  noKey : cutToken token = none → x = .ok unsupported
  unknown : ∀ key value, cutToken token = some (key, value) → kindOf? keys key = none →
    x = .ok unsupported
  known : ∀ key value kind, cutToken token = some (key, value) → kindOf? keys key = some kind →
    x = ofValue kind value

/-- A reader that goes by the key makes of a token what is made of its value. -/
theorem GoesByKey.reads {κ α : Type} {good : α → Prop} {unsupported : α}
    {keys : List (String × κ)} {ofValue : κ → List Char → Except Fault α} {token : List Char}
    {x : Except Fault α} (hx : GoesByKey keys unsupported ofValue token x)
    (hnot : ¬ good unsupported) (hkeys : (keys.map fun e => e.1).Nodup)
    {long fits : κ → List Char → Prop}
    (h : ∀ kind value, Reads good (ofValue kind value) (long kind value) (fits kind value)) :
    Reads good x (IsTokenOf keys long token) (IsTokenOf keys fits token) := by
  simp only [isTokenOf_iff hkeys]
  cases htoken : cutToken token with
  | none =>
      rw [hx.noKey htoken]
      exact (Reads.of_ok _).congr (by simp) (by simp [hnot])
  | some p =>
      obtain ⟨key, value⟩ := p
      have hcut : ∀ {q : κ → List Char → Prop},
          (∃ k v kind, some (key, value) = some (k, v) ∧ kindOf? keys k = some kind ∧ q kind v) ↔
            ∃ kind, kindOf? keys key = some kind ∧ q kind value := by
        intro q
        constructor
        · rintro ⟨k, v, kind, heq, hq⟩
          cases heq
          exact ⟨kind, hq⟩
        · rintro ⟨kind, hq⟩
          exact ⟨key, value, kind, rfl, hq⟩
      simp only [hcut]
      cases hkind : kindOf? keys key with
      | none =>
          rw [hx.unknown key value htoken hkind]
          exact (Reads.of_ok _).congr (by simp) (by simp [hnot])
      | some kind =>
          rw [hx.known key value kind htoken hkind]
          exact (h kind value).congr (by simp) (by simp)

theorem Condition.goesByKey_parse (token : List Char) :
    GoesByKey keys unsupported ofValue token (parse token) := by
  unfold Condition.parse
  refine ⟨?_, ?_, ?_⟩
  · intro h
    rw [h]
  · intro key value h hkind
    simp only [h, hkind]
  · intro key value kind h hkind
    simp only [h, hkind]

theorem Change.goesByKey_parse (token : List Char) :
    GoesByKey keys unsupported ofValue token (parse token) := by
  unfold Change.parse
  refine ⟨?_, ?_, ?_⟩
  · intro h
    rw [h]
  · intro key value h hkind
    simp only [h, hkind]
  · intro key value kind h hkind
    simp only [h, hkind]

theorem Condition.reads_parse (token : List Char) :
    Reads IsSupported (Condition.parse token) (HasLongNumeral token)
      (IsTokenOf keys (Condition.Kind.Accepts IsShort) token) :=
  (goesByKey_parse token).reads (by simp [IsSupported]) (by decide) reads_ofValue

theorem Change.reads_parse (token : List Char) :
    Reads IsSupported (Change.parse token) (HasLongNumeral token)
      (IsTokenOf keys (Change.Kind.Accepts IsShort) token) :=
  (goesByKey_parse token).reads (by simp [IsSupported]) (by decide) reads_ofValue

/-! ## What the readers accept -/

/-- **The readers accept exactly the grammar.** A requirement token, and an effect token, without a
numeral of too many digits is read, and what is read is supported exactly when the token is one of
the grammar. -/
theorem parse_isSupported_iff (raw : String) :
    (¬ Condition.HasLongNumeral raw.toList → ∃ r, Requirement.parse raw = .ok r ∧
      (r.condition.IsSupported ↔ Condition.IsToken raw.toList)) ∧
    (¬ Change.HasLongNumeral raw.toList → ∃ e, Effect.parse raw = .ok e ∧
      (e.change.IsSupported ↔ Change.IsToken raw.toList)) := by
  constructor
  · intro hlong
    obtain ⟨c, hc, hgood⟩ := (Condition.reads_parse raw.toList).exists_of_not_long hlong
    refine ⟨{ condition := c, raw }, Requirement.parse_eq hc, hgood.trans ?_⟩
    exact isTokenOf_isShort_iff (fun _ _ => Condition.Kind.Accepts.imp fun _ h => h.isInteger)
      (fun _ _ => Condition.Kind.accepts_isShort_or_overflows) hlong
  · intro hlong
    obtain ⟨c, hc, hgood⟩ := (Change.reads_parse raw.toList).exists_of_not_long hlong
    refine ⟨{ change := c, raw }, Effect.parse_eq hc, hgood.trans ?_⟩
    exact isTokenOf_isShort_iff (fun _ _ => Change.Kind.Accepts.imp fun _ h => h.isInteger)
      (fun _ _ => Change.Kind.accepts_isShort_or_overflows) hlong

/-- A threshold whose name holds a colon is a token, and an added item without a name is none. -/
theorem parse_isSupported_iff_colon_in_name :
    (¬ Condition.HasLongNumeral "Stat: a:b >= +12".toList ∧
      Condition.IsToken "Stat: a:b >= +12".toList) ∧
    (¬ Change.HasLongNumeral "item: Add: :weapon".toList ∧
      ¬ Change.IsToken "item: Add: :weapon".toList) := by
  have hr : Requirement.parse "Stat: a:b >= +12" =
      .ok ⟨.stat "a:b" 12, "Stat: a:b >= +12"⟩ := by rfl
  have he : Effect.parse "item: Add: :weapon" = .ok ⟨.unsupported, "item: Add: :weapon"⟩ := by rfl
  have hshort : ¬ Condition.HasLongNumeral "Stat: a:b >= +12".toList := by
    intro hlong
    rw [Requirement.parse_eq_error ((Condition.reads_parse _).error_iff _ |>.mpr ⟨rfl, hlong⟩)] at hr
    cases hr
  have hshort' : ¬ Change.HasLongNumeral "item: Add: :weapon".toList := by
    intro hlong
    rw [Effect.parse_eq_error ((Change.reads_parse _).error_iff _ |>.mpr ⟨rfl, hlong⟩)] at he
    cases he
  obtain ⟨r, hread, hiff⟩ := (parse_isSupported_iff "Stat: a:b >= +12").1 hshort
  obtain ⟨e, hread', hiff'⟩ := (parse_isSupported_iff "item: Add: :weapon").2 hshort'
  rw [hr] at hread
  rw [he] at hread'
  cases hread
  cases hread'
  exact ⟨⟨hshort, hiff.mp (by simp [Condition.IsSupported])⟩, hshort',
    mt hiff'.mpr (by simp [Change.IsSupported])⟩

/-! ## What the readers have a fault for -/

/-- **Every text is read, or has a long numeral.** A requirement or an effect that is read keeps the
text; the only fault is that for a numeral with too many digits, and it is met exactly for the tokens
that have one. -/
theorem parse_outcome (raw : String) :
    ((∃ r, Requirement.parse raw = .ok r ∧ r.raw = raw) ∧ ¬ Condition.HasLongNumeral raw.toList ∨
      Requirement.parse raw = .error .longNumeral ∧ Condition.HasLongNumeral raw.toList) ∧
    ((∃ e, Effect.parse raw = .ok e ∧ e.raw = raw) ∧ ¬ Change.HasLongNumeral raw.toList ∨
      Effect.parse raw = .error .longNumeral ∧ Change.HasLongNumeral raw.toList) := by
  constructor
  · have hreads := Condition.reads_parse raw.toList
    by_cases hlong : Condition.HasLongNumeral raw.toList
    · exact Or.inr ⟨Requirement.parse_eq_error ((hreads.error_iff _).mpr ⟨rfl, hlong⟩), hlong⟩
    · obtain ⟨c, hc, -⟩ := hreads.exists_of_not_long hlong
      exact Or.inl ⟨⟨_, Requirement.parse_eq hc, rfl⟩, hlong⟩
  · have hreads := Change.reads_parse raw.toList
    by_cases hlong : Change.HasLongNumeral raw.toList
    · exact Or.inr ⟨Effect.parse_eq_error ((hreads.error_iff _).mpr ⟨rfl, hlong⟩), hlong⟩
    · obtain ⟨c, hc, -⟩ := hreads.exists_of_not_long hlong
      exact Or.inl ⟨⟨_, Effect.parse_eq hc, rfl⟩, hlong⟩

/-- An endurance effect with an unknown mode is not read as unsupported when its numeral has one
digit too many. -/
theorem parse_error_of_4301_digits :
    Effect.parse (String.ofList ("endurance:rest:".toList ++ List.replicate 4301 '1')) =
      .error .longNumeral := by
  refine Effect.parse_eq_error (((Change.reads_parse _).error_iff _).mpr ⟨rfl, ?_⟩)
  rw [String.toList_ofList]
  have hones : ∀ c ∈ List.replicate 4301 '1', c = '1' := fun _ hc => List.eq_of_mem_replicate hc
  have hlen : (List.replicate 4301 '1').length = 4301 := List.length_replicate
  generalize List.replicate 4301 '1' = ones at hones hlen ⊢
  have htrim : ∀ {a : List Char}, (a.all fun c => !isBlankChar c) = true →
      trimChars (a ++ ones) = a ++ ones := by
    intro a ha
    refine (trimmed_of_forall_not_blank fun c hc => ?_).trimChars_eq
    rcases List.mem_append.mp hc with hc | hc
    · have hnot := List.all_eq_true.mp ha c hc
      simpa using hnot
    · rw [hones c hc]
      rfl
  have hlong : IsOverlong ones := by
    refine ⟨ones, ⟨?_, ?_, Or.inl (padded_self _)⟩, by rw [hlen]; decide⟩
    · rintro rfl
      cases hlen
    · intro c hc
      rw [hones c hc]
      rfl
  have hkey : ':' ∉ "endurance".toList := by decide
  have hmode : ':' ∉ "rest".toList := by decide
  refine ⟨"endurance".toList, "rest:".toList ++ ones, ?_, by decide, ("endurance", .endurance),
    by decide, by unfold ReadsAs; decide, ?_⟩
  · rw [htrim (by decide)]
    exact .cut hkey _
  · rw [htrim (by decide)]
    exact ⟨"rest".toList, ones, .cut hmode _, trivial, hlong⟩

end Questbook
