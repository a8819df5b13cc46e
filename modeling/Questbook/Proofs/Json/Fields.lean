import Questbook.Json.Fields
import Questbook.Proofs.Outcome

set_option autoImplicit false

/-! # What stops the reading of a record

A record is read field by field, and its reader stops at the first field that does not suit it. Asking for
a field, for the text of a value or for what it lists gives no faults but such as lie in the document. A
whole number may be asked of an infinite float, too, which has the right type and still gives none
(`wholeOr_eq_error_iff`).

`MeetsInfinity` says when reading whole numbers one after the other stops at an infinite float, and
`StopsAt` when reading a list of records stops at a record of a certain kind. `OverflowsIf` says of the
reading of a record that the fault of an infinite float is all that gets past a caller. It is put together
from the reading of the fields.
-/

namespace Questbook

variable {f : Fault}

theorem Fault.inDocument_of_inTypeOrContent (h : f.inTypeOrContent = true) :
    f.inDocument = true := by
  unfold inTypeOrContent at h
  unfold inDocument
  split at h <;> simp_all

theorem Fault.inTypeOrContent_of_not_inDocument (h : f.inDocument = false) :
    f.inTypeOrContent = false := by
  rw [← Bool.not_eq_true]
  intro htype
  rw [inDocument_of_inTypeOrContent htype] at h
  cases h

/-- Whether a result is a value or a fault that lies in the document. -/
abbrev FailsInDocument {α : Type} (r : Except Fault α) : Prop :=
  FailsOnlyBy (fun f => f.inDocument = true) r

namespace Json

variable {j : Json} {name : String} {fs : List (String × Json)}

/-! ## Fields -/

theorem field_obj (fs : List (String × Json)) (name : String) :
    (Json.obj fs).field name = .ok ((field? name fs).or (field? (capitalized name) fs)) := by
  simp only [field]
  cases field? name fs <;> rfl

/-- Only objects have fields. -/
theorem exists_obj_of_field {v : Option Json} (h : j.field name = .ok v) : ∃ fs, j = .obj fs := by
  unfold field at h
  split at h
  · next fs => exact ⟨fs, rfl⟩
  · cases h
  · cases h
  · cases h

theorem exists_fieldOr (fs : List (String × Json)) (name : String) (default : Json) :
    ∃ v, (Json.obj fs).fieldOr name default = .ok v := by
  unfold fieldOr
  rw [field_obj]
  exact ⟨_, rfl⟩

theorem exists_givenOr (fs : List (String × Json)) (name : String) (default : Json) :
    ∃ v, (Json.obj fs).givenOr name default = .ok v := by
  obtain ⟨v, hv⟩ := exists_fieldOr fs name default
  unfold givenOr
  rw [hv]
  exact ⟨_, rfl⟩

/-- Whether a value is a list or a text that a name does not occur in. Such a value is searched for the
name, and then asked for a field, which it cannot have. -/
def IsNoRecord (j : Json) (name : String) : Prop :=
  (∃ xs, j = .arr xs ∧ (xs.any fun x => same x (.str name)) = false) ∨
    ∃ s, j = .str s ∧ occursIn name.toList s.toList = false

theorem isNoRecord_arr_iff {xs : List Json} :
    (Json.arr xs).IsNoRecord name ↔ (xs.any fun x => same x (.str name)) = false := by
  simp [IsNoRecord]

theorem isNoRecord_str_iff {s : String} :
    (Json.str s).IsNoRecord name ↔ occursIn name.toList s.toList = false := by
  simp [IsNoRecord]

theorem keyed_or_record_iff (hf : f.inTypeOrContent = false) {b : Bool} :
    (if b then Fault.notKeyed else .notRecord) = f ↔ f = .notRecord ∧ b = false := by
  cases b
  · exact ⟨fun h => ⟨h.symm, rfl⟩, fun h => h.1.symm⟩
  · constructor
    · rintro rfl
      cases hf
    · rintro ⟨-, h⟩
      cases h

/-- A field is asked of a value of the wrong shape, or else of the wrong type. -/
theorem field_eq_error_iff (hf : f.inTypeOrContent = false) :
    j.field name = .error f ↔ f = .notRecord ∧ j.IsNoRecord name := by
  cases j with
  | arr xs => rw [isNoRecord_arr_iff, ← keyed_or_record_iff hf, field, Except.error.injEq]
  | str s => rw [isNoRecord_str_iff, ← keyed_or_record_iff hf, field, Except.error.injEq]
  | obj fs =>
      rw [field_obj]
      simp [IsNoRecord]
  | _ =>
      constructor
      · rintro ⟨⟩
        cases hf
      · rintro ⟨-, ⟨_, hxs, -⟩ | ⟨_, hs, -⟩⟩
        · cases hxs
        · cases hs

theorem failsInDocument_field (j : Json) (name : String) : FailsInDocument (j.field name) := by
  intro f hf
  cases htype : f.inTypeOrContent with
  | true => exact Fault.inDocument_of_inTypeOrContent htype
  | false =>
      obtain ⟨rfl, -⟩ := (field_eq_error_iff htype).mp hf
      rfl

theorem failsInDocument_fieldOr (j : Json) (name : String) (default : Json) :
    FailsInDocument (j.fieldOr name default) :=
  (failsInDocument_field j name).map

theorem failsInDocument_givenOr (j : Json) (name : String) (default : Json) :
    FailsInDocument (j.givenOr name default) :=
  (failsInDocument_fieldOr j name default).map

/-! ## Texts -/

/-- **Whether a failure can have no other cause** than a number with too many digits. -/
abbrev FailsByLength {α : Type} (r : Except Fault α) : Prop :=
  FailsOnlyBy (fun f => f = .longNumeral) r

theorem failsByLength_decimalText (n : Int) : FailsByLength (Numeral.decimalText n) := by
  unfold Numeral.decimalText
  split
  · exact failsOnlyBy_ok _
  · exact failsOnlyBy_error rfl

mutual

theorem failsByLength_innerText : (j : Json) → FailsByLength j.innerText
  | .null | .bool _ | .float _ | .str _ => by
      rw [innerText]
      exact failsOnlyBy_ok _
  | .int n => by
      rw [innerText]
      exact failsByLength_decimalText n
  | .arr xs => by
      rw [innerText]
      exact (failsByLength_itemTexts xs).bind fun _ => failsOnlyBy_ok _
  | .obj fs => by
      rw [innerText]
      exact (failsByLength_fieldTexts fs).bind fun _ => failsOnlyBy_ok _

theorem failsByLength_itemTexts : (xs : List Json) → FailsByLength (itemTexts xs)
  | [] => by
      rw [itemTexts]
      exact failsOnlyBy_ok _
  | x :: xs => by
      rw [itemTexts]
      exact (failsByLength_innerText x).bind fun _ =>
        (failsByLength_itemTexts xs).bind fun _ => failsOnlyBy_ok _

theorem failsByLength_fieldTexts : (fs : List (String × Json)) → FailsByLength (fieldTexts fs)
  | [] => by
      rw [fieldTexts]
      exact failsOnlyBy_ok _
  | (_, x) :: fs => by
      rw [fieldTexts]
      exact (failsByLength_innerText x).bind fun _ =>
        (failsByLength_fieldTexts fs).bind fun _ => failsOnlyBy_ok _

end

theorem failsByLength_text (j : Json) : FailsByLength j.text := by
  unfold text
  split
  · exact failsOnlyBy_ok _
  · exact failsByLength_innerText _

theorem failsInDocument_text (j : Json) : FailsInDocument j.text := by
  intro f hf
  rw [failsByLength_text j f hf]
  rfl

theorem failsInDocument_asText (j : Json) : FailsInDocument j.asText := by
  unfold asText
  split
  · exact failsOnlyBy_ok _
  · exact failsOnlyBy_error rfl

/-! ## Lists -/

theorem failsInDocument_items (j : Json) : FailsInDocument j.items := by
  unfold items
  split
  · exact failsOnlyBy_ok _
  · exact failsOnlyBy_ok _
  · exact failsOnlyBy_ok _
  · exact failsOnlyBy_error rfl

theorem failsInDocument_listed (j : Json) (name : String) : FailsInDocument (j.listed name) := by
  apply (failsInDocument_fieldOr j name .null).bind
  intro v
  split
  · exact failsInDocument_items v
  · exact failsOnlyBy_ok _

theorem failsInDocument_records {α : Type} {readRecord : Json → Except Fault α}
    (h : ∀ x, FailsInDocument (readRecord x)) (j : Json) (name : String) :
    FailsInDocument (records readRecord j name) :=
  (failsInDocument_listed j name).bind fun xs => failsOnlyBy_mapM h xs

theorem exists_obj_of_listed {xs : List Json} (h : j.listed name = .ok xs) : ∃ fs, j = .obj fs := by
  obtain ⟨v, hv, -⟩ := bind_eq_ok_iff.mp h
  obtain ⟨w, hw, -⟩ := map_eq_ok_iff.mp hv
  exact exists_obj_of_field hw

/-- Whether a field is a number other than zero, or true: it counts as given and lists nothing. -/
def HasNumber (j : Json) (name : String) : Prop :=
  ∃ v x, j.field name = .ok (some v) ∧ v.isGiven = true ∧ v.number? = some x

theorem items_eq_error_iff {v : Json} (hgiven : v.isGiven = true) :
    v.items = .error f ↔ f = .notIterable ∧ ∃ x, v.number? = some x := by
  cases v with
  | null => cases hgiven
  | bool b => simp [items, number?, eq_comm]
  | int n => simp [items, number?, eq_comm]
  | float x => simp [items, number?, eq_comm]
  | _ => simp [items, number?]

/-- **An object lists nothing under a name** only if it has a number there. -/
theorem listed_eq_error_iff :
    (Json.obj fs).listed name = .error f ↔ f = .notIterable ∧ (Json.obj fs).HasNumber name := by
  unfold listed HasNumber fieldOr
  rw [field_obj]
  cases (field? name fs).or (field? (capitalized name) fs) with
  | none =>
      constructor
      · exact nofun
      · rintro ⟨-, v, x, hv, -⟩
        cases hv
  | some v =>
      show (if v.isGiven then v.items else .ok []) = .error f ↔ _
      cases hgiven : v.isGiven with
      | true =>
          rw [if_pos rfl, items_eq_error_iff hgiven]
          constructor
          · rintro ⟨rfl, x, hx⟩
            exact ⟨rfl, v, x, rfl, hgiven, hx⟩
          · rintro ⟨rfl, w, x, hw, -, hx⟩
            cases hw
            exact ⟨rfl, x, hx⟩
      | false =>
          rw [if_neg Bool.false_ne_true]
          constructor
          · exact nofun
          · rintro ⟨-, w, x, hw, hw', -⟩
            cases hw
            rw [hgiven] at hw'
            cases hw'

/-- **Whether reading the records that a field lists stops at one of a kind:** those before it are
read. -/
def StopsAt {α : Type} (j : Json) (name : String) (readRecord : Json → Except Fault α)
    (kind : Json → Prop) : Prop :=
  ∃ before x after, j.listed name = .ok (before ++ x :: after) ∧
    (∀ y ∈ before, ∃ a, readRecord y = .ok a) ∧ kind x

/-- A fault in one of the records is met if those before it are read. -/
theorem passesOn_records {α : Type} {caught : Fault → Bool} {readRecord : Json → Except Fault α}
    {kind : Json → Fault → Prop}
    (hlisted : FailsOnlyBy (fun f => caught f = true) (j.listed name))
    (h : ∀ x, PassesOn caught (readRecord x) (kind x)) :
    PassesOn caught (records readRecord j name) fun f =>
      j.StopsAt name readRecord fun x => kind x f := by
  intro f hf
  have hnot : j.listed name ≠ .error f := by
    intro herror
    have hcaught : caught f = true := hlisted f herror
    exact Bool.false_ne_true (hf.symm.trans hcaught)
  unfold records StopsAt
  rw [bind_eq_error_iff, or_iff_right hnot]
  constructor
  · rintro ⟨xs, hxs, hstop⟩
    obtain ⟨before, x, after, rfl, hbefore, hx⟩ := mapM_eq_error_iff.mp hstop
    exact ⟨before, x, after, hxs, hbefore, (h x f hf).mp hx⟩
  · rintro ⟨before, x, after, hxs, hbefore, hx⟩
    exact ⟨_, hxs, mapM_eq_error_iff.mpr ⟨before, x, after, rfl, hbefore, (h x f hf).mpr hx⟩⟩

theorem StopsAt.exists_obj {α : Type} {readRecord : Json → Except Fault α} {kind : Json → Prop}
    (h : j.StopsAt name readRecord kind) : ∃ fs, j = .obj fs := by
  obtain ⟨before, x, after, hlisted, -⟩ := h
  exact exists_obj_of_listed hlisted

/-! ## Whole numbers -/

/-- Whether a field is an infinite float. -/
def HasInfinite (j : Json) (name : String) : Prop :=
  ∃ negative, j.field name = .ok (some (.float (.infinite negative)))

/-- Whether a field converts to a whole number, or is missing. -/
def HasWhole (j : Json) (name : String) : Prop :=
  ∃ n, j.wholeOr name 0 = .ok n

/-- **Whether reading whole numbers from fields,** one after the other, stops at an infinite float. -/
def MeetsInfinity (j : Json) : List String → Prop
  | [] => False
  | name :: names => j.HasInfinite name ∨ j.HasWhole name ∧ j.MeetsInfinity names

theorem failsByType_readLoose (cs : List Char) :
    FailsOnlyBy (fun f => f.inTypeOrContent = true) (Numeral.readLoose cs) := by
  unfold Numeral.readLoose
  dsimp only
  split
  · exact failsOnlyBy_error rfl
  · unfold Numeral.valueOf
    split
    · exact failsOnlyBy_error rfl
    · exact failsOnlyBy_ok _

/-- Of the values of the right type, only infinite floats have no whole number next to them. -/
theorem toWhole_eq_error_iff (hf : f.inTypeOrContent = false) :
    j.toWhole = .error f ↔ f = .infinite ∧ ∃ negative, j = .float (.infinite negative) := by
  cases j with
  | float x =>
      cases x with
      | infinite negative => simp [toWhole, Number.truncate, eq_comm]
      | finite negative m e => simp [toWhole, Number.truncate]
      | nan =>
          constructor
          · rintro ⟨⟩
            cases hf
          · rintro ⟨-, _, h⟩
            cases h
  | str s =>
      constructor
      · intro h
        rw [failsByType_readLoose _ f h] at hf
        cases hf
      · rintro ⟨-, _, h⟩
        cases h
  | _ =>
      constructor
      · rintro ⟨⟩ <;> cases hf
      · rintro ⟨-, _, h⟩
        cases h

/-- **What stops the reading of a whole number,** other than a value of the wrong type or content. -/
theorem passesOn_wholeOr (j : Json) (name : String) (default : Int) :
    PassesOn Fault.inTypeOrContent (j.wholeOr name default) fun f =>
      (f = .notRecord ∧ j.IsNoRecord name) ∨ (f = .infinite ∧ j.HasInfinite name) := by
  intro f hf
  unfold wholeOr fieldOr HasInfinite
  rw [bind_eq_error_iff, map_eq_error_iff, field_eq_error_iff hf]
  apply or_congr Iff.rfl
  constructor
  · rintro ⟨v, hv, hwhole⟩
    obtain ⟨w, hw, rfl⟩ := map_eq_ok_iff.mp hv
    obtain ⟨rfl, negative, hnegative⟩ := (toWhole_eq_error_iff hf).mp hwhole
    cases w with
    | none => cases hnegative
    | some w =>
        obtain rfl : w = _ := hnegative
        exact ⟨rfl, negative, hw⟩
  · rintro ⟨rfl, negative, h⟩
    rw [h]
    exact ⟨_, rfl, rfl⟩

theorem exists_wholeOr_iff {default : Int} :
    (∃ n, j.wholeOr name default = .ok n) ↔ j.HasWhole name := by
  unfold HasWhole wholeOr fieldOr
  cases j.field name with
  | error f => rfl
  | ok v =>
      cases v with
      | none => exact ⟨fun _ => ⟨0, rfl⟩, fun _ => ⟨default, rfl⟩⟩
      | some v => rfl

theorem HasInfinite.exists_obj (h : j.HasInfinite name) : ∃ fs, j = .obj fs := by
  obtain ⟨_, h⟩ := h
  exact exists_obj_of_field h

theorem HasWhole.exists_obj (h : j.HasWhole name) : ∃ fs, j = .obj fs := by
  obtain ⟨n, h⟩ := h
  obtain ⟨v, hv, -⟩ := bind_eq_ok_iff.mp h
  obtain ⟨w, hw, -⟩ := map_eq_ok_iff.mp hv
  exact exists_obj_of_field hw

theorem MeetsInfinity.exists_obj {names : List String} (h : j.MeetsInfinity names) :
    ∃ fs, j = .obj fs := by
  cases names with
  | nil => cases h
  | cons name names => exact h.elim HasInfinite.exists_obj fun h => h.1.exists_obj

/-! ## Infinite numbers -/

/-- **Whether the fault of an infinite number is all that gets past a caller,** and this under a
condition. -/
abbrev OverflowsIf {α : Type} (caught : Fault → Bool) (r : Except Fault α) (P : Prop) : Prop :=
  PassesOn caught r fun f => f = .infinite ∧ P

section

variable {α β : Type} {caught : Fault → Bool} {r : Except Fault α} {P Q : Prop}

theorem OverflowsIf.bind {next : α → Except Fault β} (hr : OverflowsIf caught r P)
    (hnext : ∀ a, OverflowsIf caught (next a) Q) :
    OverflowsIf caught (r >>= next) (P ∨ (∃ a, r = .ok a) ∧ Q) :=
  (PassesOn.bind hr hnext).congr fun f => by
    rw [exists_and_right, and_or_left, @and_left_comm (f = .infinite) (∃ a, r = .ok a)]

/-- Nothing gets past the caller in the second step. -/
theorem OverflowsIf.bind_of_caught {next : α → Except Fault β} (hr : OverflowsIf caught r P)
    (hnext : ∀ a, FailsOnlyBy (fun f => caught f = true) (next a)) :
    OverflowsIf caught (r >>= next) P :=
  (PassesOn.bind hr fun a => (hnext a).passesOn).congr fun f => by simp

/-- Nothing gets past the caller in the first step. -/
theorem overflowsIf_bind {next : α → Except Fault β} {Q : α → Prop}
    (hr : FailsOnlyBy (fun f => caught f = true) r)
    (hnext : ∀ a, OverflowsIf caught (next a) (Q a)) :
    OverflowsIf caught (r >>= next) (∃ a, r = .ok a ∧ Q a) :=
  (hr.passesOn_bind hnext).congr fun f => by
    simp only [← exists_and_left, and_left_comm]

/-- After the last whole number nothing gets past the caller. -/
theorem overflowsIf_nil (hr : FailsOnlyBy (fun f => caught f = true) r) (j : Json) :
    OverflowsIf caught r (j.MeetsInfinity []) :=
  hr.passesOn.congr fun f => by simp [MeetsInfinity]

theorem OverflowsIf.congr (hr : OverflowsIf caught r P) (h : P ↔ Q) : OverflowsIf caught r Q :=
  PassesOn.congr hr fun f => by rw [h]

/-- The wrong shape is caught here, too. -/
theorem overflowsIf_wholeOr (j : Json) (name : String) (default : Int) :
    OverflowsIf Fault.inDocument (j.wholeOr name default) (j.HasInfinite name) := by
  intro f hf
  rw [passesOn_wholeOr j name default f (Fault.inTypeOrContent_of_not_inDocument hf)]
  refine or_iff_right ?_
  rintro ⟨rfl, -⟩
  cases hf

theorem overflowsIf_wholeOr_obj (fs : List (String × Json)) (name : String) (default : Int) :
    OverflowsIf Fault.inTypeOrContent ((Json.obj fs).wholeOr name default)
      ((Json.obj fs).HasInfinite name) :=
  (passesOn_wholeOr (.obj fs) name default).congr fun f => by simp [IsNoRecord]

/-- **Whole numbers are read,** one after the other. -/
theorem OverflowsIf.wholeOr_bind {next : Int → Except Fault α} {default : Int} {names : List String}
    (hr : OverflowsIf caught (j.wholeOr name default) (j.HasInfinite name))
    (hnext : ∀ n, OverflowsIf caught (next n) (j.MeetsInfinity names)) :
    OverflowsIf caught (j.wholeOr name default >>= next) (j.MeetsInfinity (name :: names)) := by
  refine (hr.bind hnext).congr ?_
  rw [exists_wholeOr_iff]
  exact Iff.rfl

theorem overflowsIf_records {readRecord : Json → Except Fault α} {kind : Json → Prop}
    (hlisted : FailsOnlyBy (fun f => caught f = true) (j.listed name))
    (h : ∀ x, OverflowsIf caught (readRecord x) (kind x)) :
    OverflowsIf caught (records readRecord j name) (j.StopsAt name readRecord kind) := by
  refine (passesOn_records hlisted h).congr fun f => ?_
  constructor
  · rintro ⟨before, x, after, hxs, hbefore, rfl, hx⟩
    exact ⟨rfl, before, x, after, hxs, hbefore, hx⟩
  · rintro ⟨rfl, before, x, after, hxs, hbefore, hx⟩
    exact ⟨before, x, after, hxs, hbefore, rfl, hx⟩

end

end Json

end Questbook
