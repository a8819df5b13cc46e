import Mathlib.Data.List.Forall2
import Questbook.Proofs.Json.Fields

set_option autoImplicit false

/-! # Fields in another spelling

A field is found under its name and under the capitalised name (`Json.Spells`). Two documents that list the same
fields, each in either spelling (`Json.Respelled`), therefore hold the same for everyone who asks for a field
(`Respelled.field_eq`), and lists of such documents are read alike (`Respelled.records_eq`).

The names have to be told apart in both spellings (`Json.Apart`). Of two fields with the same name, the one in the
other spelling would be overlooked.
-/

namespace Questbook.Json

variable {name other spelled : String} {fs gs : List (String × Json)} {f : String × Json}

/-! ## Names in two spellings -/

/-- Whether a text spells a name: as it is, or with a capital first letter. -/
def Spells (spelled name : String) : Prop :=
  spelled = name ∨ spelled = capitalized name

instance : DecidableRel Spells := fun _ _ => inferInstanceAs (Decidable (_ ∨ _))

/-- **Whether two names are told apart** in all spellings. -/
def Apart (name other : String) : Prop :=
  name ≠ other ∧ name ≠ capitalized other ∧ capitalized name ≠ other ∧
    capitalized name ≠ capitalized other

instance : DecidableRel Apart := fun _ _ => inferInstanceAs (Decidable (_ ∧ _ ∧ _ ∧ _))

theorem Apart.symm (h : Apart name other) : Apart other name :=
  ⟨h.1.symm, h.2.2.1.symm, h.2.1.symm, h.2.2.2.symm⟩

theorem Apart.not_spells (h : Apart name other) (hspelled : Spells spelled name) :
    ¬ Spells spelled other := by
  obtain ⟨hplain, hright, hleft, hboth⟩ := h
  rintro (rfl | rfl) <;> rcases hspelled with hspelled | hspelled
  · exact hplain hspelled.symm
  · exact hleft hspelled.symm
  · exact hright hspelled.symm
  · exact hboth hspelled.symm

theorem field?_cons_of_ne (h : f.1 ≠ name) : field? name (f :: fs) = field? name fs :=
  if_neg h

theorem field?_eq_none (h : ∀ g ∈ fs, g.1 ≠ name) : field? name fs = none := by
  induction fs with
  | nil => rfl
  | cons g fs ih =>
      obtain ⟨hfirst, hrest⟩ := List.forall_mem_cons.mp h
      rw [field?_cons_of_ne hfirst, ih hrest]

theorem field_eq_none (h : ∀ g ∈ fs, ¬ Spells g.1 name) : (Json.obj fs).field name = .ok none := by
  have hplain := field?_eq_none fun g hg heq => h g hg (Or.inl heq)
  have hcapital := field?_eq_none fun g hg heq => h g hg (Or.inr heq)
  rw [field_obj, hplain, hcapital]
  rfl

theorem field_cons_of_not_spells (h : ¬ Spells f.1 name) :
    (Json.obj (f :: fs)).field name = (Json.obj fs).field name := by
  obtain ⟨hplain, hcapital⟩ := not_or.mp h
  rw [field_obj, field_obj, field?_cons_of_ne hplain, field?_cons_of_ne hcapital]

/-- **A field is found in either spelling,** if it is the only one that spells the name. -/
theorem field_cons_of_spells (hf : Spells f.1 name) (hrest : ∀ g ∈ fs, ¬ Spells g.1 name) :
    (Json.obj (f :: fs)).field name = .ok (some f.2) := by
  by_cases hplain : f.1 = name
  · exact field_obj_of_field? (if_pos hplain)
  · -- then it has the capital, and no field has the name without it
    have hcapital : f.1 = capitalized name := hf.resolve_left hplain
    have hnone := field?_eq_none fun g hg heq => hrest g hg (Or.inl heq)
    have hfound : field? (capitalized name) (f :: fs) = some f.2 := if_pos hcapital
    rw [field_obj, field?_cons_of_ne hplain, hnone, hfound]
    rfl

/-! ## Documents with the same fields -/

/-- The fields of a record, each with the relation in which two of its values have to stand. -/
abbrev Parts := List (String × (Json → Json → Prop))

/-- **Whether the fields of a record are told apart** in all spellings. -/
def Distinct (parts : Parts) : Prop :=
  parts.Pairwise fun a b => Apart a.1 b.1

instance (parts : Parts) : Decidable (Distinct parts) :=
  inferInstanceAs (Decidable (parts.Pairwise fun a b => Apart a.1 b.1))

variable {parts : Parts} {related : Json → Json → Prop} {j k : Json}

/-- Whether two lists hold the fields of a record in their order, each in either spelling. -/
inductive RespelledFields : Parts → List (String × Json) → List (String × Json) → Prop
  | nil : RespelledFields [] [] []
  | cons {name : String} {related : Json → Json → Prop} {parts : Parts} {f g : String × Json}
      {fs gs : List (String × Json)} (hf : Spells f.1 name) (hg : Spells g.1 name)
      (hvalues : related f.2 g.2) (hrest : RespelledFields parts fs gs) :
      RespelledFields ((name, related) :: parts) (f :: fs) (g :: gs)

/-- **Whether two documents state the same record,** each with the spelling of its own. -/
inductive Respelled (parts : Parts) : Json → Json → Prop
  | obj {fs gs : List (String × Json)} (h : RespelledFields parts fs gs) :
      Respelled parts (.obj fs) (.obj gs)

/-- Whether two values are lists whose items go together one by one. -/
inductive Each (related : Json → Json → Prop) : Json → Json → Prop
  | arr {xs ys : List Json} (h : List.Forall₂ related xs ys) : Each related (.arr xs) (.arr ys)

/-- Whether two values are objects with the same names in the same spelling, under which they hold values that
go together. -/
inductive Under (related : Json → Json → Prop) : Json → Json → Prop
  | obj {fs gs : List (String × Json)}
      (h : List.Forall₂ (fun f g => f.1 = g.1 ∧ related f.2 g.2) fs gs) :
      Under related (.obj fs) (.obj gs)

theorem RespelledFields.not_spells (h : RespelledFields parts fs gs)
    (hname : ∀ part ∈ parts, Apart part.1 name) :
    (∀ f ∈ fs, ¬ Spells f.1 name) ∧ ∀ g ∈ gs, ¬ Spells g.1 name := by
  induction h with
  | nil => exact ⟨nofun, nofun⟩
  | cons hf hg _ _ ih =>
      obtain ⟨hfirst, hrest⟩ := List.forall_mem_cons.mp hname
      obtain ⟨hfs, hgs⟩ := ih hrest
      exact ⟨List.forall_mem_cons.mpr ⟨hfirst.not_spells hf, hfs⟩,
        List.forall_mem_cons.mpr ⟨hfirst.not_spells hg, hgs⟩⟩

theorem RespelledFields.exists_field (h : RespelledFields parts fs gs)
    (hdistinct : Distinct parts) (hpart : (name, related) ∈ parts) :
    ∃ v w, (Json.obj fs).field name = .ok (some v) ∧ (Json.obj gs).field name = .ok (some w) ∧
      related v w := by
  induction h with
  | nil => cases hpart
  | @cons first relatedFirst parts f g fs gs hf hg hvalues hrest ih =>
      obtain ⟨hfirst, htail⟩ := List.pairwise_cons.mp hdistinct
      rcases List.mem_cons.mp hpart with heq | hpart
      · obtain ⟨rfl, rfl⟩ := Prod.mk.inj heq
        obtain ⟨hfs, hgs⟩ := hrest.not_spells fun part hmem => (hfirst part hmem).symm
        exact ⟨f.2, g.2, field_cons_of_spells hf hfs, field_cons_of_spells hg hgs, hvalues⟩
      · have hother : Apart first name := hfirst _ hpart
        rw [field_cons_of_not_spells (hother.not_spells hf),
          field_cons_of_not_spells (hother.not_spells hg)]
        exact ih htail hpart

theorem RespelledFields.isEmpty_eq (h : RespelledFields parts fs gs) : gs.isEmpty = fs.isEmpty := by
  cases h <;> rfl

namespace Respelled

/-- **Each field of a record is found in both documents,** with values that go together. -/
theorem exists_field (h : Respelled parts j k) (hdistinct : Distinct parts)
    (hpart : (name, related) ∈ parts) :
    ∃ v w, j.field name = .ok (some v) ∧ k.field name = .ok (some w) ∧ related v w := by
  cases h with
  | obj h => exact h.exists_field hdistinct hpart

/-- Values that have to be the same are found in either spelling. -/
theorem field_eq (h : Respelled parts j k) (hdistinct : Distinct parts)
    (name : String) (hpart : (name, Eq) ∈ parts) : k.field name = j.field name := by
  obtain ⟨v, w, hv, hw, rfl⟩ := h.exists_field hdistinct hpart
  rw [hv, hw]

/-- What is no field of the record is found in neither document. -/
theorem field_eq_of_apart (h : Respelled parts j k) (hname : ∀ part ∈ parts, Apart part.1 name) :
    k.field name = j.field name := by
  cases h with
  | obj h =>
      obtain ⟨hfs, hgs⟩ := h.not_spells hname
      rw [field_eq_none hfs, field_eq_none hgs]

theorem isGiven_eq (h : Respelled parts j k) : k.isGiven = j.isGiven := by
  cases h with
  | obj h => exact congrArg (!·) h.isEmpty_eq

/-- What two lists of a field hold goes together item by item. -/
theorem exists_listed (h : Respelled parts j k) (hdistinct : Distinct parts)
    (hpart : (name, Each related) ∈ parts) :
    ∃ xs ys, j.listed name = .ok xs ∧ k.listed name = .ok ys ∧ List.Forall₂ related xs ys := by
  obtain ⟨v, w, hv, hw, ⟨hitems⟩⟩ := h.exists_field hdistinct hpart
  have hlisted : ∀ {d : Json} {items : List Json}, d.field name = .ok (some (.arr items)) →
      d.listed name = .ok items := by
    intro d items hfield
    unfold listed fieldOr
    rw [hfield]
    cases items <;> rfl
  exact ⟨_, _, hlisted hv, hlisted hw, hitems⟩

/-- **The records of a list are read alike** in both documents. -/
theorem records_eq {α : Type} {readRecord : Json → Except Fault α} (h : Respelled parts j k)
    (hdistinct : Distinct parts) (name : String)
    (hpart : (name, Each related) ∈ parts)
    (hread : ∀ x y, related x y → readRecord y = readRecord x) :
    records readRecord k name = records readRecord j name := by
  obtain ⟨xs, ys, hxs, hys, hitems⟩ := h.exists_listed hdistinct hpart
  unfold records
  rw [hxs, hys]
  show ys.mapM readRecord = xs.mapM readRecord
  clear hxs hys
  induction hitems with
  | nil => rfl
  | cons hxy _ ih => rw [List.mapM_cons, List.mapM_cons, hread _ _ hxy, ih]

/-- A record within a record is read alike in both documents, or taken as missing in both. -/
theorem exists_givenOr {α : Type} {readRecord : Json → Except Fault α} {inner : Parts}
    (h : Respelled parts j k) (hdistinct : Distinct parts) (name : String)
    (hpart : (name, Respelled inner) ∈ parts)
    (hread : ∀ x y, Respelled inner x y → readRecord y = readRecord x) (default : Json) :
    ∃ v w, j.givenOr name default = .ok v ∧ k.givenOr name default = .ok w ∧
      readRecord w = readRecord v := by
  obtain ⟨v, w, hv, hw, hvalues⟩ := h.exists_field hdistinct hpart
  refine ⟨v.orElse default, w.orElse default, ?_, ?_, ?_⟩
  · rw [givenOr, fieldOr, hv]
    rfl
  · rw [givenOr, fieldOr, hw]
    rfl
  · rw [orElse, orElse, hvalues.isGiven_eq]
    split
    · exact hread v w hvalues
    · rfl

end Respelled

end Questbook.Json
