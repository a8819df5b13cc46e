import Questbook.Proofs.Json.RoundTrip

set_option autoImplicit false

/-! # Documents that can be stored

A document can be stored (`Storable`) when it holds only nulls, truth values, whole numbers that are
not too long, texts without halves, lists and objects, and no object names a field twice. Such a
document is written to its end (`Storable.stoppedAt?_eq_none`), and its bytes state it again
(`Storable.readBytes_render`).
-/

namespace Questbook.Json

open Text

/-- **A document that can be stored** as it is. -/
inductive Storable : Json → Prop
  | null : Storable .null
  | bool (b : Bool) : Storable (.bool b)
  | int {n : Int} (short : n.natAbs < Numeral.writeLimit) : Storable (.int n)
  | str {s : String} (whole : hasHalf s = false) : Storable (.str s)
  | arr {xs : List Json} (items : ∀ x ∈ xs, Storable x) : Storable (.arr xs)
  | obj {fs : List (String × Json)} (distinct : (fs.map Prod.fst).Nodup)
      (names : ∀ f ∈ fs, hasHalf f.1 = false) (values : ∀ f ∈ fs, Storable f.2) :
      Storable (.obj fs)

variable {j : Json}

theorem Storable.plain (h : j.Storable) : j.Plain := by
  induction h with
  | null => trivial
  | bool b => trivial
  | int short => trivial
  | str whole => trivial
  | arr items ih => exact plainItems_iff.mpr ih
  | obj distinct names values ih => exact ⟨distinct, plainFields_iff.mpr ih⟩

/-! ## Deciding it -/

/-- Whether a whole number is not too long. -/
def isShort (n : Int) : Bool :=
  decide (n.natAbs < Numeral.writeLimit)

theorem isShort_iff {n : Int} : isShort n = true ↔ n.natAbs < Numeral.writeLimit :=
  decide_eq_true_iff

mutual

/-- Whether a document can be stored, computed. -/
def isStorable : Json → Bool
  | .null => true
  | .bool _ => true
  | .int n => isShort n
  | .float _ => false
  | .str s => !hasHalf s
  | .arr xs => areStorable xs
  | .obj fs => decide (fs.map Prod.fst).Nodup && fieldsAreStorable fs

/-- Whether all items can be stored. -/
def areStorable : List Json → Bool
  | [] => true
  | x :: xs => isStorable x && areStorable xs

/-- Whether the names and values of all fields can be stored. -/
def fieldsAreStorable : List (String × Json) → Bool
  | [] => true
  | f :: fs => !hasHalf f.1 && isStorable f.2 && fieldsAreStorable fs

end

mutual

theorem storable_of_isStorable : (j : Json) → isStorable j = true → j.Storable
  | .null => fun _ => .null
  | .bool b => fun _ => .bool b
  | .int _ => fun h => .int (isShort_iff.mp h)
  | .float x => fun h => nomatch h
  | .str s => fun h => .str (by simpa [isStorable] using h)
  | .arr xs => fun h => .arr (storable_of_areStorable xs h)
  | .obj fs => fun h => by
      have hboth : (fs.map Prod.fst).Nodup ∧ fieldsAreStorable fs = true := by
        simpa [isStorable] using h
      have hfields := storable_of_fieldsAreStorable fs hboth.2
      exact .obj hboth.1 (fun f hf => (hfields f hf).1) (fun f hf => (hfields f hf).2)

theorem storable_of_areStorable : (xs : List Json) → areStorable xs = true → ∀ x ∈ xs, x.Storable
  | [] => fun _ => nofun
  | x :: xs => fun h => by
      have hboth : isStorable x = true ∧ areStorable xs = true := by simpa [areStorable] using h
      exact List.forall_mem_cons.mpr
        ⟨storable_of_isStorable x hboth.1, storable_of_areStorable xs hboth.2⟩

theorem storable_of_fieldsAreStorable : (fs : List (String × Json)) →
    fieldsAreStorable fs = true → ∀ f ∈ fs, hasHalf f.1 = false ∧ f.2.Storable
  | [] => fun _ => nofun
  | f :: fs => fun h => by
      have hall : (hasHalf f.1 = false ∧ isStorable f.2 = true) ∧ fieldsAreStorable fs = true := by
        simpa [fieldsAreStorable] using h
      exact List.forall_mem_cons.mpr
        ⟨⟨hall.1.1, storable_of_isStorable f.2 hall.1.2⟩, storable_of_fieldsAreStorable fs hall.2⟩

end

theorem areStorable_of_forall {xs : List Json} (h : ∀ x ∈ xs, isStorable x = true) :
    areStorable xs = true := by
  induction xs with
  | nil => rfl
  | cons x xs ih => simp [areStorable, h x (by simp), ih fun y hy => h y (by simp [hy])]

theorem fieldsAreStorable_of_forall {fs : List (String × Json)}
    (h : ∀ f ∈ fs, hasHalf f.1 = false ∧ isStorable f.2 = true) :
    fieldsAreStorable fs = true := by
  induction fs with
  | nil => rfl
  | cons f fs ih =>
      have hf := h f (by simp)
      simp [fieldsAreStorable, hf.1, hf.2, ih fun g hg => h g (by simp [hg])]

theorem isStorable_iff : isStorable j = true ↔ j.Storable := by
  refine ⟨storable_of_isStorable j, fun h => ?_⟩
  induction h with
  | null => rfl
  | bool b => rfl
  | int short => exact isShort_iff.mpr short
  | str whole => simp [isStorable, whole]
  | arr items ih => exact areStorable_of_forall ih
  | obj distinct names values ih =>
      simp [isStorable, distinct, fieldsAreStorable_of_forall fun f hf => ⟨names f hf, ih f hf⟩]

instance : Decidable j.Storable := decidable_of_iff _ isStorable_iff

/-! ## What is written -/

theorem stoppedInItems?_eq_none {style : Layout} {xs : List Json}
    (h : ∀ x ∈ xs, ∀ depth, stoppedAt? style depth x = none) (depth : Nat) (lead : List Char) :
    stoppedInItems? style depth lead xs = none := by
  induction xs generalizing lead with
  | nil => rfl
  | cons x xs ih =>
      have htail := ih fun y hy => h y (by simp [hy])
      rw [stoppedInItems?, h x (by simp)]
      simp only [htail]
      rfl

theorem stoppedInFields?_eq_none {style : Layout} {fs : List (String × Json)}
    (hnames : ∀ f ∈ fs, hasHalf f.1 = false)
    (h : ∀ f ∈ fs, ∀ depth, stoppedAt? style depth f.2 = none) (depth : Nat) (lead : List Char) :
    stoppedInFields? style depth lead fs = none := by
  induction fs generalizing lead with
  | nil => rfl
  | cons f fs ih =>
      have htail := ih (fun g hg => hnames g (by simp [hg])) fun g hg => h g (by simp [hg])
      have hname : hindrance? (.str f.1) = none := by
        rw [hindrance?, hnames f (by simp)]
        rfl
      rw [stoppedInFields?, hname, h f (by simp)]
      simp only [htail]
      rfl

/-- **A document that can be stored is written to its end.** -/
theorem Storable.stoppedAt?_eq_none (h : j.Storable) (style : Layout) (depth : Nat) :
    stoppedAt? style depth j = none := by
  induction h generalizing depth with
  | null => rfl
  | bool b => rfl
  | int short =>
      rw [stoppedAt?_of_isAtom rfl, hindrance?, if_neg (by omega)]
      rfl
  | str whole =>
      rw [stoppedAt?_of_isAtom rfl, hindrance?, whole]
      rfl
  | @arr xs items ih =>
      cases xs with
      | nil => rfl
      | cons x xs => exact stoppedInItems?_eq_none (fun y hy d => ih y hy d) _ _
  | @obj fs distinct names values ih =>
      cases fs with
      | nil => rfl
      | cons f fs => exact stoppedInFields?_eq_none names (fun g hg d => ih g hg d) _ _

theorem short_of_hindrance? {n : Int} (h : hindrance? (.int n) = none) :
    n.natAbs < Numeral.writeLimit := by
  rw [hindrance?] at h
  by_cases hlong : Numeral.writeLimit ≤ n.natAbs
  · rw [if_pos hlong] at h
    cases h
  · exact Nat.lt_of_not_le hlong

theorem whole_of_hindrance? {s : String} (h : hindrance? (.str s) = none) : hasHalf s = false := by
  rw [hindrance?] at h
  cases hhalf : hasHalf s with
  | true =>
      rw [hhalf] at h
      cases h
  | false => rfl

mutual

/-- **A plain document that is written to its end can be stored.** -/
theorem storable_of_stoppedAt? {style : Layout} : (j : Json) → j.Plain → {depth : Nat} →
    stoppedAt? style depth j = none → j.Storable
  | .null => fun _ _ _ => .null
  | .bool b => fun _ _ _ => .bool b
  | .int n => fun _ depth h => by
      rw [stoppedAt?_of_isAtom rfl] at h
      exact .int (short_of_hindrance? (Option.map_eq_none_iff.mp h))
  | .float x => fun hplain => hplain.elim
  | .str s => fun _ depth h => by
      rw [stoppedAt?_of_isAtom rfl] at h
      exact .str (whole_of_hindrance? (Option.map_eq_none_iff.mp h))
  | .arr [] => fun _ _ _ => .arr nofun
  | .arr (x :: xs) => fun hplain _ h => .arr (storable_of_stoppedInItems? (x :: xs) hplain h)
  | .obj [] => fun _ _ _ => .obj List.nodup_nil nofun nofun
  | .obj (f :: fs) => fun hplain _ h =>
      have hfields := storable_of_stoppedInFields? (f :: fs) hplain.2 h
      .obj hplain.1 (fun g hg => (hfields g hg).1) (fun g hg => (hfields g hg).2)

theorem storable_of_stoppedInItems? {style : Layout} : (xs : List Json) → PlainItems xs →
    {depth : Nat} → {lead : List Char} → stoppedInItems? style depth lead xs = none →
    ∀ x ∈ xs, x.Storable
  | [] => fun _ _ _ _ => nofun
  | x :: xs => fun hplain depth lead h => by
      rw [stoppedInItems?] at h
      split at h
      · cases h
      · next hx =>
        exact List.forall_mem_cons.mpr ⟨storable_of_stoppedAt? x hplain.1 hx,
          storable_of_stoppedInItems? xs hplain.2 (Option.map_eq_none_iff.mp h)⟩

theorem storable_of_stoppedInFields? {style : Layout} : (fs : List (String × Json)) →
    PlainFields fs → {depth : Nat} → {lead : List Char} →
    stoppedInFields? style depth lead fs = none → ∀ f ∈ fs, hasHalf f.1 = false ∧ f.2.Storable
  | [] => fun _ _ _ _ => nofun
  | (name, x) :: fs => fun hplain depth lead h => by
      rw [stoppedInFields?] at h
      split at h
      · cases h
      next hname =>
      split at h
      · cases h
      next hx =>
      exact List.forall_mem_cons.mpr
        ⟨⟨whole_of_hindrance? hname, storable_of_stoppedAt? x hplain.1 hx⟩,
          storable_of_stoppedInFields? fs hplain.2 (Option.map_eq_none_iff.mp h)⟩

end

/-- **The bytes of a document that can be stored** state it again. -/
theorem Storable.readBytes_render (h : j.Storable) : readBytes j.render.toUTF8 = .ok j :=
  Json.readBytes_render h.plain (h.stoppedAt?_eq_none lines 0)

end Questbook.Json
