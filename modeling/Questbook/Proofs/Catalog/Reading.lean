import Mathlib.Data.List.Induction
import Questbook.Catalog
import Questbook.Proofs.Book
import Questbook.Proofs.Json.Entries

set_option autoImplicit false

/-! # Reading rule catalogs

Of the entries of a catalog, those that are no objects are skipped; the objects state rules, and a catalog
keeps the first rule of each id that is not blank, in the order of the document
(`Catalog.keepsFirst_of_ofJson`). The reading is broken off by an object that has a number in the place of
its requirements or its effects (`Rule.Breaks`).
-/

namespace Questbook

open Json

/-! ## Catalogs of rules -/

/-- Whether a rule has an id that is not blank and is the same as another one. -/
def Rule.hasId (id : String) (r : Rule) : Bool :=
  !Text.isBlank r.id && ruleKey r.id = ruleKey id

/-- **Whether a catalog keeps the first rules** of a list: of each id that is not blank the first rule,
in the order of the list. -/
structure Catalog.KeepsFirst (c : Catalog) (rules : List Rule) : Prop where
  ordered : c.rules.Sublist rules
  named : ∀ r ∈ c.rules, Text.isBlank r.id = false
  distinct : c.rules.Pairwise fun a b => ruleKey a.id ≠ ruleKey b.id
  found : ∀ id, c.find? id = if Text.isBlank id then none else rules.find? (Rule.hasId id)

namespace Catalog

variable {c : Catalog} {rules : List Rule} {r : Rule}

theorem keepsFirst_empty : KeepsFirst {} [] where
  ordered := List.Sublist.refl []
  named := by simp
  distinct := List.Pairwise.nil
  found id := by
    unfold find?
    rw [List.find?_nil, List.find?_nil]

/-- A rule with a blank id, or with one that is taken, is left out. -/
theorem KeepsFirst.leave (h : c.KeepsFirst rules)
    (hleft : Text.isBlank r.id = true ∨ c.contains r.id = true) :
    c.KeepsFirst (rules ++ [r]) where
  ordered := h.ordered.trans (List.sublist_append_left rules [r])
  named := h.named
  distinct := h.distinct
  found id := by
    rw [h.found id, List.find?_append]
    cases hfirst : rules.find? (Rule.hasId id) with
    | some q => rfl
    | none =>
        have hnot : Rule.hasId id r = false := by
          rw [← Bool.not_eq_true]
          intro hid
          obtain ⟨hnamed, hkey⟩ : Text.isBlank r.id = false ∧ ruleKey r.id = ruleKey id := by
            simpa [Rule.hasId] using hid
          -- the id is taken, by the rule that was to be found
          have htaken : c.contains r.id = true := hleft.resolve_left (by simp [hnamed])
          have hsame : Rule.hasId r.id = Rule.hasId id := by
            funext q
            rw [Rule.hasId, Rule.hasId, hkey]
          rw [contains_eq_isSome, h.found r.id, hnamed, hsame, hfirst] at htaken
          cases htaken
        rw [List.find?_cons_of_neg (by simp [hnot]), List.find?_nil]
        rfl

/-- A rule with a new id is taken. -/
theorem KeepsFirst.take (h : c.KeepsFirst rules) (hblank : Text.isBlank r.id = false)
    (hnew : c.contains r.id = false) :
    KeepsFirst { rules := c.rules ++ [r] } (rules ++ [r]) where
  ordered := h.ordered.append (List.Sublist.refl [r])
  named := by
    intro q hq
    rcases List.mem_append.mp hq with hq | hq
    · exact h.named q hq
    · rw [List.mem_singleton.mp hq]
      exact hblank
  distinct := by
    have hother : ∀ q ∈ c.rules, ruleKey q.id ≠ ruleKey r.id := by
      simpa [contains, hblank] using hnew
    refine List.pairwise_append.mpr ⟨h.distinct, List.pairwise_singleton _ r, fun q hq s hs => ?_⟩
    rw [List.mem_singleton.mp hs]
    exact hother q hq
  found id := by
    have hfound := h.found id
    unfold find? at hfound ⊢
    cases hid : Text.isBlank id with
    | true => simp only [if_true]
    | false =>
        simp only [hid, Bool.false_eq_true, if_false] at hfound ⊢
        rw [List.find?_append, List.find?_append, hfound]
        simp [List.find?_cons, Rule.hasId, hblank]

theorem KeepsFirst.add (h : c.KeepsFirst rules) (r : Rule) : (c.add r).KeepsFirst (rules ++ [r]) := by
  unfold Catalog.add
  cases hblank : Text.isBlank r.id with
  | true => exact h.leave (Or.inl hblank)
  | false =>
      cases hnew : c.contains r.id with
      | true => exact h.leave (Or.inr hnew)
      | false => exact h.take hblank hnew

/-- **The catalog of a list of rules** keeps the first ones. -/
theorem keepsFirst_ofRules (rules : List Rule) : (ofRules rules).KeepsFirst rules := by
  induction rules using List.reverseRecOn with
  | nil => exact keepsFirst_empty
  | append_singleton rules r ih =>
      have hstep : ofRules (rules ++ [r]) = (ofRules rules).add r := by simp [ofRules]
      rw [hstep]
      exact ih.add r

end Catalog

/-! ## Documents -/

/-- **The rule that an entry of a catalog states,** if it is an object that states one. -/
def ruleOf? : Json → Option Rule
  | .obj fs => (Rule.ofJson (.obj fs)).toOption
  | _ => none

/-- **What in a rule breaks off the reading of a catalog:** a number in the place of a list. -/
def Rule.Breaks (j : Json) (f : Fault) : Prop :=
  f = .notIterable ∧ (j.HasNumber "requirements" ∨ j.HasNumber "effects")

theorem Rule.Breaks.exists_obj {j : Json} {f : Fault} (h : Rule.Breaks j f) : ∃ fs, j = .obj fs := by
  obtain ⟨-, ⟨v, x, hv, -⟩ | ⟨v, x, hv, -⟩⟩ := h
  · exact exists_obj_of_field hv
  · exact exists_obj_of_field hv

/-- A rule whose id has a text is read if its tokens are listed. -/
theorem Rule.ofJson_eq_error_iff {fs : List (String × Json)} (hfs : (Json.obj fs).HasText)
    {f : Fault} : Rule.ofJson (.obj fs) = .error f ↔ Rule.Breaks (.obj fs) f := by
  obtain ⟨id, hid⟩ := exists_givenOr fs "id" (.str "")
  obtain ⟨t, ht⟩ := (handsDown_hasText.of_givenOr hfs (hasText_str "") hid).text
  have hread : Rule.ofJson (.obj fs) = ((Json.obj fs).listed "requirements" >>= fun requirements =>
      (Json.obj fs).listed "effects" >>= fun effects => pure ⟨t, requirements, effects⟩) := by
    unfold Rule.ofJson
    simp only [hid, ht, bind, Except.bind]
  rw [hread, bind_eq_error_iff, listed_eq_error_iff]
  unfold Breaks
  constructor
  · rintro (⟨rfl, hrequirements⟩ | ⟨requirements, -, h⟩)
    · exact ⟨rfl, Or.inl hrequirements⟩
    · rcases bind_eq_error_iff.mp h with h | ⟨_, -, h⟩
      · obtain ⟨rfl, heffects⟩ := listed_eq_error_iff.mp h
        exact ⟨rfl, Or.inr heffects⟩
      · cases h
  · rintro ⟨rfl, hnumber⟩
    by_cases hrequirements : (Json.obj fs).HasNumber "requirements"
    · exact Or.inl ⟨rfl, hrequirements⟩
    · have heffects := hnumber.resolve_left hrequirements
      cases hlisted : (Json.obj fs).listed "requirements" with
      | error f => exact absurd (listed_eq_error_iff.mp hlisted).2 hrequirements
      | ok requirements =>
          have hstop := listed_eq_error_iff.mpr ⟨rfl, heffects⟩
          exact Or.inr ⟨requirements, rfl, bind_eq_error_iff.mpr (Or.inl hstop)⟩

namespace Catalog

/-- One entry of a catalog: a rule, or nothing if it is skipped. -/
def ruleEntry : Json → Except Fault (Option Rule)
  | .obj fs => (Rule.ofJson (.obj fs)).map some
  | _ => .ok none

theorem readRules_cons (j : Json) (js : List Json) :
    readRules (j :: js) =
      (ruleEntry j >>= fun r? => (readRules js).map fun rules => r?.toList ++ rules) := by
  cases j with
  | obj fs =>
      rw [readRules, ruleEntry]
      cases Rule.ofJson (.obj fs) with
      | ok r => cases readRules js <;> rfl
      | error f => rfl
  | _ =>
      show readRules js = _
      cases readRules js <;> rfl

/-- **An entry of a catalog is read** as the rule that it states, is skipped, or breaks the reading
off. -/
theorem readsEntry_ruleEntry {j : Json} (hj : j.HasText) :
    ReadsEntry ruleEntry ruleOf? Rule.Breaks j := by
  by_cases hobj : ∃ fs, j = .obj fs
  · obtain ⟨fs, rfl⟩ := hobj
    constructor
    · intro r? hr
      obtain ⟨r, hrule, rfl⟩ := map_eq_ok_iff.mp hr
      rw [ruleOf?, hrule]
      rfl
    · intro f
      rw [ruleEntry, map_eq_error_iff]
      exact Rule.ofJson_eq_error_iff hj
  · have hentry : ruleEntry j = .ok (ruleOf? j) := by
      cases j with
      | obj fs => exact absurd ⟨fs, rfl⟩ hobj
      | _ => rfl
    exact .of_ok hentry fun f hf => hobj hf.exists_obj

theorem ofJson_obj (fs : List (String × Json)) :
    ofJson (.obj fs) =
      (records ruleEntry (.obj fs) "rules").map fun found => ofRules (found.filterMap id) := by
  cases fs with
  | nil => rfl
  | cons field fs => exact listed_bind_eq readRules rfl readRules_cons ofRules _ "rules"

section

variable {fs : List (String × Json)}

/-- **A catalog keeps the rules that its entries state,** the first of each id. -/
theorem keepsFirst_of_ofJson (hfs : (Json.obj fs).HasText) {c : Catalog}
    (h : ofJson (.obj fs) = .ok c) :
    ∃ js, (Json.obj fs).listed "rules" = .ok js ∧ c.KeepsFirst (js.filterMap ruleOf?) := by
  rw [ofJson_obj] at h
  obtain ⟨found, hfound, rfl⟩ := map_eq_ok_iff.mp h
  obtain ⟨js, hjs, hkept⟩ := filterMap_of_records
    (fun js hjs j hj => readsEntry_ruleEntry (handsDown_hasText.of_listed hfs hjs j hj)) hfound
  refine ⟨js, hjs, ?_⟩
  rw [hkept]
  exact keepsFirst_ofRules _

/-- **A catalog is not read** exactly if the reading of its entries is broken off. -/
theorem ofJson_eq_error_iff (hfs : (Json.obj fs).HasText) {f : Fault} :
    ofJson (.obj fs) = .error f ↔ (Json.obj fs).ListBreaks "rules" Rule.Breaks f := by
  rw [ofJson_obj, map_eq_error_iff]
  exact records_eq_error_iff_breaks fun js hjs j hj =>
    readsEntry_ruleEntry (handsDown_hasText.of_listed hfs hjs j hj)

end

end Catalog

end Questbook
