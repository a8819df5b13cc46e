import Questbook.Proofs.Catalog.Reading
import Questbook.Proofs.RespelledDocuments
import Questbook.Proofs.Text.CaseFold

set_option autoImplicit false

/-! # Looking up rules

The catalog of a list of rules keeps, in the order of the list, the rules that are the first of an id that
is not blank (`Catalog.rules_ofRules`). Membership, lookup and resolution all go by the list that the
catalog was made of: an id stands for the first rule of the list that has it, and ids are resolved one by
one (`Catalog.lookups_ofRules`).
-/

namespace Questbook

open Text

/-! ## Ids -/

theorem ruleKey_eq_empty_iff {id : String} : ruleKey id = "" ↔ isBlank id = true := by
  have hchars : (ruleKey id).toList = foldChars (trimChars id.toList) := by
    unfold ruleKey trim
    rw [toList_fold, String.toList_ofList]
  rw [← String.toList_eq_nil_iff, hchars, foldChars_eq_nil_iff, trimChars_eq_nil_iff]
  rfl

/-- Of two ids that are the same, both are blank or none is. -/
theorem isBlank_eq_of_ruleKey_eq {id other : String} (h : ruleKey id = ruleKey other) :
    isBlank id = isBlank other := by
  rw [Bool.eq_iff_iff, ← ruleKey_eq_empty_iff, ← ruleKey_eq_empty_iff, h]

/-- A rule has an id that is not blank exactly if its own is the same. -/
theorem Rule.hasId_eq {id : String} (h : isBlank id = false) (r : Rule) :
    r.hasId id = decide (ruleKey r.id = ruleKey id) := by
  unfold hasId
  by_cases hkey : ruleKey r.id = ruleKey id
  · simp [hkey, isBlank_eq_of_ruleKey_eq hkey, h]
  · simp [hkey]

/-! ## The rules that are kept -/

/-- Whether a rule that comes after others is the first one of an id that is not blank. -/
def Rule.IsFirstAfter (before : List Rule) (r : Rule) : Prop :=
  isBlank r.id = false ∧ ∀ q ∈ before, ruleKey q.id ≠ ruleKey r.id

instance (before : List Rule) : DecidablePred (Rule.IsFirstAfter before) := fun _ =>
  inferInstanceAs (Decidable (_ ∧ ∀ q ∈ before, _))

/-- **The first rules** of a list: those before which no rule of the same id stands. -/
def firstRules (rules : List Rule) : List Rule :=
  (rules.zipIdx.filter fun p => Rule.IsFirstAfter (rules.take p.2) p.1).map Prod.fst

theorem firstRules_concat (rules : List Rule) (r : Rule) :
    firstRules (rules ++ [r]) = firstRules rules ++ if r.IsFirstAfter rules then [r] else [] := by
  have hbefore : rules.zipIdx.filter (fun p => decide (p.1.IsFirstAfter ((rules ++ [r]).take p.2))) =
      rules.zipIdx.filter fun p => decide (p.1.IsFirstAfter (rules.take p.2)) := by
    refine List.filter_congr fun p hp => ?_
    rw [List.take_append_of_le_length (by have := List.snd_lt_of_mem_zipIdx hp; omega)]
  unfold firstRules
  rw [List.zipIdx_append, List.filter_append, List.map_append, hbefore]
  by_cases h : r.IsFirstAfter rules <;> simp [h]

namespace Catalog

variable {c : Catalog} {rules : List Rule}

theorem ofRules_concat (rules : List Rule) (r : Rule) :
    ofRules (rules ++ [r]) = (ofRules rules).add r := by
  simp [ofRules]

/-- **An id is in a catalog** exactly if a rule of the list has it. -/
theorem KeepsFirst.contains_iff (h : c.KeepsFirst rules) {id : String} :
    c.contains id = true ↔ isBlank id = false ∧ ∃ r ∈ rules, ruleKey r.id = ruleKey id := by
  rw [contains_eq_isSome, h.found id]
  cases hid : isBlank id with
  | true => simp
  | false => simp [Rule.hasId_eq hid]

/-- **An id stands for the first rule** of the list that has it. -/
theorem KeepsFirst.find?_eq (h : c.KeepsFirst rules) (id : String) :
    c.find? id = if isBlank id then none else rules.find? fun r => ruleKey r.id = ruleKey id := by
  rw [h.found id]
  cases hid : isBlank id with
  | true => simp only [if_true]
  | false =>
      have hsame : Rule.hasId id = fun r => decide (ruleKey r.id = ruleKey id) :=
        funext (Rule.hasId_eq hid)
      rw [hsame]

/-- **A catalog keeps the first rules.** -/
theorem rules_ofRules (rules : List Rule) : (ofRules rules).rules = firstRules rules := by
  induction rules using List.reverseRecOn with
  | nil => rfl
  | append_singleton rules r ih =>
      have hleft : (isBlank r.id || (ofRules rules).contains r.id) = true ↔ ¬ r.IsFirstAfter rules := by
        rw [Bool.or_eq_true, (keepsFirst_ofRules rules).contains_iff]
        unfold Rule.IsFirstAfter
        cases isBlank r.id <;> simp
      rw [ofRules_concat, firstRules_concat, ← ih]
      unfold Catalog.add
      by_cases hfirst : r.IsFirstAfter rules
      · rw [if_neg (by rw [hleft]; exact not_not_intro hfirst), if_pos hfirst]
      · rw [if_pos (hleft.mpr hfirst), if_neg hfirst, List.append_nil]

/-- Rules with different ids that are not blank are all kept. -/
theorem KeepsFirst.ofRules_eq (h : c.KeepsFirst rules) : ofRules c.rules = c := by
  obtain ⟨kept⟩ := c
  have hnamed : ∀ r ∈ kept, isBlank r.id = false := h.named
  have hdistinct : kept.Pairwise fun a b => ruleKey a.id ≠ ruleKey b.id := h.distinct
  clear h
  show ofRules kept = { rules := kept }
  induction kept using List.reverseRecOn with
  | nil => rfl
  | append_singleton kept r ih =>
      obtain ⟨hbefore, -, hnew⟩ := List.pairwise_append.mp hdistinct
      have hblank : isBlank r.id = false := hnamed r (by simp)
      have hout : contains { rules := kept } r.id = false := by
        simpa [contains, hblank] using fun q hq => hnew q hq r (by simp)
      rw [ofRules_concat, ih (fun q hq => hnamed q (by simp [hq])) hbefore]
      unfold Catalog.add
      rw [hblank, hout]
      rfl

/-! ## Resolving ids -/

theorem resolve_cons (j : Json) (js : List Json) :
    c.resolve (j :: js) = (c.findJson? j >>= fun r? =>
      (c.resolve js).map fun rules => r?.toList ++ rules) := by
  rw [resolve]
  congr 1
  funext r?
  cases r? <;> cases c.resolve js <;> rfl

/-- **Ids are resolved one by one,** those that stand for no rule are skipped. -/
theorem resolve_eq (ids : List Json) :
    c.resolve ids = (ids.mapM c.findJson?).map fun found => found.filterMap id := by
  induction ids with
  | nil => rfl
  | cons j ids ih =>
      rw [resolve_cons, ih, List.mapM_cons]
      cases c.findJson? j with
      | error f => rfl
      | ok r? =>
          cases ids.mapM c.findJson? with
          | error f => rfl
          | ok found => cases r? <;> rfl

theorem resolve_append (ids more : List Json) :
    c.resolve (ids ++ more) = (c.resolve ids >>= fun rules =>
      (c.resolve more).map fun rest => rules ++ rest) := by
  rw [resolve_eq, resolve_eq, resolve_eq, List.mapM_append]
  cases ids.mapM c.findJson? with
  | error f => rfl
  | ok found =>
      cases more.mapM c.findJson? with
      | error f => rfl
      | ok rest => exact congrArg Except.ok List.filterMap_append

/-- Ids that are texts are resolved to the rules of those that are in the catalog. -/
theorem exists_resolve_texts (ids : List String) :
    ∃ rules, c.resolve (ids.map .str) = .ok rules ∧
      rules.map some = (ids.filter c.contains).map c.find? := by
  induction ids with
  | nil => exact ⟨[], rfl, rfl⟩
  | cons id ids ih =>
      obtain ⟨rules, hrules, hfound⟩ := ih
      have hid : c.findJson? (.str id) = .ok (c.find? id) := rfl
      rw [List.map_cons, resolve_cons, hid, hrules]
      refine ⟨(c.find? id).toList ++ rules, rfl, ?_⟩
      cases hfind : c.find? id with
      | none =>
          rw [List.filter_cons_of_neg (by rw [contains_eq_isSome, hfind]; exact Bool.false_ne_true)]
          exact hfound
      | some r =>
          have hcontains : c.contains id = true := by
            rw [contains_eq_isSome, hfind]
            rfl
          rw [List.filter_cons_of_pos hcontains, List.map_cons, hfind, ← hfound]
          rfl

/-! ## What a catalog is made of decides it -/

/-- **The lookups of a catalog follow the list that it was made of.** The catalog of a list keeps its
first rules in their order. An id that is not blank stands for the first rule of the list with that id,
and it is in the catalog exactly if there is one. Ids are resolved one by one, so that lists of ids put
together are resolved to the rules put together: ids that are texts to the rules of those in the
catalog. The document of the catalog gives the catalog back. -/
theorem lookups_ofRules (rules : List Rule) :
    (ofRules rules).rules = firstRules rules ∧
    (∀ id, ((ofRules rules).contains id = true ↔ ((ofRules rules).find? id).isSome = true) ∧
      ((ofRules rules).contains id = true ↔
        isBlank id = false ∧ ∃ r ∈ rules, ruleKey r.id = ruleKey id) ∧
      (ofRules rules).find? id =
        if isBlank id then none else rules.find? fun r => ruleKey r.id = ruleKey id) ∧
    (∀ ids : List Json, (ofRules rules).resolve ids =
      (ids.mapM (ofRules rules).findJson?).map fun found => found.filterMap id) ∧
    (∀ ids : List String, ∃ found, (ofRules rules).resolve (ids.map .str) = .ok found ∧
      found.map some = (ids.filter (ofRules rules).contains).map (ofRules rules).find?) ∧
    (∀ ids more : List Json, (ofRules rules).resolve (ids ++ more) = do
      let found ← (ofRules rules).resolve ids
      let rest ← (ofRules rules).resolve more
      pure (found ++ rest)) ∧
    ofJson (ofRules rules).toJson = .ok (ofRules rules) := by
  have hkeeps := keepsFirst_ofRules rules
  refine ⟨rules_ofRules rules, fun id => ⟨?_, hkeeps.contains_iff, hkeeps.find?_eq id⟩, resolve_eq,
    exists_resolve_texts, fun ids more => ?_, ?_⟩
  · rw [contains_eq_isSome]
  · rw [resolve_append]
    cases (ofRules rules).resolve more <;> rfl
  · rw [ofJson_toJson, hkeeps.ofRules_eq]

example : (Catalog.ofRules [{ id := " " }, { id := "Eat-Meal" },
    { id := " EAT-MEAL", effects := [.str "meals:-1"] }, { id := "rest" }]).rules.map Rule.id =
      ["Eat-Meal", "rest"] := by
  decide +kernel

end Catalog

end Questbook
