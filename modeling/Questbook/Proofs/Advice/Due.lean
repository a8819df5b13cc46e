import Questbook.Advice
import Questbook.Proofs.Token.Acceptance

set_option autoImplicit false

/-! # The warnings that are due

The warnings about a choice, said without the checks that find them: one for each rule id that is not
blank and that the catalog drops, and one for each token that has a known key and is read as unsupported
all the same (`Choice.dueWarnings`). They are given about a choice in a section with an id if its rule
ids, tokens and targets are texts, or nothing; otherwise the advice stops (`Choice.warnings_givenIf`).
-/

namespace Questbook

open Text

/-! ## Lists of warnings -/

section

variable {ε α β : Type} {f : α → Except ε (List β)}

/-- The results for the elements of a list, one after the other. -/
def gathered (f : α → Except ε (List β)) (xs : List α) : Except ε (List β) :=
  (xs.mapM f).map List.flatten

/-- A recursion that puts results one after the other gathers them. -/
theorem eq_gathered (g : List α → Except ε (List β)) (hnil : g [] = .ok [])
    (hcons : ∀ x xs, g (x :: xs) = (do
      let here ← f x
      let rest ← g xs
      pure (here ++ rest))) (xs : List α) : g xs = gathered f xs := by
  unfold gathered
  induction xs with
  | nil => exact hnil
  | cons x xs ih =>
      rw [hcons, ih, List.mapM_cons]
      cases f x with
      | error e => rfl
      | ok y => cases xs.mapM f <;> rfl

theorem gathered_of_forall {g : α → List β} {xs : List α} (h : ∀ x ∈ xs, f x = .ok (g x)) :
    gathered f xs = .ok (xs.flatMap g) := by
  induction xs with
  | nil => rfl
  | cons x xs ih =>
      obtain ⟨ys, hys, hflatten⟩ := map_eq_ok_iff.mp (ih fun z hz => h z (by simp [hz]))
      unfold gathered
      rw [List.mapM_cons, h x (by simp), hys, List.flatMap_cons, ← hflatten]
      rfl

/-- A fault is that of the first element that has one. -/
theorem gathered_of_error {e : ε} {xs : List α} (h : ∀ x ∈ xs, ∀ e', f x = .error e' → e' = e)
    (hfails : ∃ x ∈ xs, f x = .error e) : gathered f xs = .error e := by
  induction xs with
  | nil =>
      obtain ⟨x, hx, -⟩ := hfails
      cases hx
  | cons x xs ih =>
      unfold gathered
      rw [List.mapM_cons]
      cases hx : f x with
      | error e' =>
          rw [h x (by simp) e' hx]
          rfl
      | ok y =>
          have hrest : ∃ z ∈ xs, f z = .error e := by
            obtain ⟨z, hz, hfail⟩ := hfails
            rcases List.mem_cons.mp hz with rfl | hz
            · rw [hx] at hfail
              cases hfail
            · exact ⟨z, hz, hfail⟩
          have hxs := ih (fun z hz => h z (by simp [hz])) hrest
          unfold gathered at hxs
          cases hys : xs.mapM f with
          | error e' =>
              rw [hys] at hxs
              cases hxs
              rfl
          | ok ys =>
              rw [hys] at hxs
              cases hxs

/-- Nothing is gathered from nothing only. -/
theorem forall_of_gathered_eq_nil {xs : List α} (h : gathered f xs = .ok []) :
    ∀ x ∈ xs, f x = .ok [] := by
  induction xs with
  | nil => exact List.forall_mem_nil _
  | cons x xs ih =>
      obtain ⟨ys, hys, hflatten⟩ := map_eq_ok_iff.mp h
      rw [List.mapM_cons] at hys
      obtain ⟨y, hy, hrest⟩ := bind_eq_ok_iff.mp hys
      obtain ⟨zs, hzs, hcons⟩ := bind_eq_ok_iff.mp hrest
      cases hcons
      obtain ⟨rfl, hnil⟩ := List.append_eq_nil_iff.mp (List.flatten_cons ▸ hflatten)
      refine List.forall_mem_cons.mpr ⟨hy, ih ?_⟩
      unfold gathered
      rw [hzs]
      exact congrArg Except.ok hnil

end

/-! ## Results under a condition -/

/-- **Whether a result is a value if a condition holds,** and a fault if it does not. -/
structure GivenIf {ε α : Type} (P : Prop) (a : α) (e : ε) (r : Except ε α) : Prop where
  ok : P → r = .ok a
  error : ¬ P → r = .error e

namespace GivenIf

variable {ε α β : Type} {P Q : Prop} {a : α} {b : β} {e : ε} {r : Except ε α}

theorem pure (a : α) (e : ε) : GivenIf True a e (.ok a) :=
  ⟨fun _ => rfl, fun h => absurd trivial h⟩

theorem congr (h : GivenIf P a e r) (hPQ : P ↔ Q) : GivenIf Q a e r :=
  ⟨fun hQ => h.ok (hPQ.mpr hQ), fun hQ => h.error fun hP => hQ (hPQ.mp hP)⟩

/-- A second step comes after the first if its condition holds as well. -/
theorem bind {f : α → Except ε β} (h : GivenIf P a e r) (hf : GivenIf Q b e (f a)) :
    GivenIf (P ∧ Q) b e (r >>= f) := by
  constructor
  · rintro ⟨hP, hQ⟩
    rw [h.ok hP]
    exact hf.ok hQ
  · intro hnot
    by_cases hP : P
    · rw [h.ok hP]
      exact hf.error fun hQ => hnot ⟨hP, hQ⟩
    · rw [h.error hP]
      rfl

/-- Lists are gathered if the condition holds of each element. -/
theorem gathered {f : α → Except ε (List β)} {P : α → Prop} {g : α → List β} {xs : List α}
    (h : ∀ x ∈ xs, GivenIf (P x) (g x) e (f x)) :
    GivenIf (∀ x ∈ xs, P x) (xs.flatMap g) e (Questbook.gathered f xs) := by
  refine ⟨fun hall => gathered_of_forall fun x hx => (h x hx).ok (hall x hx), fun hnot => ?_⟩
  refine gathered_of_error (fun x hx e' he => ?_) ?_
  · by_cases hP : P x
    · rw [(h x hx).ok hP] at he
      cases he
    · rw [(h x hx).error hP] at he
      exact (Except.error.inj he).symm
  · obtain ⟨x, hx⟩ := Classical.not_forall.mp hnot
    obtain ⟨hx, hP⟩ := Classical.not_imp.mp hx
    exact ⟨x, hx, (h x hx).error hP⟩

end GivenIf

/-! ## The recursions of the advice -/

theorem outcomeWarnings_eq (sectionId : String) (target : Json) (os : List RandomOutcome) :
    outcomeWarnings sectionId target os = gathered (fun o => o.warnings sectionId target) os :=
  eq_gathered (outcomeWarnings sectionId target) rfl (fun _ _ => rfl) os

theorem choiceWarnings_eq (catalog : Catalog) (sectionId : String) (cs : List Choice) :
    choiceWarnings catalog sectionId cs = gathered (fun c => c.warnings catalog sectionId) cs :=
  eq_gathered (choiceWarnings catalog sectionId) rfl (fun _ _ => rfl) cs

theorem sectionWarnings_eq (catalog : Catalog) (ss : List Section) :
    sectionWarnings catalog ss = gathered (fun s => choiceWarnings catalog s.id s.choices) ss :=
  eq_gathered (sectionWarnings catalog) rfl (fun _ _ => rfl) ss

theorem ruleWarnings_eq (rs : List Rule) : ruleWarnings rs = gathered Rule.warnings rs :=
  eq_gathered ruleWarnings rfl (fun _ _ => rfl) rs

/-! ## Keys -/

/-- Whether a token has a key of a table, whatever its value is. -/
def HasKeyOf {κ : Type} (keys : List (String × κ)) (raw : String) : Prop :=
  IsTokenOf keys (fun _ _ => True) raw.toList

/-- The key of a token as it is written: the trimmed text before the first colon. -/
def writtenKey (raw : String) : String :=
  String.ofList (trimChars (cutAt ':' (trimChars raw.toList)).1)

section

variable {κ : Type} {keys : List (String × κ)} {raw : String}

theorem knownKey?_eq_some_iff (hkeys : (keys.map fun e => e.1).Nodup) {key : String} :
    knownKey? keys raw = some key ↔ HasKeyOf keys raw ∧ key = writtenKey raw := by
  unfold HasKeyOf
  rw [isTokenOf_iff hkeys]
  unfold knownKey? writtenKey
  cases htoken : cutToken raw.toList with
  | none => simp
  | some parts =>
      obtain ⟨key, value⟩ := parts
      obtain ⟨k, v, hcut, -, rfl, rfl⟩ := cutToken_eq_some_iff.mp htoken
      rw [cutAtColon_iff.mp hcut]
      cases hkind : kindOf? keys (trimChars k) with
      | none => simp [hkind]
      | some kind => simp [hkind, eq_comm]

theorem knownKey?_of_hasKeyOf (hkeys : (keys.map fun e => e.1).Nodup) (h : HasKeyOf keys raw) :
    knownKey? keys raw = some (writtenKey raw) :=
  (knownKey?_eq_some_iff hkeys).mpr ⟨h, rfl⟩

theorem knownKey?_of_not_hasKeyOf (hkeys : (keys.map fun e => e.1).Nodup)
    (h : ¬ HasKeyOf keys raw) : knownKey? keys raw = none := by
  cases hkey : knownKey? keys raw with
  | none => rfl
  | some key => exact absurd ((knownKey?_eq_some_iff hkeys).mp hkey).1 h

/-- Whether a token has a known key can be decided. -/
def decidableHasKeyOf (hkeys : (keys.map fun e => e.1).Nodup) (raw : String) :
    Decidable (HasKeyOf keys raw) :=
  decidable_of_iff ((knownKey? keys raw).isSome = true)
    ⟨fun h => by
      obtain ⟨key, hkey⟩ := Option.isSome_iff_exists.mp h
      exact ((knownKey?_eq_some_iff hkeys).mp hkey).1,
    fun h => by rw [knownKey?_of_hasKeyOf hkeys h]; rfl⟩

end

theorem Condition.nodup_keys : (Condition.keys.map fun e => e.1).Nodup := by decide

theorem Change.nodup_keys : (Change.keys.map fun e => e.1).Nodup := by decide

instance : DecidablePred (HasKeyOf Condition.keys) := decidableHasKeyOf Condition.nodup_keys

instance : DecidablePred (HasKeyOf Change.keys) := decidableHasKeyOf Change.nodup_keys

/-! ## Flaws -/

/-- **Whether a requirement token has a known key and is unsupported all the same.** -/
def Requirement.IsFlawed (raw : String) : Prop :=
  HasKeyOf Condition.keys raw ∧ Requirement.parse raw = .ok { condition := .unsupported, raw }

/-- **Whether an effect token has a known key and is unsupported all the same.** -/
def Effect.IsFlawed (raw : String) : Prop :=
  HasKeyOf Change.keys raw ∧ Effect.parse raw = .ok { change := .unsupported, raw }

/-- **Whether a rule id is not blank and the catalog drops it.** -/
def Catalog.Drops (c : Catalog) (id : String) : Prop :=
  isBlank id = false ∧ c.resolve [.str id] = .ok []

theorem Requirement.isFlawed_iff {raw : String} {c : Condition}
    (h : Condition.parse raw.toList = .ok c) :
    IsFlawed raw ↔ HasKeyOf Condition.keys raw ∧ c = .unsupported := by
  unfold IsFlawed
  rw [parse_eq h]
  simp

theorem Effect.isFlawed_iff {raw : String} {c : Change} (h : Change.parse raw.toList = .ok c) :
    IsFlawed raw ↔ HasKeyOf Change.keys raw ∧ c = .unsupported := by
  unfold IsFlawed
  rw [parse_eq h]
  simp

instance : DecidablePred Requirement.IsFlawed := fun raw =>
  decidable_of_iff (HasKeyOf Condition.keys raw ∧
      (Requirement.parse raw).toOption = some { condition := .unsupported, raw })
    (and_congr_right fun _ => ⟨eq_ok_of_toOption, fun h => by rw [h]; rfl⟩)

instance : DecidablePred Effect.IsFlawed := fun raw =>
  decidable_of_iff (HasKeyOf Change.keys raw ∧
      (Effect.parse raw).toOption = some { change := .unsupported, raw })
    (and_congr_right fun _ => ⟨eq_ok_of_toOption, fun h => by rw [h]; rfl⟩)

/-- A single id is resolved to the rule that it is found under. -/
theorem Catalog.resolve_singleton (c : Catalog) (id : String) :
    c.resolve [.str id] = .ok (c.find? id).toList := by
  have hfound : c.findJson? (.str id) = .ok (c.find? id) := rfl
  unfold resolve
  rw [hfound]
  cases c.find? id <;> rfl

theorem Catalog.drops_iff {c : Catalog} {id : String} :
    c.Drops id ↔ isBlank id = false ∧ c.contains id = false := by
  unfold Drops
  rw [c.resolve_singleton, c.contains_eq_isSome]
  cases c.find? id <;> simp

instance (c : Catalog) : DecidablePred c.Drops :=
  fun _ => decidable_of_iff _ c.drops_iff.symm

theorem ruleIdFlaw_eq (c : Catalog) (id : String) :
    ruleIdFlaw c id = if c.Drops id then some (.missingRule (trim id)) else none := by
  unfold ruleIdFlaw
  simp only [Catalog.drops_iff]
  cases isBlank id <;> cases c.contains id <;> rfl

/-- What is wrong with a token that was read: that it has a known key and is unsupported. -/
theorem match_knownKey? {κ : Type} {keys : List (String × κ)}
    (hkeys : (keys.map fun e => e.1).Nodup) {raw : String} {unsupported isFlawed : Prop}
    [Decidable unsupported] [Decidable isFlawed] (h : isFlawed ↔ HasKeyOf keys raw ∧ unsupported)
    (flaw : String → Flaw) :
    (match knownKey? keys raw with
      | none => .ok none
      | some key => .ok (if unsupported then some (flaw key) else none) :
        Except Fault (Option Flaw)) =
      .ok (if isFlawed then some (flaw (writtenKey raw)) else none) := by
  by_cases hkey : HasKeyOf keys raw
  · rw [knownKey?_of_hasKeyOf hkeys hkey]
    simp [h, hkey]
  · rw [knownKey?_of_not_hasKeyOf hkeys hkey]
    simp [h, hkey]

theorem requirementFlaw_eq {raw : String} (h : ¬ Condition.HasLongNumeral raw.toList) :
    requirementFlaw raw = .ok (if Requirement.IsFlawed raw
      then some (.badRequirement (writtenKey raw) raw) else none) := by
  obtain ⟨c, hparse, -⟩ := (Condition.reads_parse raw.toList).exists_of_not_long h
  unfold requirementFlaw
  rw [Requirement.parse_eq hparse]
  exact match_knownKey? Condition.nodup_keys (Requirement.isFlawed_iff hparse)
    fun key => .badRequirement key raw

theorem effectFlaw_eq {raw : String} (h : ¬ Change.HasLongNumeral raw.toList) :
    effectFlaw raw = .ok (if Effect.IsFlawed raw
      then some (.badEffect (writtenKey raw) raw) else none) := by
  obtain ⟨c, hparse, -⟩ := (Change.reads_parse raw.toList).exists_of_not_long h
  unfold effectFlaw
  rw [Effect.parse_eq hparse]
  exact match_knownKey? Change.nodup_keys (Effect.isFlawed_iff hparse)
    fun key => .badEffect key raw

/-! ## Texts of a document -/

/-- The texts among the values of a list. -/
def textsOf (js : List Json) : List String :=
  js.filterMap fun j =>
    match j with
    | .str t => some t
    | _ => none

/-- The flaws of the texts of a list that have one. -/
def dueFlaws (isFlawed : String → Prop) [DecidablePred isFlawed] (flaw : String → Flaw)
    (js : List Json) : List Flaw :=
  ((textsOf js).filter fun t => decide (isFlawed t)).map flaw

/-! ## The warnings that are due -/

/-- Where an outcome redirects a choice to, if it does. -/
def RandomOutcome.redirect? (o : RandomOutcome) : Option Json :=
  match o.target with
  | .str t => if isBlank t then none else some (.str t)
  | _ => none

theorem RandomOutcome.redirect?_cases (o : RandomOutcome) :
    o.redirect? = none ∨ ∃ t, o.target = .str t ∧ o.redirect? = some (.str t) := by
  unfold redirect?
  cases o.target with
  | str t =>
      by_cases hblank : isBlank t = true
      · exact Or.inl (if_pos hblank)
      · exact Or.inr ⟨t, rfl, if_neg hblank⟩
  | _ => exact Or.inl rfl

theorem RandomOutcome.ite_redirect? (o : RandomOutcome) :
    (if o.redirect?.isSome then some o.target else none) = o.redirect? := by
  rcases o.redirect?_cases with hnone | ⟨t, htarget, hsome⟩
  · rw [hnone]
    rfl
  · rw [hsome, htarget]
    rfl

/-- Whether an outcome names its target by a text, or names none. -/
def RandomOutcome.NamesTarget (o : RandomOutcome) : Prop :=
  o.target.isGiven = false ∨ ∃ t, o.target = .str t

/-- **The warnings that are due about a choice:** about rule ids that are dropped, about requirements and
effects that are unsupported although their keys are known, and about such effects of outcomes. -/
def Choice.dueWarnings (catalog : Catalog) (sectionId : String) (c : Choice) : List Warning :=
  warningsAt (.choice sectionId c.target)
      (dueFlaws catalog.Drops (fun id => .missingRule (trim id)) c.ruleIds ++
        dueFlaws Requirement.IsFlawed (fun raw => .badRequirement (writtenKey raw) raw)
          c.requirements ++
        dueFlaws Effect.IsFlawed (fun raw => .badEffect (writtenKey raw) raw) c.effects) ++
    c.outcomes.flatMap fun o =>
      warningsAt (.outcome sectionId c.target o.min o.max o.redirect?)
        (dueFlaws Effect.IsFlawed (fun raw => .badEffect (writtenKey raw) raw) o.effects)

theorem RandomOutcome.hasTarget_eq {o : RandomOutcome} (h : o.NamesTarget) :
    o.hasTarget = .ok o.redirect?.isSome := by
  unfold hasTarget redirect? hasText
  rcases h with hmissing | ⟨t, ht⟩
  · cases htarget : o.target with
    | str t =>
        rw [htarget] at hmissing
        have hempty : t = "" := by simpa using hmissing
        subst hempty
        rfl
    | _ =>
        rw [htarget] at hmissing
        simp [hmissing]
  · rw [ht]
    by_cases hgiven : (Json.str t).isGiven = true
    · rw [if_pos hgiven]
      cases hblank : isBlank t <;> simp [Json.asText, hblank, bind, Except.bind, pure, Except.pure]
    · have hempty : t = "" := by simpa using hgiven
      subst hempty
      rfl

theorem RandomOutcome.hasTarget_of_not_namesTarget {o : RandomOutcome} (h : ¬ o.NamesTarget) :
    o.hasTarget = .error .notText := by
  obtain ⟨hgiven, hnot⟩ := not_or.mp h
  unfold hasTarget hasText
  rw [if_pos (by simpa using hgiven)]
  cases htarget : o.target with
  | str t => exact absurd ⟨t, htarget⟩ hnot
  | _ => rfl

/-! ## Choices that can be looked through -/

/-- Whether a value is a text or null. -/
def Json.IsTextOrNull (j : Json) : Prop :=
  j = .null ∨ ∃ t, j = .str t

/-- **Whether the advice gets through a choice:** its rule ids and tokens are texts or null, and its
outcomes name their targets by texts. -/
structure Choice.IsAdvisable (c : Choice) : Prop where
  ruleIds : ∀ j ∈ c.ruleIds, j.IsTextOrNull
  requirements : ∀ j ∈ c.requirements, j.IsTextOrNull
  effects : ∀ j ∈ c.effects, j.IsTextOrNull
  outcomes : ∀ o ∈ c.outcomes, o.NamesTarget ∧ ∀ j ∈ o.effects, j.IsTextOrNull

/-- **Whether no token of a choice has a numeral that is too long.** -/
structure Choice.HasShortNumerals (c : Choice) : Prop where
  requirements : ∀ t ∈ textsOf c.requirements, ¬ Condition.HasLongNumeral t.toList
  effects : ∀ t ∈ textsOf c.effects, ¬ Change.HasLongNumeral t.toList
  outcomes : ∀ o ∈ c.outcomes, ∀ t ∈ textsOf o.effects, ¬ Change.HasLongNumeral t.toList

theorem flawsOf_givenIf {test : String → Except Fault (Option Flaw)} {isFlawed : String → Prop}
    [DecidablePred isFlawed] {flaw : String → Flaw} {js : List Json}
    (htest : ∀ t ∈ textsOf js, test t = .ok (if isFlawed t then some (flaw t) else none)) :
    GivenIf (∀ j ∈ js, j.IsTextOrNull) (dueFlaws isFlawed flaw js) .notText (flawsOf test js) := by
  induction js with
  | nil => exact ⟨fun _ => rfl, fun h => absurd (List.forall_mem_nil _) h⟩
  | cons j js ih =>
      cases j with
      | null =>
          -- null is passed over
          refine GivenIf.congr (P := ∀ j ∈ js, j.IsTextOrNull) (ih htest) ?_
          rw [List.forall_mem_cons]
          exact (and_iff_right (Or.inl rfl)).symm
      | str t =>
          have hrest := ih fun u hu => htest u (List.mem_cons_of_mem t hu)
          have hstep : GivenIf True (if isFlawed t then some (flaw t) else none) .notText (test t) := by
            rw [htest t List.mem_cons_self]
            exact GivenIf.pure _ _
          have hdue : dueFlaws isFlawed flaw (.str t :: js) =
              (if isFlawed t then some (flaw t) else none).toList ++ dueFlaws isFlawed flaw js := by
            have htexts : textsOf (.str t :: js) = t :: textsOf js := rfl
            unfold dueFlaws
            rw [htexts]
            by_cases hflawed : isFlawed t <;> simp [hflawed]
          rw [hdue]
          refine GivenIf.congr (P := True ∧ (∀ j ∈ js, j.IsTextOrNull) ∧ True)
            (hstep.bind (hrest.bind (GivenIf.pure _ _))) ?_
          rw [List.forall_mem_cons, true_and, and_true]
          exact (and_iff_right (Or.inr ⟨t, rfl⟩)).symm
      | bool _ | int _ | float _ | arr _ | obj _ =>
          -- here the advice stops before it comes to the rest
          refine ⟨fun h => ?_, fun _ => rfl⟩
          rcases h _ List.mem_cons_self with hnull | ⟨t, htext⟩
          · cases hnull
          · cases htext

section

variable {catalog : Catalog} {sectionId : String} {target : Json} {o : RandomOutcome} {c : Choice}

theorem effects_givenIf {js : List Json}
    (hshort : ∀ t ∈ textsOf js, ¬ Change.HasLongNumeral t.toList) :
    GivenIf (∀ j ∈ js, j.IsTextOrNull)
      (dueFlaws Effect.IsFlawed (fun raw => .badEffect (writtenKey raw) raw) js) .notText
      (flawsOf effectFlaw js) :=
  flawsOf_givenIf fun t ht => effectFlaw_eq (hshort t ht)

theorem RandomOutcome.warnings_givenIf
    (hshort : ∀ t ∈ textsOf o.effects, ¬ Change.HasLongNumeral t.toList) :
    GivenIf (o.NamesTarget ∧ ∀ j ∈ o.effects, j.IsTextOrNull)
      (warningsAt (.outcome sectionId target o.min o.max o.redirect?)
        (dueFlaws Effect.IsFlawed (fun raw => .badEffect (writtenKey raw) raw) o.effects))
      .notText (o.warnings sectionId target) := by
  have htarget : GivenIf o.NamesTarget o.redirect?.isSome .notText o.hasTarget :=
    ⟨hasTarget_eq, hasTarget_of_not_namesTarget⟩
  refine GivenIf.congr (P := o.NamesTarget ∧ (∀ j ∈ o.effects, j.IsTextOrNull) ∧ True)
    (htarget.bind ?_) (by rw [and_true])
  dsimp only
  rw [o.ite_redirect?]
  exact (effects_givenIf hshort).bind (GivenIf.pure _ _)

/-- **A choice in a section with an id** gets the warnings that are due, or stops the advice. -/
theorem Choice.warnings_givenIf (hid : isBlank sectionId = false) (hshort : c.HasShortNumerals) :
    GivenIf c.IsAdvisable (c.dueWarnings catalog sectionId) .notText
      (c.warnings catalog sectionId) := by
  have hids : GivenIf (∀ j ∈ c.ruleIds, j.IsTextOrNull) _ Fault.notText
      (flawsOf (fun id => .ok (ruleIdFlaw catalog id)) c.ruleIds) :=
    flawsOf_givenIf fun id _ => congrArg Except.ok (ruleIdFlaw_eq catalog id)
  have hrequirements : GivenIf (∀ j ∈ c.requirements, j.IsTextOrNull) _ Fault.notText
      (flawsOf requirementFlaw c.requirements) :=
    flawsOf_givenIf fun t ht => requirementFlaw_eq (hshort.requirements t ht)
  have houtcomes : GivenIf (∀ o ∈ c.outcomes, o.NamesTarget ∧ ∀ j ∈ o.effects, j.IsTextOrNull)
      (c.outcomes.flatMap fun o => warningsAt (.outcome sectionId c.target o.min o.max o.redirect?)
        (dueFlaws Effect.IsFlawed (fun raw => .badEffect (writtenKey raw) raw) o.effects))
      Fault.notText (outcomeWarnings sectionId c.target c.outcomes) := by
    rw [outcomeWarnings_eq]
    exact GivenIf.gathered fun o ho => RandomOutcome.warnings_givenIf (hshort.outcomes o ho)
  unfold Choice.warnings
  rw [hid]
  refine GivenIf.congr (P := _ ∧ _ ∧ _ ∧ _ ∧ True) (hids.bind (hrequirements.bind
    ((effects_givenIf hshort.effects).bind (houtcomes.bind (GivenIf.pure _ _))))) ⟨?_, ?_⟩
  · rintro ⟨hids, hrequirements, heffects, houtcomes, -⟩
    exact ⟨hids, hrequirements, heffects, houtcomes⟩
  · rintro ⟨hids, hrequirements, heffects, houtcomes⟩
    exact ⟨hids, hrequirements, heffects, houtcomes, trivial⟩

end

end Questbook
