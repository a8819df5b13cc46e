import Questbook.Proofs.Json.Fields
import Questbook.Proofs.Token.Conditions
import Questbook.Proofs.Token.Counters

set_option autoImplicit false

/-! # Conditions that cannot be decided

A game state is loaded with whatever its document lists as names and holds as values, and a condition
looks at one of these things only. It cannot be decided where it meets a value of the wrong type there,
and such values differ from kind to kind: a search for a name stumbles over one that is no text, a
threshold over a value that is no number, and the value that is expected of a flag over one that is too
long to be shown. `Condition.Stumbles` lists these cases, `Condition.Met` those in which a condition
holds, and in all others it does not hold (`Requirement.holds_outcome`).

What is missing stumbles nowhere. A null does where a counter or a bonus is looked at, but not as one of
the named values of the character (`blankPurse_undecided`).
-/

namespace Questbook

open Text

/-! ## What is met and what stands in the way -/

/-- Whether a value is a number that reaches a minimum. -/
def Json.IsAtLeast (j : Json) (minimum : Int) : Prop :=
  ∃ x, j.number? = some x ∧ (Number.whole minimum).le x = true

/-- **Whether a search for a name comes to a value that is no text** before it finds the name. -/
def StrayAhead (folded : String) (js : List Json) : Prop :=
  ∃ before stray after, js = before ++ stray :: after ∧ (∀ name, stray ≠ .str name) ∧
    ∀ j ∈ before, ∃ name, j = .str name ∧ fold name ≠ folded

/-- **Whether a search for a name finds it** behind nothing but texts. -/
def Found (folded : String) (js : List Json) : Prop :=
  ∃ before name after, js = before ++ .str name :: after ∧ fold name = folded ∧
    ∀ j ∈ before, ∃ other, j = .str other

/-- **Whether a condition is met** by something that is there. -/
inductive Condition.Met (c : Context) : Condition → Prop
  | discipline {name : String} (hfound : Found (fold name) c.character.disciplines) :
      Met c (.skill name)
  | coreSkill {name : String} (htexts : ∀ j ∈ c.character.disciplines, ∃ other, j = .str other)
      (hskill : c.character.coreSkills.contains name = true) : Met c (.skill name)
  | item {name : String} (hfound : Found (fold name) (c.inventory.items.map Item.name)) :
      Met c (.item name)
  | stat {name : String} {minimum : Int} {v : Json} (hv : c.character.stat? name = some v)
      (hreached : v.IsAtLeast minimum) : Met c (.stat name minimum)
  | counter {condition : Condition} {name : String} {minimum : Int} {v : Json}
      (hcondition : condition.counterThreshold? = some (name, minimum))
      (hv : c.counters.get? name = some v) (hreached : v.IsAtLeast minimum) : Met c condition
  | combat {minimum : Int} (hreached : c.character.combatBonus.IsAtLeast minimum) :
      Met c (.combat minimum)
  | flag {name : String} {v : Json} (hv : c.flags.get? name = some v) : Met c (.flag name none)
  | flagValue {name expected text : String} {v : Json} (hv : c.flags.get? name = some v)
      (htext : v.text = .ok text) (hsame : fold text = fold expected) :
      Met c (.flag name (some expected))

/-- **Where a condition stumbles,** and the fault that it gives there. -/
inductive Condition.Stumbles (c : Context) : Condition → Fault → Prop
  | skill {name : String} (hstray : StrayAhead (fold name) c.character.disciplines) :
      Stumbles c (.skill name) .notText
  | item {name : String} (hstray : StrayAhead (fold name) (c.inventory.items.map Item.name)) :
      Stumbles c (.item name) .notText
  | stat {name : String} {minimum : Int} {v : Json} (hv : c.character.stat? name = some v)
      (hnull : v ≠ .null) (hnumber : v.number? = none) : Stumbles c (.stat name minimum) .notComparable
  | counter {condition : Condition} {name : String} {minimum : Int} {v : Json}
      (hcondition : condition.counterThreshold? = some (name, minimum))
      (hv : c.counters.get? name = some v) (hnumber : v.number? = none) :
      Stumbles c condition .notComparable
  | combat {minimum : Int} (hnumber : c.character.combatBonus.number? = none) :
      Stumbles c (.combat minimum) .notComparable
  | flag {name expected : String} {v : Json} (hv : c.flags.get? name = some v)
      (htext : ¬ v.HasText) : Stumbles c (.flag name (some expected)) .longNumeral

variable {c : Context} {f : Fault}

/-! ## Searches for a name -/

theorem isNamed_str (folded name : String) :
    isNamed folded (.str name) = .ok (decide (fold name = folded)) := rfl

theorem isNamed_of_not_str {j : Json} (h : ∀ name, j ≠ .str name) (folded : String) :
    isNamed folded j = .error .notText := by
  cases j with
  | str name => exact absurd rfl (h name)
  | _ => rfl

/-- A search goes on behind a text that is not what is looked for. -/
theorem anyNamed_cons_str (folded name : String) (js : List Json) :
    anyNamed folded (.str name :: js) =
      if fold name = folded then .ok true else anyNamed folded js := by
  rw [anyNamed, isNamed_str]
  by_cases hname : fold name = folded
  · rw [decide_eq_true hname, if_pos hname]
    rfl
  · rw [decide_eq_false hname, if_neg hname]
    rfl

theorem anyNamed_cons_of_not_str {j : Json} (h : ∀ name, j ≠ .str name) (folded : String)
    (js : List Json) : anyNamed folded (j :: js) = .error .notText := by
  rw [anyNamed, isNamed_of_not_str h]
  rfl

theorem strayAhead_cons_str {folded name : String} {js : List Json} :
    StrayAhead folded (.str name :: js) ↔ fold name ≠ folded ∧ StrayAhead folded js := by
  constructor
  · rintro ⟨before, stray, after, hjs, hstray, hbefore⟩
    cases before with
    | nil =>
        -- the stray value cannot be the first one, which is a text
        cases hjs
        exact absurd rfl (hstray name)
    | cons first before =>
        cases hjs
        obtain ⟨⟨other, hother, hname⟩, hrest⟩ := List.forall_mem_cons.mp hbefore
        cases hother
        exact ⟨hname, before, stray, after, rfl, hstray, hrest⟩
  · rintro ⟨hname, before, stray, after, rfl, hstray, hbefore⟩
    refine ⟨.str name :: before, stray, after, rfl, hstray, ?_⟩
    exact List.forall_mem_cons.mpr ⟨⟨name, rfl, hname⟩, hbefore⟩

theorem found_cons_str {folded name : String} {js : List Json} :
    Found folded (.str name :: js) ↔ fold name = folded ∨ Found folded js := by
  constructor
  · rintro ⟨before, other, after, hjs, hother, hbefore⟩
    cases before with
    | nil =>
        cases hjs
        exact Or.inl hother
    | cons first before =>
        cases hjs
        exact Or.inr ⟨before, other, after, rfl, hother, (List.forall_mem_cons.mp hbefore).2⟩
  · rintro (hname | ⟨before, other, after, rfl, hother, hbefore⟩)
    · exact ⟨[], name, js, rfl, hname, List.forall_mem_nil _⟩
    · refine ⟨.str name :: before, other, after, rfl, hother, ?_⟩
      exact List.forall_mem_cons.mpr ⟨⟨name, rfl⟩, hbefore⟩

theorem not_found_cons {j : Json} (h : ∀ name, j ≠ .str name) {folded : String} {js : List Json} :
    ¬ Found folded (j :: js) := by
  rintro ⟨before, other, after, hjs, -, hbefore⟩
  cases before with
  | nil =>
      cases hjs
      exact h other rfl
  | cons first before =>
      cases hjs
      obtain ⟨name, hname⟩ := hbefore j (by simp)
      exact h name hname

/-- **When a search for a name fails.** -/
theorem anyNamed_eq_error_iff {folded : String} {js : List Json} :
    anyNamed folded js = .error f ↔ f = .notText ∧ StrayAhead folded js := by
  induction js with
  | nil =>
      constructor
      · intro h
        cases h
      · rintro ⟨-, before, stray, after, hjs, -⟩
        simp at hjs
  | cons j js ih =>
      by_cases hstr : ∃ name, j = .str name
      · obtain ⟨name, rfl⟩ := hstr
        rw [anyNamed_cons_str, strayAhead_cons_str]
        by_cases hname : fold name = folded
        · simp [hname]
        · simp [hname, ih]
      · have hstray : ∀ name, j ≠ .str name := fun name hj => hstr ⟨name, hj⟩
        rw [anyNamed_cons_of_not_str hstray]
        constructor
        · intro h
          cases h
          exact ⟨rfl, [], j, js, rfl, hstray, List.forall_mem_nil _⟩
        · rintro ⟨rfl, -⟩
          rfl

/-- **When a search for a name succeeds.** -/
theorem anyNamed_eq_true_iff {folded : String} {js : List Json} :
    anyNamed folded js = .ok true ↔ Found folded js := by
  induction js with
  | nil =>
      constructor
      · intro h
        cases h
      · rintro ⟨before, name, after, hjs, -⟩
        simp at hjs
  | cons j js ih =>
      by_cases hstr : ∃ name, j = .str name
      · obtain ⟨name, rfl⟩ := hstr
        rw [anyNamed_cons_str, found_cons_str]
        by_cases hname : fold name = folded
        · simp [hname]
        · simp [hname, ih]
      · have hstray : ∀ name, j ≠ .str name := fun name hj => hstr ⟨name, hj⟩
        rw [anyNamed_cons_of_not_str hstray]
        exact ⟨nofun, fun hfound => absurd hfound (not_found_cons hstray)⟩

/-- A search that comes to an end has met nothing but texts. -/
theorem exists_str_of_anyNamed {folded : String} {js : List Json}
    (h : anyNamed folded js = .ok false) : ∀ j ∈ js, ∃ other, j = .str other := by
  induction js with
  | nil => exact List.forall_mem_nil _
  | cons j js ih =>
      by_cases hstr : ∃ name, j = .str name
      · obtain ⟨name, rfl⟩ := hstr
        rw [anyNamed_cons_str] at h
        by_cases hname : fold name = folded
        · rw [if_pos hname] at h
          cases h
        · rw [if_neg hname] at h
          exact List.forall_mem_cons.mpr ⟨⟨name, rfl⟩, ih h⟩
      · rw [anyNamed_cons_of_not_str fun name hj => hstr ⟨name, hj⟩] at h
        cases h

/-- A skill is looked for among the disciplines, and only there can the search fail. -/
theorem Character.hasSkill_eq_error_iff {x : Character} {name : String} :
    x.hasSkill name = .error f ↔ f = .notText ∧ StrayAhead (fold name) x.disciplines := by
  refine Iff.trans ?_ anyNamed_eq_error_iff
  refine bind_eq_error_iff.trans (or_iff_left ?_)
  rintro ⟨known, -, hknown⟩
  cases known <;> cases hknown

theorem Character.hasSkill_eq_true_iff {x : Character} {name : String} :
    x.hasSkill name = .ok true ↔ Found (fold name) x.disciplines ∨
      (∀ j ∈ x.disciplines, ∃ other, j = .str other) ∧ x.coreSkills.contains name = true := by
  unfold hasSkill hasDiscipline
  rw [← anyNamed_eq_true_iff]
  -- the core skills are asked when the search through the disciplines has come to its end
  cases hknown : anyNamed (fold name) x.disciplines with
  | error g =>
      refine ⟨nofun, ?_⟩
      rintro (hfound | ⟨htexts, -⟩)
      · cases hfound
      · obtain ⟨b, hb⟩ := exists_anyNamed (fold name) htexts
        rw [hknown] at hb
        cases hb
  | ok known =>
      cases known with
      | true => exact ⟨fun _ => Or.inl rfl, fun _ => rfl⟩
      | false =>
          have htexts := exists_str_of_anyNamed hknown
          constructor
          · intro h
            exact Or.inr ⟨htexts, Except.ok.inj h⟩
          · rintro (hfound | ⟨-, hskill⟩)
            · cases hfound
            · exact congrArg Except.ok hskill

/-! ## Thresholds -/

theorem Json.atLeast_eq_error_iff {j : Json} {minimum : Int} :
    j.atLeast minimum = .error f ↔ f = .notComparable ∧ j.number? = none := by
  unfold atLeast
  cases hnumber : j.number? with
  | none => simp [eq_comm]
  | some x => simp

theorem Json.atLeast_eq_true_iff {j : Json} {minimum : Int} :
    j.atLeast minimum = .ok true ↔ j.IsAtLeast minimum := by
  unfold atLeast IsAtLeast
  cases hnumber : j.number? with
  | none => simp
  | some x => simp

theorem reaches_some {v : Json} (h : v ≠ .null) (minimum : Int) :
    reaches (some v) minimum = v.atLeast minimum := by
  cases v with
  | null => exact absurd rfl h
  | _ => rfl

theorem reaches_eq_error_iff {value : Option Json} {minimum : Int} :
    reaches value minimum = .error f ↔
      f = .notComparable ∧ ∃ v, value = some v ∧ v ≠ .null ∧ v.number? = none := by
  cases value with
  | none => simp [reaches]
  | some v =>
      by_cases hnull : v = .null
      · simp [reaches, hnull]
      · simp [reaches_some hnull, Json.atLeast_eq_error_iff, hnull]

theorem reaches_eq_true_iff {value : Option Json} {minimum : Int} :
    reaches value minimum = .ok true ↔ ∃ v, value = some v ∧ v.IsAtLeast minimum := by
  cases value with
  | none => simp [reaches]
  | some v =>
      by_cases hnull : v = .null
      · simp [reaches, hnull, Json.IsAtLeast, Json.number?]
      · simp [reaches_some hnull, Json.atLeast_eq_true_iff]

theorem counterReaches_eq_error_iff {counters : NameMap Json} {name : String} {minimum : Int} :
    counterReaches counters name minimum = .error f ↔
      f = .notComparable ∧ ∃ v, counters.get? name = some v ∧ v.number? = none := by
  unfold counterReaches
  cases hv : counters.get? name with
  | none => simp
  | some v => simp [Json.atLeast_eq_error_iff]

theorem counterReaches_eq_true_iff {counters : NameMap Json} {name : String} {minimum : Int} :
    counterReaches counters name minimum = .ok true ↔
      ∃ v, counters.get? name = some v ∧ v.IsAtLeast minimum := by
  unfold counterReaches
  cases hv : counters.get? name with
  | none => simp
  | some v => simp [Json.atLeast_eq_true_iff]

/-! ## Flags -/

/-- A value that cannot be shown is too long. -/
theorem Json.text_eq_error_iff {j : Json} : j.text = .error f ↔ f = .longNumeral ∧ ¬ j.HasText := by
  constructor
  · intro h
    refine ⟨failsByLength_text j f h, fun htext => ?_⟩
    obtain ⟨t, ht⟩ := htext.text
    rw [ht] at h
    cases h
  · rintro ⟨rfl, htext⟩
    cases hresult : j.text with
    | error g => rw [failsByLength_text j g hresult]
    | ok t =>
        cases j with
        | str s => exact absurd (hasText_str s) htext
        | _ => exact absurd ⟨t, hresult⟩ htext

theorem flagMatches_eq_error_iff {flags : NameMap Json} {name : String} {expected : Option String} :
    flagMatches flags name expected = .error f ↔
      f = .longNumeral ∧ expected ≠ none ∧ ∃ v, flags.get? name = some v ∧ ¬ v.HasText := by
  unfold flagMatches
  cases hv : flags.get? name with
  | none => simp
  | some v =>
      cases expected with
      | none => simp
      | some e => simp [map_eq_error_iff, Json.text_eq_error_iff]

theorem flagMatches_none_eq_true_iff {flags : NameMap Json} {name : String} :
    flagMatches flags name none = .ok true ↔ ∃ v, flags.get? name = some v := by
  unfold flagMatches
  cases flags.get? name <;> simp

theorem flagMatches_some_eq_true_iff {flags : NameMap Json} {name expected : String} :
    flagMatches flags name (some expected) = .ok true ↔
      ∃ v text, flags.get? name = some v ∧ v.text = .ok text ∧ fold text = fold expected := by
  unfold flagMatches
  cases hv : flags.get? name with
  | none => simp
  | some v => simp [map_eq_ok_iff]

/-! ## Conditions -/

/-- **A condition is decided unless it stumbles.** -/
theorem Condition.holds_eq_error_iff (condition : Condition) :
    condition.holds c = .error f ↔ condition.Stumbles c f := by
  constructor
  · intro h
    cases condition with
    | skill name =>
        obtain ⟨rfl, hstray⟩ := Character.hasSkill_eq_error_iff.mp h
        exact .skill hstray
    | stat name minimum =>
        obtain ⟨rfl, v, hv, hnull, hnumber⟩ := reaches_eq_error_iff.mp h
        exact .stat hv hnull hnumber
    | item name =>
        obtain ⟨rfl, hstray⟩ := anyNamed_eq_error_iff.mp h
        exact .item hstray
    | flag name expected =>
        obtain ⟨rfl, hexpected, v, hv, htext⟩ := flagMatches_eq_error_iff.mp h
        obtain ⟨e, rfl⟩ := Option.ne_none_iff_exists'.mp hexpected
        exact .flag hv htext
    | counter name minimum =>
        obtain ⟨rfl, v, hv, hnumber⟩ := counterReaches_eq_error_iff.mp h
        exact .counter rfl hv hnumber
    | combat minimum =>
        obtain ⟨rfl, hnumber⟩ := Json.atLeast_eq_error_iff.mp h
        exact .combat hnumber
    | slot name minimum =>
        obtain ⟨rfl, v, hv, hnumber⟩ := counterReaches_eq_error_iff.mp h
        exact .counter rfl hv hnumber
    | unsupported => cases h
  · intro h
    cases h with
    | skill hstray => exact Character.hasSkill_eq_error_iff.mpr ⟨rfl, hstray⟩
    | item hstray => exact anyNamed_eq_error_iff.mpr ⟨rfl, hstray⟩
    | stat hv hnull hnumber => exact reaches_eq_error_iff.mpr ⟨rfl, _, hv, hnull, hnumber⟩
    | counter hcondition hv hnumber =>
        rw [holds_of_counterThreshold? hcondition]
        exact counterReaches_eq_error_iff.mpr ⟨rfl, _, hv, hnumber⟩
    | combat hnumber => exact Json.atLeast_eq_error_iff.mpr ⟨rfl, hnumber⟩
    | flag hv htext => exact flagMatches_eq_error_iff.mpr ⟨rfl, nofun, _, hv, htext⟩

/-- **A condition holds exactly if it is met.** -/
theorem Condition.holds_eq_true_iff (condition : Condition) :
    condition.holds c = .ok true ↔ condition.Met c := by
  constructor
  · intro h
    cases condition with
    | skill name =>
        rcases Character.hasSkill_eq_true_iff.mp h with hfound | ⟨htexts, hskill⟩
        · exact .discipline hfound
        · exact .coreSkill htexts hskill
    | stat name minimum =>
        obtain ⟨v, hv, hreached⟩ := reaches_eq_true_iff.mp h
        exact .stat hv hreached
    | item name => exact .item (anyNamed_eq_true_iff.mp h)
    | flag name expected =>
        cases expected with
        | none =>
            obtain ⟨v, hv⟩ := flagMatches_none_eq_true_iff.mp h
            exact .flag hv
        | some e =>
            obtain ⟨v, text, hv, htext, hsame⟩ := flagMatches_some_eq_true_iff.mp h
            exact .flagValue hv htext hsame
    | counter name minimum =>
        obtain ⟨v, hv, hreached⟩ := counterReaches_eq_true_iff.mp h
        exact .counter rfl hv hreached
    | combat minimum => exact .combat (Json.atLeast_eq_true_iff.mp h)
    | slot name minimum =>
        obtain ⟨v, hv, hreached⟩ := counterReaches_eq_true_iff.mp h
        exact .counter rfl hv hreached
    | unsupported => cases h
  · intro h
    cases h with
    | discipline hfound => exact Character.hasSkill_eq_true_iff.mpr (Or.inl hfound)
    | coreSkill htexts hskill =>
        exact Character.hasSkill_eq_true_iff.mpr (Or.inr ⟨htexts, hskill⟩)
    | item hfound => exact anyNamed_eq_true_iff.mpr hfound
    | stat hv hreached => exact reaches_eq_true_iff.mpr ⟨_, hv, hreached⟩
    | counter hcondition hv hreached =>
        rw [holds_of_counterThreshold? hcondition]
        exact counterReaches_eq_true_iff.mpr ⟨_, hv, hreached⟩
    | combat hreached => exact Json.atLeast_eq_true_iff.mpr hreached
    | flag hv => exact flagMatches_none_eq_true_iff.mpr ⟨_, hv⟩
    | flagValue hv htext hsame => exact flagMatches_some_eq_true_iff.mpr ⟨_, _, hv, htext, hsame⟩

/-- **The three ways that a requirement can turn out.** It holds if it is met by something that is there,
it fails with one fault where it stumbles, and in all other cases it does not hold. -/
theorem Requirement.holds_outcome (r : Requirement) (c : Context) :
    (r.holds c = .ok true ↔ r.condition.Met c) ∧
      (∀ f, r.holds c = .error f ↔ r.condition.Stumbles c f) ∧
      (r.holds c = .ok false ↔ ¬ r.condition.Met c ∧ ∀ f, ¬ r.condition.Stumbles c f) := by
  have hmet : r.holds c = .ok true ↔ r.condition.Met c := r.condition.holds_eq_true_iff
  have hstumbles : ∀ f, r.holds c = .error f ↔ r.condition.Stumbles c f :=
    fun f => r.condition.holds_eq_error_iff
  refine ⟨hmet, hstumbles, ?_⟩
  rw [← hmet]
  simp only [← hstumbles]
  cases r.holds c with
  | error f => simp
  | ok b => cases b <;> simp

/-- A saved game with a counter that is null. -/
def blankPurse : Json :=
  .obj [("character", .obj [("inventory", .obj [("counters", .obj [("Gold", .null)])])])]

/-- **A null in the purse leaves the question open:** the game is loaded, the requirement is a known one,
and there is no answer. -/
theorem blankPurse_undecided : ∃ state r,
    GameState.ofJson "id" blankPurse = .ok state ∧ Requirement.parse "counter:Gold>=1" = .ok r ∧
      r.holds { state } = .error .notComparable :=
  ⟨_, _, rfl, rfl, rfl⟩

end Questbook
