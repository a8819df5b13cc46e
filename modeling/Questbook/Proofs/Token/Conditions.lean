import Questbook.Proofs.Json.Shown
import Questbook.Proofs.Token.Effects

set_option autoImplicit false

/-! # Conditions on a well-typed character

On a character with texts for names and whole numbers for values every condition is decided, as long as
the values of the flags have texts (`exists_allHold`).
-/

namespace Questbook

/-- **Whether conditions can be asked of a context** without a fault. -/
structure Context.Answers (c : Context) : Prop where
  typed : c.character.WellTyped
  flags : ∀ e ∈ c.flags.entries, e.2.HasText

/-- Without scratch flags the character is all that counts. -/
theorem Context.answers_of_wellTyped {state : GameState} (h : state.character.WellTyped) :
    Context.Answers { state } :=
  ⟨h, nofun⟩

variable {c : Context}

/-! ## What conditions look at -/

theorem exists_anyNamed (folded : String) {js : List Json} (h : ∀ j ∈ js, ∃ name, j = .str name) :
    ∃ b, anyNamed folded js = .ok b := by
  obtain ⟨names, rfl⟩ := exists_names h
  exact ⟨_, anyNamed_map_str folded names⟩

theorem NameMap.Whole.get? {m : NameMap Json} (h : m.Whole) {name : String} {v : Json}
    (hv : m.get? name = some v) : ∃ n, v = .int n := by
  obtain ⟨e, he, rfl⟩ := mem_of_lookup? hv
  exact h e he

/-- The value of a well-typed character under a name is a whole number, if there is one. -/
theorem Character.WellTyped.stat? {x : Character} (h : x.WellTyped) {name : String} {v : Json}
    (hv : x.stat? name = some v) : ∃ n, v = .int n := by
  unfold Character.stat? at hv
  split at hv
  · cases hv
    exact ⟨x.combatSkill, rfl⟩
  split at hv
  · cases hv
    exact ⟨x.endurance, rfl⟩
  split at hv
  · next w hw =>
    cases hv
    exact h.coreSkills.get? hw
  · exact h.attributes.get? hv

theorem exists_reaches {value : Option Json} (h : ∀ v, value = some v → ∃ n, v = .int n)
    (minimum : Int) : ∃ b, reaches value minimum = .ok b := by
  cases value with
  | none => exact ⟨false, rfl⟩
  | some v =>
      obtain ⟨n, rfl⟩ := h v rfl
      exact ⟨_, Json.atLeast_int n minimum⟩

theorem NameMap.Whole.exists_counterReaches {m : NameMap Json} (h : m.Whole) (name : String)
    (minimum : Int) : ∃ b, counterReaches m name minimum = .ok b := by
  unfold counterReaches
  cases hv : m.get? name with
  | none => exact ⟨false, rfl⟩
  | some v =>
      obtain ⟨n, rfl⟩ := h.get? hv
      exact ⟨_, Json.atLeast_int n minimum⟩

theorem exists_flagMatches {flags : NameMap Json} (h : ∀ e ∈ flags.entries, e.2.HasText)
    (name : String) (expected : Option String) :
    ∃ b, flagMatches flags name expected = .ok b := by
  unfold flagMatches
  cases hv : flags.get? name with
  | none => exact ⟨false, rfl⟩
  | some v =>
      cases expected with
      | none => exact ⟨true, rfl⟩
      | some e =>
          obtain ⟨entry, hentry, rfl⟩ := NameMap.mem_of_lookup? hv
          obtain ⟨t, ht⟩ := (h entry hentry).text
          simp only [ht]
          exact ⟨_, rfl⟩

/-! ## Conditions -/

/-- **A condition is decided.** -/
theorem Condition.exists_holds (condition : Condition) (h : c.Answers) :
    ∃ b, condition.holds c = .ok b := by
  cases condition with
  | skill name =>
      obtain ⟨known, hknown⟩ := exists_anyNamed (Text.fold name) h.typed.disciplines
      show ∃ b, c.character.hasSkill name = .ok b
      unfold Character.hasSkill Character.hasDiscipline
      rw [hknown]
      cases known <;> exact ⟨_, rfl⟩
  | stat name minimum => exact exists_reaches (fun _ hv => h.typed.stat? hv) minimum
  | item name =>
      apply exists_anyNamed
      intro j hj
      obtain ⟨i, hi, rfl⟩ := List.mem_map.mp hj
      exact h.typed.items i hi
  | flag name expected => exact exists_flagMatches h.flags name expected
  | counter name minimum => exact h.typed.counters.exists_counterReaches name minimum
  | combat minimum =>
      show ∃ b, c.character.combatBonus.atLeast minimum = .ok b
      unfold Character.combatBonus
      cases hv : c.character.attributes.get? bonusAttribute with
      | none => exact ⟨_, Json.atLeast_int 0 minimum⟩
      | some v =>
          obtain ⟨n, rfl⟩ := h.typed.attributes.get? hv
          exact ⟨_, Json.atLeast_int n minimum⟩
  | slot name minimum => exact h.typed.counters.exists_counterReaches (slotCounter name) minimum
  | unsupported => exact ⟨false, rfl⟩

/-- Requirements that are decided one by one are decided together. -/
theorem exists_allHold_of_decided {requirements : List Requirement}
    (h : ∀ r ∈ requirements, ∃ b, r.holds c = .ok b) : ∃ b, allHold c requirements = .ok b := by
  induction requirements with
  | nil => exact ⟨true, rfl⟩
  | cons r rs ih =>
      obtain ⟨⟨b, hr⟩, hrest⟩ := List.forall_mem_cons.mp h
      unfold allHold
      rw [hr]
      cases b with
      | true => exact ih hrest
      | false => exact ⟨false, rfl⟩

/-- **All requirements are decided.** -/
theorem exists_allHold (h : c.Answers) (requirements : List Requirement) :
    ∃ b, allHold c requirements = .ok b :=
  exists_allHold_of_decided fun r _ => r.condition.exists_holds h

end Questbook
