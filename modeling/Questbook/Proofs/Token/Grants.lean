import Questbook.Proofs.Token.Conditions
import Questbook.Proofs.Token.Counters
import Questbook.Proofs.Token.Gains

set_option autoImplicit false

/-! # Grants and the conditions that test them

Some changes leave something that can be asked for: an item, a discipline, a flag, a counter or a slot.
`Condition.Tests` says which conditions ask for what a change leaves: those of its kind and of its name,
whatever the casing. For counters and slots the name is that of the counter.

Such conditions are answered by what the change has left, and all others as before (`grants_are_seen`).
A condition on items goes through all that is carried, so that a name that is no text stands in its way:
then there is no answer, neither before nor after (`no_answer_behind_stray_name`).
-/

namespace Questbook

open Text

/-- **Whether a condition asks for what a change leaves.** -/
inductive Condition.Tests : Condition → Change → Prop
  | item {m name : String} (hname : fold m = fold name) (category : String) :
      Tests (.item m) (.addItem name category)
  | skill {m name : String} (hname : fold m = fold name) : Tests (.skill m) (.grantDiscipline name)
  | flag {m name : String} (hname : fold m = fold name) (expected : Option String) (value : String) :
      Tests (.flag m expected) (.setFlag name value)
  | counter {condition : Condition} {change : Change} {m name : String} {minimum : Int}
      {update : Update} (hcondition : condition.counterThreshold? = some (m, minimum))
      (hchange : change.counterUpdate? = some (name, update)) (hname : fold m = fold name) :
      Tests condition change

/-- **Whether all conditions that do not test a change are answered as before.** -/
def Context.UndisturbedBy (c : Context) (change : Change) (d : Context) : Prop :=
  ∀ condition : Condition, ¬ condition.Tests change → condition.holds d = condition.holds c

variable {c d : Context}

/-! ## Items -/

/-- One more name is found if it is asked for, as long as the search comes so far. -/
theorem anyNamed_append_str (folded : String) (js : List Json) (name : String) :
    anyNamed folded (js ++ [.str name]) =
      (anyNamed folded js).map fun found => found || decide (fold name = folded) := by
  induction js with
  | nil =>
      by_cases hname : fold name = folded
      · simp [anyNamed, isNamed, Json.asText, hname, bind, Except.bind, pure, Except.pure, Except.map]
      · simp [anyNamed, isNamed, Json.asText, hname, bind, Except.bind, pure, Except.pure, Except.map]
  | cons j js ih =>
      rw [List.cons_append, anyNamed, anyNamed, ih]
      cases isNamed folded j with
      | error f => rfl
      | ok named => cases named <;> rfl

theorem map_or_false (r : Except Fault Bool) : (r.map fun found => found || false) = r := by
  cases r with
  | error f => rfl
  | ok found => cases found <;> rfl

theorem holds_item_addItem (m name category : String)
    (h : (Change.addItem name category).apply c = .ok d) :
    (Condition.item m).holds d =
      ((Condition.item m).holds c).map fun found => found || decide (fold name = fold m) := by
  cases h
  show anyNamed (fold m) ((c.inventory.items ++ [_]).map Item.name) = _
  rw [List.map_append]
  exact anyNamed_append_str (fold m) (c.inventory.items.map Item.name) name

theorem undisturbedBy_addItem {name category : String}
    (h : (Change.addItem name category).apply c = .ok d) :
    c.UndisturbedBy (.addItem name category) d := by
  intro condition hother
  cases condition with
  | item m =>
      have hname : ¬ fold name = fold m := fun hsame => hother (.item hsame.symm category)
      rw [holds_item_addItem m name category h, decide_eq_false hname]
      exact map_or_false _
  | _ =>
      cases h
      rfl

/-! ## Disciplines -/

theorem Character.grant_eq_error_iff {x : Character} {name : String} {f : Fault} :
    x.grant name = .error f ↔ x.hasDiscipline name = .error f := by
  refine bind_eq_error_iff.trans (or_iff_left ?_)
  rintro ⟨known, -, hgrant⟩
  cases known <;> cases hgrant

/-- **What is known after a grant.** -/
theorem Character.hasSkill_of_grant {x y : Character} {name : String} (h : x.grant name = .ok y)
    (m : String) : y.hasSkill m = if fold name = fold m then .ok true else x.hasSkill m := by
  obtain ⟨known, hknown, hy⟩ := bind_eq_ok_iff.mp h
  have hsame : fold name = fold m → x.hasDiscipline m = .ok known := by
    intro hname
    rw [← hknown]
    unfold hasDiscipline
    rw [hname]
  cases known with
  | true =>
      -- nothing is added, but what is known already is what is asked for
      cases hy
      split
      · next hname =>
        unfold hasSkill
        rw [hsame hname]
        rfl
      · rfl
  | false =>
      cases hy
      have hadded : hasDiscipline { x with disciplines := x.disciplines ++ [.str name] } m =
          (x.hasDiscipline m).map fun found => found || decide (fold name = fold m) :=
        anyNamed_append_str (fold m) x.disciplines name
      unfold hasSkill
      rw [hadded]
      split
      · next hname =>
        rw [hsame hname, decide_eq_true hname]
        rfl
      · next hname =>
        rw [decide_eq_false hname, map_or_false]

theorem undisturbedBy_grantDiscipline {name : String}
    (h : (Change.grantDiscipline name).apply c = .ok d) :
    c.UndisturbedBy (.grantDiscipline name) d := by
  obtain ⟨y, hy, rfl⟩ := map_eq_ok_iff.mp h
  intro condition hother
  cases condition with
  | skill m =>
      have hname : ¬ fold name = fold m := fun hsame => hother (.skill hsame.symm)
      show y.hasSkill m = c.character.hasSkill m
      rw [Character.hasSkill_of_grant hy, if_neg hname]
  | _ =>
      obtain ⟨known, -, hgrant⟩ := bind_eq_ok_iff.mp hy
      cases known <;> cases hgrant <;> rfl

/-! ## Flags -/

/-- What a flag that was set is found to be. -/
theorem flagMatches_set (flags : NameMap Json) (name value m : String) (expected : Option String) :
    flagMatches (flags.set name (.str value)) m expected =
      if fold name = fold m then .ok (expected.all fun e => decide (fold value = fold e))
      else flagMatches flags m expected := by
  unfold flagMatches
  rw [NameMap.get?_set]
  by_cases hname : fold name = fold m
  · rw [if_pos hname, if_pos hname]
    cases expected <;> rfl
  · rw [if_neg hname, if_neg hname]

theorem undisturbedBy_setFlag {name value : String}
    (h : (Change.setFlag name value).apply c = .ok d) : c.UndisturbedBy (.setFlag name value) d := by
  cases h
  intro condition hother
  cases condition with
  | flag m expected =>
      have hname : ¬ fold name = fold m := fun hsame => hother (.flag hsame.symm expected value)
      exact (flagMatches_set c.flags name value m expected).trans (if_neg hname)
  | _ => rfl

/-! ## Counters -/

/-- What a counter that was written is found to reach. -/
theorem counterReaches_set (m : NameMap Json) (name other : String) (n minimum : Int) :
    counterReaches (m.set name (.int n)) other minimum =
      if fold name = fold other then .ok (decide (minimum ≤ n))
      else counterReaches m other minimum := by
  unfold counterReaches
  rw [NameMap.get?_set]
  by_cases hname : fold name = fold other
  · rw [if_pos hname, if_pos hname]
    exact Json.atLeast_int n minimum
  · rw [if_neg hname, if_neg hname]

theorem undisturbedBy_update {change : Change} {name : String} {update : Update}
    (hchange : change.counterUpdate? = some (name, update)) (n : Int) :
    c.UndisturbedBy change (c.withCounters (c.counters.set name (.int n))) := by
  intro condition hother
  cases hcondition : condition.counterThreshold? with
  | none => exact Condition.holds_withCounters hcondition c _
  | some threshold =>
      obtain ⟨m, minimum⟩ := threshold
      have hname : ¬ fold name = fold m := fun hsame =>
        hother (.counter hcondition hchange hsame.symm)
      rw [Condition.holds_of_counterThreshold? hcondition,
        Condition.holds_of_counterThreshold? hcondition, Context.counters_withCounters,
        counterReaches_set, if_neg hname]

/-! ## Grants -/

/-- **What is granted is seen by the conditions that test it, and by no others.** An item is found under
every spelling of its name, unless there was no answer before because of a name that is no text; a
discipline that can be granted is known; a flag is set, and to its value only; a counter and a slot reach
what is not more than the value that the update leaves. -/
theorem grants_are_seen (h : c.HasWholeMaps) :
    (∀ name category, ∃ d, (Change.addItem name category).apply c = .ok d ∧
      (∀ m, fold m = fold name →
        (Condition.item m).holds d = ((Condition.item m).holds c).map (fun _ => true) ∧
        ((∀ i ∈ c.inventory.items, ∃ text, i.name = .str text) →
          (Condition.item m).holds d = .ok true)) ∧
      c.UndisturbedBy (.addItem name category) d) ∧
    (∀ name,
      (∀ f, (Change.grantDiscipline name).apply c = .error f ↔
        c.character.hasDiscipline name = .error f) ∧
      ((∀ j ∈ c.character.disciplines, ∃ text, j = .str text) →
        ∃ d, (Change.grantDiscipline name).apply c = .ok d) ∧
      ∀ d, (Change.grantDiscipline name).apply c = .ok d →
        (∀ m, fold m = fold name → (Condition.skill m).holds d = .ok true) ∧
        c.UndisturbedBy (.grantDiscipline name) d) ∧
    (∀ name value, ∃ d, (Change.setFlag name value).apply c = .ok d ∧
      (∀ m, fold m = fold name → (Condition.flag m none).holds d = .ok true ∧
        ∀ w, (Condition.flag m (some w)).holds d = .ok (decide (fold w = fold value))) ∧
      c.UndisturbedBy (.setFlag name value) d) ∧
    ∀ change name update, Change.counterUpdate? change = some (name, update) →
      ∃ d, change.apply c = .ok d ∧
        (∀ condition m minimum, Condition.counterThreshold? condition = some (m, minimum) →
          fold m = fold name →
          condition.holds d = .ok (decide (minimum ≤ update.onto (c.counters.whole? name)))) ∧
        c.UndisturbedBy change d := by
  refine ⟨fun name category => ?_, fun name => ⟨fun f => ?_, fun htexts => ?_, fun d hd => ?_⟩,
    fun name value => ?_, fun change name update hchange => ?_⟩
  · refine ⟨_, rfl, fun m hname => ?_, undisturbedBy_addItem rfl⟩
    have hfound := holds_item_addItem (c := c) m name category rfl
    simp only [decide_eq_true hname.symm, Bool.or_true] at hfound
    refine ⟨hfound, fun htexts => ?_⟩
    have hanswer : ∃ b, (Condition.item m).holds c = .ok b := by
      apply exists_anyNamed
      intro j hj
      obtain ⟨i, hi, rfl⟩ := List.mem_map.mp hj
      exact htexts i hi
    obtain ⟨b, hb⟩ := hanswer
    rw [hfound, hb]
    rfl
  · exact map_eq_error_iff.trans Character.grant_eq_error_iff
  · obtain ⟨names, hnames⟩ := exists_names htexts
    exact ⟨_, map_eq_ok_iff.mpr ⟨_, Character.grant_of_texts hnames name, rfl⟩⟩
  · obtain ⟨y, hy, rfl⟩ := map_eq_ok_iff.mp hd
    refine ⟨fun m hname => ?_, undisturbedBy_grantDiscipline hd⟩
    show y.hasSkill m = .ok true
    rw [Character.hasSkill_of_grant hy, if_pos hname.symm]
  · refine ⟨_, rfl, fun m hname => ⟨?_, fun w => ?_⟩, undisturbedBy_setFlag rfl⟩
    · exact (flagMatches_set c.flags name value m none).trans (if_pos hname.symm)
    · refine (flagMatches_set c.flags name value m (some w)).trans ((if_pos hname.symm).trans ?_)
      rw [Option.all_some, decide_eq_decide.mpr eq_comm]
  · refine ⟨_, Change.apply_update h.counters hchange, fun condition m minimum hcondition hname => ?_,
      undisturbedBy_update hchange _⟩
    rw [Condition.holds_of_counterThreshold? hcondition, Context.counters_withCounters,
      counterReaches_set, if_pos hname.symm]

/-- A pilgrim with a rope and a belt. -/
def pilgrim : Context where
  state := { character := {
    id := .str "c"
    disciplines := [.str "Hunting"]
    coreSkills := NameMap.empty.set "Agility" (.int 1)
    inventory := {
      items := [{ name := .str "Rope" }]
      counters := (NameMap.empty.set "Belt" (.int (-2))).set "SLOT:belt" (.int 1) } } }

/-- The map is found in capitals, and the belt holds two more, also if it is asked for as a counter; the
counter with the name of the belt is another one. -/
theorem grants_are_seen_pilgrim :
    pilgrim.HasWholeMaps ∧
      (∃ d, (Change.addItem "Straßenkarte" "map").apply pilgrim = .ok d ∧
        (Condition.item "STRASSENKARTE").holds d = .ok true ∧
        (Condition.item "karte").holds d = (Condition.item "karte").holds pilgrim) ∧
      ∃ d, (Change.updateSlot "Belt" (.shift 2)).apply pilgrim = .ok d ∧
        (Condition.slot "BELT" 3).holds d = .ok true ∧
        (Condition.counter "slot:Belt" 4).holds d = .ok false ∧
        (Condition.counter "Belt" 0).holds d = (Condition.counter "Belt" 0).holds pilgrim := by
  have hwhole : pilgrim.HasWholeMaps :=
    ⟨⟨NameMap.whole_empty, NameMap.whole_empty.set "Agility" 1⟩,
      (NameMap.whole_empty.set "Belt" (-2)).set "SLOT:belt" 1⟩
  obtain ⟨hitems, -, -, hcounters⟩ := grants_are_seen hwhole
  refine ⟨hwhole, ?_, ?_⟩
  · obtain ⟨d, hd, hseen, hothers⟩ := hitems "Straßenkarte" "map"
    refine ⟨d, hd, (hseen "STRASSENKARTE" (by decide)).2 ?_, hothers (.item "karte") ?_⟩
    · exact List.forall_mem_singleton.mpr ⟨"Rope", rfl⟩
    · intro htests
      cases htests with
      | item hname => exact absurd hname (by decide)
      | counter hcondition => cases hcondition
  · obtain ⟨d, hd, hseen, hothers⟩ := hcounters (.updateSlot "Belt" (.shift 2)) _ _ rfl
    refine ⟨d, hd, ?_, ?_, hothers (.counter "Belt" 0) ?_⟩
    · exact (hseen (.slot "BELT" 3) _ _ rfl (by decide)).trans (congrArg Except.ok (by decide))
    · exact (hseen (.counter "slot:Belt" 4) _ _ rfl (by decide)).trans
        (congrArg Except.ok (by decide))
    · intro htests
      cases htests with
      | counter hcondition hchange hname =>
          cases hcondition
          cases hchange
          exact absurd hname (by decide)

/-- A bearer of something whose name is a number. -/
def bearer : Context where
  state := { character := { id := .str "c", inventory := { items := [{ name := .int 5 }] } } }

/-- **A name that is no text hides what comes after it:** the rope is carried, but is not found. -/
theorem no_answer_behind_stray_name :
    bearer.HasWholeMaps ∧
      ∃ d, (Change.addItem "rope" "general").apply bearer = .ok d ∧
        (Condition.item "rope").holds d = .error .notText := by
  have hstats : bearer.character.HasWholeStats := ⟨NameMap.whole_empty, NameMap.whole_empty⟩
  exact ⟨⟨hstats, NameMap.whole_empty⟩, _, rfl, rfl⟩

end Questbook
