import Questbook.Proofs.Token.Stats

set_option autoImplicit false

/-! # Gains

A gain takes nothing away: it adds an item, a discipline, or to a number, or it sets a flag that is not
yet set (`Change.IsGain`). What a gain leaves is ordered above what it was applied to: every value can
still be read and is no less, and what is known and carried is continued (`Character.NoLess`,
`Context.NoLess`).

Conditions are monotone in this order (`Condition.holds_of_noLess`), so that gains close no choice
(`allHold_applyAll_of_gains`). This needs no floor for the numbers to start from, and no text for the
names: where a gain fails, those before it have closed nothing either.
-/

namespace Questbook

open Text

/-! ## Numbers and names -/

/-- **Whether a number stays and is no less.** -/
def StaysAtLeast (v w : Option Int) : Prop :=
  ∀ n, v = some n → ∃ m, w = some m ∧ n ≤ m

/-- **Whether a list goes on with further names.** -/
def GoesOn (js ks : List Json) : Prop :=
  ∃ names : List String, ks = js ++ names.map .str

section

variable {u v w : Option Int} {js ks ls : List Json} {folded : String}

theorem StaysAtLeast.refl (v : Option Int) : StaysAtLeast v v :=
  fun n hn => ⟨n, hn, Int.le_refl n⟩

theorem StaysAtLeast.trans (huv : StaysAtLeast u v) (hvw : StaysAtLeast v w) : StaysAtLeast u w := by
  intro n hn
  obtain ⟨m, hm, hnm⟩ := huv n hn
  obtain ⟨k, hk, hmk⟩ := hvw m hm
  exact ⟨k, hk, Int.le_trans hnm hmk⟩

/-- A missing number may be replaced by any number. -/
theorem staysAtLeast_some {m : Int} (h : ∀ n, v = some n → n ≤ m) : StaysAtLeast v (some m) :=
  fun n hn => ⟨m, rfl, h n hn⟩

theorem staysAtLeast_add (v : Option Int) {delta : Int} (h : 0 ≤ delta) :
    StaysAtLeast v (some (v.getD 0 + delta)) := by
  apply staysAtLeast_some
  intro n hn
  rw [hn, Option.getD_some]
  omega

/-- A number stays when something is added to it or to another number of the map. -/
theorem NameMap.staysAtLeast_set (m : NameMap Json) (name other : String) {delta : Int}
    (h : 0 ≤ delta) :
    StaysAtLeast (m.whole? other)
      ((m.set name (.int ((m.whole? name).getD 0 + delta))).whole? other) := by
  rw [NameMap.whole?_set]
  by_cases hsame : fold name = fold other
  · rw [if_pos hsame, m.whole?_congr hsame]
    exact staysAtLeast_add _ h
  · rw [if_neg hsame]
    exact .refl _

theorem StaysAtLeast.any_le (h : StaysAtLeast v w) {minimum : Int}
    (hv : v.any (fun n => decide (minimum ≤ n)) = true) :
    w.any (fun n => decide (minimum ≤ n)) = true := by
  cases v with
  | none => cases hv
  | some n =>
      obtain ⟨m, rfl, hnm⟩ := h n rfl
      simp only [Option.any_some, decide_eq_true_eq] at hv ⊢
      omega

theorem GoesOn.refl (js : List Json) : GoesOn js js :=
  ⟨[], (List.append_nil js).symm⟩

theorem GoesOn.trans (hjk : GoesOn js ks) (hkl : GoesOn ks ls) : GoesOn js ls := by
  obtain ⟨names, rfl⟩ := hjk
  obtain ⟨names', rfl⟩ := hkl
  exact ⟨names ++ names', by rw [List.append_assoc, List.map_append]⟩

/-- What was found among names is found among more of them, and where all could be looked at before, all
can be looked at now. -/
theorem GoesOn.anyNamed (h : GoesOn js ks) {found : Bool} (hjs : anyNamed folded js = .ok found) :
    ∃ found', Questbook.anyNamed folded ks = .ok found' ∧ (found = true → found' = true) := by
  obtain ⟨names, rfl⟩ := h
  induction js with
  | nil =>
      cases hjs
      exact ⟨_, anyNamed_map_str folded names, nofun⟩
  | cons j js ih =>
      obtain ⟨named, hnamed, hrest⟩ := bind_eq_ok_iff.mp hjs
      rw [List.cons_append, Questbook.anyNamed, hnamed]
      cases named with
      | true => exact ⟨true, rfl, fun _ => rfl⟩
      | false => exact ih hrest

end

/-! ## Characters and contexts with no less -/

/-- **Whether one character has no less than another one:** the value and the counter under each name,
the bonus, what is known and what is carried. -/
structure Character.NoLess (x y : Character) : Prop where
  value : ∀ name, StaysAtLeast (x.value? name) (y.value? name)
  bonus : x.bonus ≤ y.bonus
  counter : ∀ name, StaysAtLeast (x.inventory.counters.whole? name) (y.inventory.counters.whole? name)
  skills : ∀ name, x.coreSkills.contains name = true → y.coreSkills.contains name = true
  disciplines : GoesOn x.disciplines y.disciplines
  items : GoesOn (x.inventory.items.map Item.name) (y.inventory.items.map Item.name)

theorem Character.NoLess.refl (x : Character) : x.NoLess x :=
  ⟨fun _ => .refl _, Int.le_refl _, fun _ => .refl _, fun _ h => h, .refl _, .refl _⟩

theorem Character.NoLess.trans {x y z : Character} (hxy : x.NoLess y) (hyz : y.NoLess z) :
    x.NoLess z where
  value name := (hxy.value name).trans (hyz.value name)
  bonus := Int.le_trans hxy.bonus hyz.bonus
  counter name := (hxy.counter name).trans (hyz.counter name)
  skills name h := hyz.skills name (hxy.skills name h)
  disciplines := hxy.disciplines.trans hyz.disciplines
  items := hxy.items.trans hyz.items

/-- **Whether the values, the bonus and the counters of a context are whole numbers.** -/
structure Context.HasWholeMaps (c : Context) : Prop where
  stats : c.character.HasWholeStats
  counters : c.counters.Whole

/-- **Whether one context has no less than another one.** The flags that were set keep their values. -/
structure Context.NoLess (c d : Context) : Prop where
  character : c.character.NoLess d.character
  flags : ∀ name v, c.flags.get? name = some v → d.flags.get? name = some v

theorem Context.NoLess.refl (c : Context) : c.NoLess c :=
  ⟨.refl _, fun _ _ h => h⟩

variable {c d : Context}

/-! ## Conditions -/

theorem Character.NoLess.hasSkill {x y : Character} (h : x.NoLess y) {name : String}
    (hx : x.hasSkill name = .ok true) : y.hasSkill name = .ok true := by
  obtain ⟨known, hknown, hrest⟩ := bind_eq_ok_iff.mp hx
  obtain ⟨known', hknown', hkeeps⟩ := h.disciplines.anyNamed hknown
  have hdiscipline : y.hasDiscipline name = .ok known' := hknown'
  unfold Character.hasSkill
  rw [hdiscipline]
  cases known with
  | true =>
      rw [hkeeps rfl]
      rfl
  | false =>
      -- no discipline of this name was known, hence it is a core skill and stays one
      have hskill : x.coreSkills.contains name = true := Except.ok.inj hrest
      have hskill' : y.coreSkills.contains name = true := h.skills name hskill
      cases known' with
      | true => rfl
      | false => exact congrArg Except.ok hskill'

theorem counterReaches_of_staysAtLeast {m n : NameMap Json} (hm : m.Whole) (hn : n.Whole)
    {name : String} (h : StaysAtLeast (m.whole? name) (n.whole? name)) {minimum : Int}
    (hreaches : counterReaches m name minimum = .ok true) :
    counterReaches n name minimum = .ok true := by
  unfold counterReaches at hreaches ⊢
  rw [hm.get?_eq] at hreaches
  rw [hn.get?_eq]
  cases hv : m.whole? name with
  | none =>
      rw [hv] at hreaches
      cases hreaches
  | some v =>
      obtain ⟨w, hw, hvw⟩ := h v hv
      rw [hv] at hreaches
      rw [hw]
      simp only [Option.map_some, Json.atLeast_int, Except.ok.injEq, decide_eq_true_eq] at hreaches ⊢
      omega

theorem flagMatches_of_kept {flags flags' : NameMap Json} {name : String}
    (h : ∀ v, flags.get? name = some v → flags'.get? name = some v) {expected : Option String}
    (hmatches : flagMatches flags name expected = .ok true) :
    flagMatches flags' name expected = .ok true := by
  unfold flagMatches at hmatches ⊢
  cases hv : flags.get? name with
  | none =>
      rw [hv] at hmatches
      cases hmatches
  | some v =>
      rw [hv] at hmatches
      rw [h v hv]
      exact hmatches

/-- **A condition that holds keeps holding** where there is no less. -/
theorem Condition.holds_of_noLess {condition : Condition} (h : c.NoLess d) (hc : c.HasWholeMaps)
    (hd : d.HasWholeMaps) (hholds : condition.holds c = .ok true) : condition.holds d = .ok true := by
  cases condition with
  | skill name => exact h.character.hasSkill hholds
  | stat name minimum =>
      rw [holds_stat hc.stats, Except.ok.injEq] at hholds
      rw [holds_stat hd.stats, (h.character.value name).any_le hholds]
  | item name =>
      obtain ⟨found, hfound, hkeeps⟩ := h.character.items.anyNamed hholds
      rw [hkeeps rfl] at hfound
      exact hfound
  | flag name expected => exact flagMatches_of_kept (h.flags name) hholds
  | counter name minimum =>
      exact counterReaches_of_staysAtLeast hc.counters hd.counters (h.character.counter name) hholds
  | combat minimum =>
      rw [holds_combat hc.stats, Except.ok.injEq, decide_eq_true_eq] at hholds
      have hbonus := h.character.bonus
      rw [holds_combat hd.stats, decide_eq_true (by omega)]
  | slot name minimum =>
      exact counterReaches_of_staysAtLeast hc.counters hd.counters
        (h.character.counter (slotCounter name)) hholds
  | unsupported => cases hholds

theorem allHold_of_noLess (h : c.NoLess d) (hc : c.HasWholeMaps) (hd : d.HasWholeMaps)
    {requirements : List Requirement} (hall : allHold c requirements = .ok true) :
    allHold d requirements = .ok true := by
  induction requirements with
  | nil => rfl
  | cons r rs ih =>
      obtain ⟨holds, hr, hrest⟩ := bind_eq_ok_iff.mp hall
      cases holds with
      | false => cases hrest
      | true =>
          have hr' : r.holds d = .ok true := Condition.holds_of_noLess h hc hd hr
          rw [allHold, hr']
          exact ih hrest

/-! ## Gains -/

/-- **Whether a change is a gain,** given the flags that are set. -/
def Change.IsGain (flags : NameMap Json) : Change → Prop
  | adjustStat _ delta | adjustCombat delta => 0 ≤ delta
  | heal amount => 0 ≤ amount
  | addItem _ _ | grantDiscipline _ | unsupported => True
  | setFlag name _ => flags.contains name = false
  | updateCounter _ (.shift delta) | updateSlot _ (.shift delta) => 0 ≤ delta
  | _ => False

namespace Character

variable {x y : Character} {name : String} {delta : Int}

/-- A change of a value leaves all that is carried and known, and makes no core skill unknown. -/
theorem frame_of_adjustStat (h : x.adjustStat name delta = .ok y) :
    y.inventory = x.inventory ∧ y.disciplines = x.disciplines ∧
      ∀ other, x.coreSkills.contains other = true → y.coreSkills.contains other = true := by
  unfold adjustStat at h
  split at h
  · cases h
    exact ⟨rfl, rfl, fun _ hknown => hknown⟩
  split at h
  · cases h
    exact ⟨rfl, rfl, fun _ hknown => hknown⟩
  split at h
  · obtain ⟨m, hm, hy⟩ := bind_eq_ok_iff.mp h
    cases hy
    obtain ⟨v, rfl⟩ := eq_set_of_addUnder hm
    refine ⟨rfl, rfl, fun other hknown => ?_⟩
    unfold NameMap.contains at hknown ⊢
    rw [NameMap.get?_set]
    split
    · rfl
    · exact hknown
  · obtain ⟨m, -, hy⟩ := bind_eq_ok_iff.mp h
    cases hy
    exact ⟨rfl, rfl, fun _ hknown => hknown⟩

/-- A value that something is added to is no less, since the floor of endurance can only raise it. -/
theorem Writes.staysAtLeast (h : x.Writes name delta y) (hdelta : 0 ≤ delta) (other : String) :
    StaysAtLeast (x.value? other) (y.value? other) := by
  by_cases hsame : fold name = fold other
  · rw [← value?_congr hsame, ← value?_congr hsame, h.written]
    apply staysAtLeast_some
    intro n hn
    rw [hn, Option.getD_some]
    unfold floored
    split <;> omega
  · rw [h.others other hsame]
    exact .refl _

theorem noLess_of_adjustStat (hx : x.HasWholeStats) (hdelta : 0 ≤ delta)
    (h : x.adjustStat name delta = .ok y) : x.NoLess y ∧ y.HasWholeStats := by
  obtain ⟨y', hy', hwrites⟩ := exists_adjustStat hx name delta
  obtain rfl : y' = y := Except.ok.inj (hy'.symm.trans h)
  obtain ⟨hinventory, hdisciplines, hskills⟩ := frame_of_adjustStat h
  have hbonus : x.bonus ≤ y'.bonus := by
    rw [hwrites.bonus]
    split <;> omega
  refine ⟨⟨hwrites.staysAtLeast hdelta, hbonus, fun _ => ?_, hskills, ?_, ?_⟩, hwrites.whole⟩
  · rw [hinventory]
    exact .refl _
  · rw [hdisciplines]
    exact .refl _
  · rw [hinventory]
    exact .refl _

theorem noLess_withBonus (hx : x.HasWholeStats) (hdelta : 0 ≤ delta) :
    x.NoLess (x.withBonus delta) := by
  have hbonus : x.bonus ≤ (x.withBonus delta).bonus := by
    rw [bonus_withBonus]
    omega
  refine ⟨fun other => ?_, hbonus, fun _ => .refl _, fun _ h => h, .refl _, .refl _⟩
  rw [hx.value?_withBonus]
  split
  · exact staysAtLeast_add _ hdelta
  · exact .refl _

theorem noLess_heal (x : Character) {amount : Int} (hamount : 0 ≤ amount) :
    x.NoLess { x with endurance := x.endurance + amount } := by
  refine ⟨fun other => ?_, Int.le_refl _, fun _ => .refl _, fun _ h => h, .refl _, .refl _⟩
  unfold value?
  split
  · exact .refl _
  split
  · apply staysAtLeast_some
    intro n hn
    cases hn
    show x.endurance ≤ x.endurance + amount
    omega
  · exact .refl _

theorem noLess_of_grant (h : x.grant name = .ok y) :
    x.NoLess y ∧ (x.HasWholeStats → y.HasWholeStats) ∧ y.inventory = x.inventory := by
  obtain ⟨known, -, hgrant⟩ := bind_eq_ok_iff.mp h
  cases known with
  | true =>
      cases hgrant
      exact ⟨.refl _, fun hx => hx, rfl⟩
  | false =>
      cases hgrant
      exact ⟨⟨fun _ => .refl _, Int.le_refl _, fun _ => .refl _, fun _ h => h, ⟨[name], rfl⟩, .refl _⟩,
        fun hx => ⟨hx.attributes, hx.coreSkills⟩, rfl⟩

end Character

theorem Context.HasWholeMaps.withCharacter (hc : c.HasWholeMaps) {y : Character}
    (hy : y.HasWholeStats) (hinventory : y.inventory = c.inventory) :
    (c.withCharacter y).HasWholeMaps := by
  refine ⟨hy, ?_⟩
  show y.inventory.counters.Whole
  rw [hinventory]
  exact hc.counters

/-- Adding to a counter takes nothing away. -/
theorem Context.HasWholeMaps.addCounter (hc : c.HasWholeMaps) {name : String} {delta : Int}
    (hdelta : 0 ≤ delta) (h : (addUnder c.counters name delta).map c.withCounters = .ok d) :
    c.character.NoLess d.character ∧ d.HasWholeMaps ∧ d.flags = c.flags := by
  rw [hc.counters.addUnder_eq] at h
  cases h
  refine ⟨⟨fun _ => .refl _, Int.le_refl _, fun other => ?_, fun _ h => h, .refl _, .refl _⟩,
    ⟨⟨hc.stats.attributes, hc.stats.coreSkills⟩, hc.counters.set name _⟩, rfl⟩
  exact NameMap.staysAtLeast_set c.counters name other hdelta

/-- **One gain takes nothing from the character,** and overwrites none of the flags that are given. -/
theorem Change.IsGain.noLess {change : Change} {flags : NameMap Json} (hgain : change.IsGain flags)
    (hc : c.HasWholeMaps) (h : change.apply c = .ok d) :
    c.character.NoLess d.character ∧ d.HasWholeMaps ∧
      ∀ name, flags.contains name = true → d.flags.get? name = c.flags.get? name := by
  cases change with
  | adjustStat name delta =>
      obtain ⟨y, hy, rfl⟩ := map_eq_ok_iff.mp h
      obtain ⟨hless, hwhole⟩ := Character.noLess_of_adjustStat hc.stats hgain hy
      have hinventory : y.inventory = c.inventory := (Character.frame_of_adjustStat hy).1
      exact ⟨hless, hc.withCharacter hwhole hinventory, fun _ _ => rfl⟩
  | adjustCombat delta =>
      rw [apply_adjustCombat hc.stats] at h
      cases h
      exact ⟨Character.noLess_withBonus hc.stats hgain,
        hc.withCharacter (hc.stats.withBonus delta) rfl, fun _ _ => rfl⟩
  | heal amount =>
      cases h
      exact ⟨c.character.noLess_heal hgain,
        hc.withCharacter ⟨hc.stats.attributes, hc.stats.coreSkills⟩ rfl, fun _ _ => rfl⟩
  | addItem name category =>
      cases h
      have hitems : GoesOn (c.inventory.items.map Item.name)
          ((c.inventory.items ++ [Item.mk (.str name) (.str category)]).map Item.name) :=
        ⟨[name], by simp⟩
      exact ⟨⟨fun _ => .refl _, Int.le_refl _, fun _ => .refl _, fun _ h => h, .refl _, hitems⟩,
        ⟨⟨hc.stats.attributes, hc.stats.coreSkills⟩, hc.counters⟩, fun _ _ => rfl⟩
  | setFlag name value =>
      cases h
      refine ⟨.refl _, ⟨hc.stats, hc.counters⟩, fun other hother => ?_⟩
      have hnew : flags.contains name = false := hgain
      have hdifferent : fold name ≠ fold other := by
        intro hsame
        unfold NameMap.contains at hnew hother
        rw [flags.get?_congr hsame, hother] at hnew
        cases hnew
      exact (c.flags.get?_set name other (.str value)).trans (if_neg hdifferent)
  | grantDiscipline name =>
      obtain ⟨y, hy, rfl⟩ := map_eq_ok_iff.mp h
      obtain ⟨hless, hwhole, hinventory⟩ := Character.noLess_of_grant hy
      exact ⟨hless, hc.withCharacter (hwhole hc.stats) hinventory, fun _ _ => rfl⟩
  | updateCounter name update =>
      cases update with
      | set value => cases hgain
      | shift delta =>
          obtain ⟨hless, hwhole, hflags⟩ := hc.addCounter hgain h
          exact ⟨hless, hwhole, fun other _ => by rw [hflags]⟩
  | updateSlot name update =>
      cases update with
      | set value => cases hgain
      | shift delta =>
          obtain ⟨hless, hwhole, hflags⟩ := hc.addCounter hgain h
          exact ⟨hless, hwhole, fun other _ => by rw [hflags]⟩
  | unsupported =>
      cases h
      exact ⟨.refl _, hc, fun _ _ => rfl⟩
  | _ => cases hgain

/-- **Gains leave no less than there was at first,** also when one of them fails. The flags that count are
those that were set at first: one that is set on the way may be set again. -/
theorem Context.NoLess.applyAll {first : Context} {es : List Effect} (h : first.NoLess c)
    (hc : c.HasWholeMaps) (hgains : ∀ e ∈ es, e.change.IsGain first.flags) :
    first.NoLess (Questbook.applyAll c es).1 ∧ (Questbook.applyAll c es).1.HasWholeMaps := by
  induction es generalizing c with
  | nil => exact ⟨h, hc⟩
  | cons e es ih =>
      unfold Questbook.applyAll
      split
      · next d hd =>
        obtain ⟨hless, hwhole, hflags⟩ := (hgains e (by simp)).noLess hc hd
        have hfirst : first.NoLess d := by
          refine ⟨h.character.trans hless, fun name v hv => ?_⟩
          have hset : first.flags.contains name = true := by
            unfold NameMap.contains
            rw [hv]
            rfl
          rw [hflags name hset]
          exact h.flags name v hv
        exact ih hfirst hwhole fun e' he' => hgains e' (by simp [he'])
      · exact ⟨h, hc⟩

/-- **Gains close no choice.** Requirements that hold before a list of gains hold after it. -/
theorem allHold_applyAll_of_gains {requirements : List Requirement} {es : List Effect}
    (hc : c.HasWholeMaps) (hgains : ∀ e ∈ es, e.change.IsGain c.flags)
    (hall : allHold c requirements = .ok true) :
    allHold (applyAll c es).1 requirements = .ok true := by
  obtain ⟨hless, hwhole⟩ := (Context.NoLess.refl c).applyAll hc hgains
  exact allHold_of_noLess hless hc hwhole hall

/-- A traveller with debts, below all floors. -/
def traveller : Context where
  state := { character := {
    id := .str "c"
    endurance := -4
    disciplines := [.str "Hunting"]
    attributes := NameMap.empty.set "CombatSkillBonus" (.int (-2))
    coreSkills := NameMap.empty.set "Agility" (.int 1)
    inventory := {
      items := [{ name := .str "Rope" }]
      counters := (NameMap.empty.set "Gold" (.int (-5))).set "slot:Belt" (.int 0) } } }
  flags := NameMap.empty.set "torch" (.str "lit")

/-- Requirements of every kind that the traveller just meets. -/
def bareRequirements : List Requirement :=
  [⟨.skill "HUNTING", ""⟩, ⟨.stat "Endurance" (-4), ""⟩, ⟨.stat "agility" 1, ""⟩,
    ⟨.item "rope", ""⟩, ⟨.flag "Torch" (some "LIT"), ""⟩, ⟨.counter "gold" (-5), ""⟩,
    ⟨.combat (-2), ""⟩, ⟨.slot "belt" 0, ""⟩]

/-- Gains of every kind. The flag of the door is set twice. -/
def findings : List Effect :=
  [⟨.adjustStat "ENDURANCE" 1, ""⟩, ⟨.heal 2, ""⟩, ⟨.adjustStat "CombatSkillBonus" 1, ""⟩,
    ⟨.adjustCombat 1, ""⟩, ⟨.adjustStat "Luck" 3, ""⟩, ⟨.addItem "ROPE" "tool", ""⟩,
    ⟨.grantDiscipline "hunting", ""⟩, ⟨.updateCounter "GOLD" (.shift 2), ""⟩,
    ⟨.updateSlot "Belt" (.shift 0), ""⟩, ⟨.setFlag "door" "open", ""⟩, ⟨.setFlag "DOOR" "shut", ""⟩,
    ⟨.unsupported, ""⟩]

theorem allHold_applyAll_of_gains_traveller :
    traveller.HasWholeMaps ∧ (∀ e ∈ findings, e.change.IsGain traveller.flags) ∧
      allHold traveller bareRequirements = .ok true ∧
      allHold (applyAll traveller findings).1 bareRequirements = .ok true := by
  have hstats : traveller.character.HasWholeStats :=
    ⟨NameMap.whole_empty.set "CombatSkillBonus" (-2), NameMap.whole_empty.set "Agility" 1⟩
  have hwhole : traveller.HasWholeMaps :=
    ⟨hstats, (NameMap.whole_empty.set "Gold" (-5)).set "slot:Belt" 0⟩
  have hgains : ∀ e ∈ findings, e.change.IsGain traveller.flags := by
    have hdoor : traveller.flags.contains "door" = false := by decide
    have hdoor' : traveller.flags.contains "DOOR" = false := by decide
    simp [findings, Change.IsGain, hdoor, hdoor']
  have hall : allHold traveller bareRequirements = .ok true := by rfl
  exact ⟨hwhole, hgains, hall, allHold_applyAll_of_gains hwhole hgains hall⟩

end Questbook
