import Mathlib.Data.List.Forall2
import Questbook.Proofs.NameMap.Same
import Questbook.Proofs.Token.Conditions

set_option autoImplicit false

/-! # Casing of names

Names that differ in their casing only are the same name to everything that reads or writes them. Two
contexts that are the same up to the casing of names (`Context.Recased`) answer conditions alike, and
effects make of them two such contexts again, whatever casing the conditions and effects use for each of
them (`recased_contexts_agree`).
-/

namespace Questbook

open Text

/-! ## The same up to casing -/

/-- Whether two values are texts that differ in their casing only. -/
def Json.Recased (j k : Json) : Prop :=
  ∃ a b, j = .str a ∧ k = .str b ∧ fold a = fold b

/-- Whether two maps have values under the same names, and the values are texts that differ in their casing
only. -/
def NameMap.Recased (m n : NameMap Json) : Prop :=
  ∀ name, Option.Rel Json.Recased (m.get? name) (n.get? name)

/-- Items of one category whose names differ in their casing only. -/
structure Item.Recased (i k : Item) : Prop where
  name : i.name.Recased k.name
  category : i.category = k.category

/-- **Characters that are the same up to the casing of names,** with maps of whole numbers. -/
structure Character.Recased (x y : Character) : Prop where
  combatSkill : x.combatSkill = y.combatSkill
  endurance : x.endurance = y.endurance
  disciplines : List.Forall₂ Json.Recased x.disciplines y.disciplines
  attributes : x.attributes.SameWhole y.attributes
  coreSkills : x.coreSkills.SameWhole y.coreSkills
  items : List.Forall₂ Item.Recased x.inventory.items y.inventory.items
  counters : x.inventory.counters.SameWhole y.inventory.counters

/-- **Contexts that are the same up to the casing of names.** Of the game states only the characters
count. -/
structure Context.Recased (c d : Context) : Prop where
  character : c.character.Recased d.character
  flags : c.flags.Recased d.flags

/-- **Conditions of one variant that differ in the casing of names only.** -/
inductive Condition.Recased : Condition → Condition → Prop
  | skill {a b : String} (name : fold a = fold b) : Recased (.skill a) (.skill b)
  | stat {a b : String} (name : fold a = fold b) (minimum : Int) :
      Recased (.stat a minimum) (.stat b minimum)
  | item {a b : String} (name : fold a = fold b) : Recased (.item a) (.item b)
  | flag {a b : String} (name : fold a = fold b) {x y : Option String}
      (expected : x.map fold = y.map fold) : Recased (.flag a x) (.flag b y)
  | counter {a b : String} (name : fold a = fold b) (minimum : Int) :
      Recased (.counter a minimum) (.counter b minimum)
  | combat (minimum : Int) : Recased (.combat minimum) (.combat minimum)
  | slot {a b : String} (name : fold a = fold b) (minimum : Int) :
      Recased (.slot a minimum) (.slot b minimum)
  | unsupported : Recased .unsupported .unsupported

/-- **Changes of one variant that differ in the casing of names and flags only.** -/
inductive Change.Recased : Change → Change → Prop
  | adjustStat {a b : String} (name : fold a = fold b) (delta : Int) :
      Recased (.adjustStat a delta) (.adjustStat b delta)
  | adjustCombat (delta : Int) : Recased (.adjustCombat delta) (.adjustCombat delta)
  | damage (amount : Int) : Recased (.damage amount) (.damage amount)
  | heal (amount : Int) : Recased (.heal amount) (.heal amount)
  | addItem {a b : String} (name : fold a = fold b) (category : String) :
      Recased (.addItem a category) (.addItem b category)
  | removeItem {a b : String} (name : fold a = fold b) : Recased (.removeItem a) (.removeItem b)
  | setFlag {a b : String} (name : fold a = fold b) {v w : String} (value : fold v = fold w) :
      Recased (.setFlag a v) (.setFlag b w)
  | grantDiscipline {a b : String} (name : fold a = fold b) :
      Recased (.grantDiscipline a) (.grantDiscipline b)
  | updateCounter {a b : String} (name : fold a = fold b) (update : Update) :
      Recased (.updateCounter a update) (.updateCounter b update)
  | updateSlot {a b : String} (name : fold a = fold b) (update : Update) :
      Recased (.updateSlot a update) (.updateSlot b update)
  | unsupported : Recased .unsupported .unsupported

theorem Json.recased_str {a b : String} (h : fold a = fold b) : (Json.str a).Recased (.str b) :=
  ⟨a, b, rfl, rfl, h⟩

/-- The names of the counters that hold slots differ as the names of the slots do. -/
theorem fold_slotCounter {a b : String} (h : fold a = fold b) :
    fold (slotCounter a) = fold (slotCounter b) := by
  unfold slotCounter
  rw [fold_append, fold_append, h]

/-! ## Lists of names -/

theorem isNamed_recased {j k : Json} (h : j.Recased k) (folded : String) :
    isNamed folded j = isNamed folded k := by
  obtain ⟨a, b, rfl, rfl, hfold⟩ := h
  show Except.ok (decide (fold a = folded)) = Except.ok (decide (fold b = folded))
  rw [hfold]

theorem anyNamed_recased {js ks : List Json} (h : List.Forall₂ Json.Recased js ks)
    (folded : String) : anyNamed folded js = anyNamed folded ks := by
  induction h with
  | nil => rfl
  | cons hname _ ih => rw [anyNamed, anyNamed, isNamed_recased hname, ih]

theorem forall_of_recased {js ks : List Json} (h : List.Forall₂ Json.Recased js ks) :
    ∀ j ∈ js, ∃ name, j = .str name := by
  induction h with
  | nil => exact List.forall_mem_nil _
  | cons hname _ ih =>
      obtain ⟨a, -, ha, -, -⟩ := hname
      exact List.forall_mem_cons.mpr ⟨⟨a, ha⟩, ih⟩

theorem names_recased {is ks : List Item} (h : List.Forall₂ Item.Recased is ks) :
    List.Forall₂ Json.Recased (is.map Item.name) (ks.map Item.name) := by
  rw [List.forall₂_map_left_iff, List.forall₂_map_right_iff]
  exact h.imp fun _ _ hitem => hitem.name

/-- The same item is dropped of both lists. -/
theorem dropNamed_recased {is ks : List Item} (h : List.Forall₂ Item.Recased is ks)
    (folded : String) :
    Both (List.Forall₂ Item.Recased) (dropNamed folded is) (dropNamed folded ks) := by
  induction h with
  | nil => exact both_ok .nil
  | @cons i k is ks hitem hrest ih =>
      rw [dropNamed, dropNamed]
      have hnamed : Both Eq (isNamed folded i.name) (isNamed folded k.name) := by
        rw [isNamed_recased hitem.name]
        obtain ⟨-, b, -, hb, -⟩ := hitem.name
        rw [hb]
        exact both_ok rfl
      -- the search stops at the same place in both lists
      refine hnamed.bind ?_
      rintro found _ rfl
      cases found with
      | true => exact both_ok hrest
      | false => exact ih.bind fun _ _ hdropped => both_ok (.cons hitem hdropped)

/-! ## Flags -/

namespace NameMap.Recased

variable {m n : NameMap Json} {a b : String}

theorem get? (h : m.Recased n) (hname : fold a = fold b) :
    Option.Rel Json.Recased (m.get? a) (n.get? b) := by
  rw [m.get?_congr hname]
  exact h b

theorem set (h : m.Recased n) (hname : fold a = fold b) {v w : String} (hvalue : fold v = fold w) :
    (m.set a (.str v)).Recased (n.set b (.str w)) := by
  intro name
  rw [get?_set, get?_set, hname]
  by_cases hsame : fold b = fold name
  · rw [if_pos hsame, if_pos hsame]
    exact .some (Json.recased_str hvalue)
  · rw [if_neg hsame, if_neg hsame]
    exact h name

theorem flagMatches_eq (h : m.Recased n) (hname : fold a = fold b) {x y : Option String}
    (hexpected : x.map fold = y.map fold) : flagMatches m a x = flagMatches n b y := by
  have hrel := h.get? hname
  unfold flagMatches
  -- the values found, with what is known of them
  generalize m.get? a = v, n.get? b = w at hrel ⊢
  cases hrel with
  | none => rfl
  | some hvalue =>
      obtain ⟨v, w, rfl, rfl, hfold⟩ := hvalue
      cases x with
      | none =>
          obtain rfl := Option.map_eq_none_iff.mp hexpected.symm
          rfl
      | some e =>
          obtain ⟨e', rfl, he⟩ := Option.map_eq_some_iff.mp hexpected.symm
          show Except.ok (decide (fold v = fold e)) = Except.ok (decide (fold w = fold e'))
          rw [hfold, he]

/-- The values of the flags have texts. -/
theorem hasText (h : m.Recased n) : ∀ e ∈ m.entries, e.2.HasText := by
  intro e he
  have hrel := h e.1
  rw [m.get?_of_mem he] at hrel
  generalize n.get? e.1 = w at hrel
  cases hrel with
  | some hvalue =>
      obtain ⟨v, -, hv, -, -⟩ := hvalue
      rw [hv]
      exact Json.hasText_str v

end NameMap.Recased

/-! ## Conditions -/

namespace Character.Recased

variable {x y : Character} {a b : String}

theorem wellTyped (h : x.Recased y) : x.WellTyped where
  disciplines := forall_of_recased h.disciplines
  items i hi := forall_of_recased (names_recased h.items) i.name (List.mem_map.mpr ⟨i, hi, rfl⟩)
  attributes := h.attributes.left
  coreSkills := h.coreSkills.left
  counters := h.counters.left

theorem hasDiscipline_eq (h : x.Recased y) (hname : fold a = fold b) :
    x.hasDiscipline a = y.hasDiscipline b := by
  unfold hasDiscipline
  rw [hname, anyNamed_recased h.disciplines]

theorem hasSkill_eq (h : x.Recased y) (hname : fold a = fold b) : x.hasSkill a = y.hasSkill b := by
  unfold hasSkill
  rw [h.hasDiscipline_eq hname, h.coreSkills.contains_eq hname]

theorem stat?_eq (h : x.Recased y) (hname : fold a = fold b) : x.stat? a = y.stat? b := by
  unfold stat?
  rw [hname, h.combatSkill, h.endurance, h.coreSkills.get?_eq hname, h.attributes.get?_eq hname]

theorem combatBonus_eq (h : x.Recased y) : x.combatBonus = y.combatBonus := by
  unfold combatBonus
  rw [h.attributes.get?_eq rfl]

end Character.Recased

theorem NameMap.SameWhole.counterReaches_eq {m n : NameMap Json} (h : m.SameWhole n) {a b : String}
    (hname : fold a = fold b) (minimum : Int) :
    counterReaches m a minimum = counterReaches n b minimum := by
  unfold counterReaches
  rw [h.get?_eq hname]

variable {c d : Context}

theorem Context.Recased.answers (h : c.Recased d) : c.Answers :=
  ⟨h.character.wellTyped, h.flags.hasText⟩

/-- **A condition is answered alike.** -/
theorem Condition.Recased.holds_eq {p q : Condition} (hpq : p.Recased q) (h : c.Recased d) :
    p.holds c = q.holds d := by
  cases hpq with
  | skill hname => exact h.character.hasSkill_eq hname
  | stat hname minimum => exact congrArg (reaches · minimum) (h.character.stat?_eq hname)
  | @item a b hname =>
      show anyNamed (fold a) _ = anyNamed (fold b) _
      rw [hname]
      exact anyNamed_recased (names_recased h.character.items) _
  | flag hname hexpected => exact h.flags.flagMatches_eq hname hexpected
  | counter hname minimum => exact h.character.counters.counterReaches_eq hname minimum
  | combat minimum => exact congrArg (Json.atLeast · minimum) h.character.combatBonus_eq
  | slot hname minimum =>
      exact h.character.counters.counterReaches_eq (fold_slotCounter hname) minimum
  | unsupported => rfl

/-! ## Changes -/

theorem Context.Recased.withCharacter (h : c.Recased d) {x y : Character} (hxy : x.Recased y) :
    (c.withCharacter x).Recased (d.withCharacter y) :=
  ⟨hxy, h.flags⟩

theorem Character.Recased.adjustStat {x y : Character} (h : x.Recased y) {a b : String}
    (hname : fold a = fold b) (delta : Int) :
    Both Character.Recased (x.adjustStat a delta) (y.adjustStat b delta) := by
  unfold Character.adjustStat
  rw [hname, h.coreSkills.contains_eq hname]
  split
  · exact both_ok { h with combatSkill := congrArg (· + delta) h.combatSkill }
  split
  · exact both_ok { h with endurance := congrArg (fun e => max 0 (e + delta)) h.endurance }
  split
  · exact (h.coreSkills.addUnder hname delta).bind fun _ _ hskills =>
      both_ok { h with coreSkills := hskills }
  · exact (h.attributes.addUnder hname delta).bind fun _ _ hattributes =>
      both_ok { h with attributes := hattributes }

theorem Character.Recased.grant {x y : Character} (h : x.Recased y) {a b : String}
    (hname : fold a = fold b) : Both Character.Recased (x.grant a) (y.grant b) := by
  obtain ⟨known, hknown⟩ := exists_anyNamed (fold a) (forall_of_recased h.disciplines)
  have hx : x.hasDiscipline a = .ok known := hknown
  unfold Character.grant
  rw [← h.hasDiscipline_eq hname, hx]
  cases known with
  | true => exact both_ok h
  | false =>
      have hone : List.Forall₂ Json.Recased [.str a] [.str b] :=
        .cons (Json.recased_str hname) .nil
      exact both_ok { h with disciplines := List.rel_append h.disciplines hone }

/-- **A change makes of contexts that are the same up to casing two such contexts.** -/
theorem Change.Recased.apply {p q : Change} (hpq : p.Recased q) (h : c.Recased d) :
    Both Context.Recased (p.apply c) (q.apply d) := by
  have hx := h.character
  cases hpq with
  | adjustStat hname delta =>
      exact (hx.adjustStat hname delta).map fun _ _ hxy => h.withCharacter hxy
  | adjustCombat delta =>
      exact (hx.attributes.addUnder rfl delta).map fun _ _ hattributes =>
        h.withCharacter { hx with attributes := hattributes }
  | damage amount =>
      exact both_ok (h.withCharacter
        { hx with endurance := congrArg (fun e => max 0 (e - (amount : Int))) hx.endurance })
  | heal amount =>
      exact both_ok (h.withCharacter
        { hx with endurance := congrArg (fun e => e + (amount : Int)) hx.endurance })
  | addItem hname category =>
      have hone : List.Forall₂ Item.Recased [⟨.str _, .str category⟩] [⟨.str _, .str category⟩] :=
        .cons ⟨Json.recased_str hname, rfl⟩ .nil
      exact both_ok (h.withCharacter { hx with items := List.rel_append hx.items hone })
  | @removeItem a b hname =>
      show Both _ ((dropNamed (fold a) _).map _) ((dropNamed (fold b) _).map _)
      rw [hname]
      exact (dropNamed_recased hx.items _).map fun _ _ hitems =>
        h.withCharacter { hx with items := hitems }
  | setFlag hname hvalue => exact both_ok ⟨hx, h.flags.set hname hvalue⟩
  | grantDiscipline hname => exact (hx.grant hname).map fun _ _ hxy => h.withCharacter hxy
  | updateCounter hname update =>
      exact (hx.counters.updateUnder hname update).map fun _ _ hcounters =>
        h.withCharacter { hx with counters := hcounters }
  | updateSlot hname update =>
      exact (hx.counters.updateUnder (fold_slotCounter hname) update).map fun _ _ hcounters =>
        h.withCharacter { hx with counters := hcounters }
  | unsupported => exact both_ok h

/-- **So do effects one after the other,** none of which fails. -/
theorem applyAll_recased {es fs : List Effect}
    (hes : List.Forall₂ (fun e f => e.change.Recased f.change) es fs) (h : c.Recased d) :
    ∃ c' d', applyAll c es = (c', none) ∧ applyAll d fs = (d', none) ∧ c'.Recased d' := by
  induction hes generalizing c d with
  | nil => exact ⟨c, d, rfl, rfl, h⟩
  | cons hchange _ ih =>
      obtain ⟨c₁, d₁, hc₁, hd₁, h₁⟩ := hchange.apply h
      obtain ⟨c', d', hc', hd', h'⟩ := ih h₁
      refine ⟨c', d', ?_, ?_, h'⟩
      · rw [applyAll, hc₁]
        exact hc'
      · rw [applyAll, hd₁]
        exact hd'

/-- **The casing of names never matters.** Contexts that are the same up to casing give the same answers,
and effects that are the same up to casing make of them two such contexts again. -/
theorem recased_contexts_agree (h : c.Recased d) :
    (∀ p q : Requirement, p.condition.Recased q.condition →
      ∃ b, p.holds c = .ok b ∧ q.holds d = .ok b) ∧
    ∀ es fs : List Effect, List.Forall₂ (fun e f => e.change.Recased f.change) es fs →
      ∃ c' d', applyAll c es = (c', none) ∧ applyAll d fs = (d', none) ∧ c'.Recased d' := by
  refine ⟨fun p q hpq => ?_, fun es fs hes => applyAll_recased hes h⟩
  obtain ⟨b, hb⟩ := p.condition.exists_holds h.answers
  exact ⟨b, hb, (hpq.holds_eq h).symm.trans hb⟩

/-- A context with names in lower case. -/
def lowerContext : Context where
  state := { character := {
    id := .str "c"
    disciplines := [.str "hunting"]
    inventory := {
      items := [{ name := .str "rope" }]
      counters := (NameMap.empty.set "gold" (.int 3)).set "slot:hand" (.int 1) } } }
  flags := NameMap.empty.set "met" (.str "yes")

/-- The same context with names in upper case, and in another order. -/
def upperContext : Context where
  state := { character := {
    id := .str "d"
    disciplines := [.str "HUNTING"]
    inventory := {
      items := [{ name := .str "ROPE" }]
      counters := (NameMap.empty.set "SLOT:HAND" (.int 1)).set "GOLD" (.int 3) } } }
  flags := NameMap.empty.set "MET" (.str "YES")

/-- The slot is found in both contexts, and both can pay, drop the rope and set a flag. -/
theorem recased_contexts_agree_lower_and_upper :
    lowerContext.Recased upperContext ∧
      (∃ b, Condition.holds (.slot "hand" 1) lowerContext = .ok b ∧
        Condition.holds (.slot "HAND" 1) upperContext = .ok b ∧ b = true) ∧
      ∃ c d,
        applyAll lowerContext [⟨.updateCounter "gold" (.shift (-2)), ""⟩, ⟨.removeItem "rope", ""⟩,
          ⟨.setFlag "straße" "offen", ""⟩] = (c, none) ∧
        applyAll upperContext [⟨.updateCounter "GOLD" (.shift (-2)), ""⟩, ⟨.removeItem "ROPE", ""⟩,
          ⟨.setFlag "STRASSE" "OFFEN", ""⟩] = (d, none) ∧ c.Recased d := by
  have hempty : NameMap.empty.SameWhole NameMap.empty :=
    ⟨NameMap.whole_empty, NameMap.whole_empty, rfl⟩
  have hcharacter : lowerContext.character.Recased upperContext.character :=
    { combatSkill := rfl
      endurance := rfl
      disciplines := .cons (Json.recased_str (by decide)) .nil
      attributes := hempty
      coreSkills := hempty
      items := .cons ⟨Json.recased_str (by decide), rfl⟩ .nil
      counters := ⟨(NameMap.whole_empty.set "gold" 3).set "slot:hand" 1,
        (NameMap.whole_empty.set "SLOT:HAND" 1).set "GOLD" 3, by decide⟩ }
  have hnoFlags : (NameMap.empty : NameMap Json).Recased NameMap.empty := fun _ => .none
  have hrecased : lowerContext.Recased upperContext :=
    ⟨hcharacter, hnoFlags.set (by decide) (by decide)⟩
  obtain ⟨hanswers, heffects⟩ := recased_contexts_agree hrecased
  obtain ⟨b, hlower, hupper⟩ := hanswers ⟨.slot "hand" 1, ""⟩ ⟨.slot "HAND" 1, ""⟩
    (.slot (by decide) 1)
  refine ⟨hrecased, ⟨b, hlower, hupper, ?_⟩, heffects _ _ ?_⟩
  · exact Except.ok.inj (hlower.symm.trans (by decide +kernel))
  · exact .cons (.updateCounter (by decide) _) (.cons (.removeItem (by decide))
      (.cons (.setFlag (by decide) (by decide)) .nil))

end Questbook
