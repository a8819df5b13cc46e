import Mathlib.Algebra.BigOperators.Group.List.Basic
import Mathlib.Algebra.Group.Int.Defs
import Questbook.Proofs.NameMap.Same
import Questbook.Proofs.Token.Counters
import Questbook.Proofs.Token.Gains

set_option autoImplicit false

/-! # Additions in any order

Some changes only add to a number: to combat skill, or to a number that one of three maps holds under a
name. Such a number is an `Account` of the character. Which account an addition goes to depends on the
change and on the core skills that the character has, and no addition makes a core skill. So each account
ends with what it had and what went to it (`Character.Adds`), whatever the order, and characters that were
added to in different orders are the same but for the spelling and the order of new names
(`additions_commute`).
-/

namespace Questbook

open Text

/-! ## Accounts -/

/-- **A number of a character** that can be added to. Slots are counters. -/
inductive Account
  | combatSkill
  | attr (name : String)
  | coreSkill (name : String)
  | counter (name : String)
  deriving DecidableEq

/-- The account with its name folded. -/
def Account.folded : Account → Account
  | combatSkill => combatSkill
  | attr name => attr (fold name)
  | coreSkill name => coreSkill (fold name)
  | counter name => counter (fold name)

namespace Character

/-- The number in an account, if there is one. -/
def amount? (x : Character) : Account → Option Int
  | .combatSkill => some x.combatSkill
  | .attr name => x.attributes.whole? name
  | .coreSkill name => x.coreSkills.whole? name
  | .counter name => x.inventory.counters.whole? name

/-- The character with other numbers in its accounts. -/
def withAmounts (x : Character) (combatSkill : Int) (attributes coreSkills counters : NameMap Json) :
    Character :=
  { x with combatSkill, attributes, coreSkills, inventory := { x.inventory with counters } }

end Character

/-- The map with a number added to what stands under a name, or written there if nothing does. -/
def NameMap.add (m : NameMap Json) (name : String) (delta : Int) : NameMap Json :=
  m.set name (.int ((m.whole? name).getD 0 + delta))

theorem NameMap.whole?_add (m : NameMap Json) (a b : String) (delta : Int) :
    (m.add a delta).whole? b =
      if fold a = fold b then some ((m.whole? b).getD 0 + delta) else m.whole? b := by
  unfold add
  rw [whole?_set]
  by_cases hname : fold a = fold b
  · rw [if_pos hname, if_pos hname, m.whole?_congr hname]
  · rw [if_neg hname, if_neg hname]

/-- A map that has a name has no more names when a number is added there. -/
theorem NameMap.contains_add {m : NameMap Json} {name : String} (h : m.contains name = true)
    (delta : Int) : (m.add name delta).contains = m.contains := by
  funext other
  unfold add contains
  rw [get?_set]
  by_cases hname : fold name = fold other
  · rw [if_pos hname, ← m.get?_congr hname]
    exact h.symm
  · rw [if_neg hname]

namespace Character

/-- The character with a number added to an account. -/
def post (x : Character) (delta : Int) : Account → Character
  | .combatSkill => { x with combatSkill := x.combatSkill + delta }
  | .attr name => { x with attributes := x.attributes.add name delta }
  | .coreSkill name => { x with coreSkills := x.coreSkills.add name delta }
  | .counter name =>
    { x with inventory := { x.inventory with counters := x.inventory.counters.add name delta } }

/-- **What is posted to an account** is in this account and in no other. -/
theorem amount?_post (x : Character) (delta : Int) (account other : Account) :
    (x.post delta account).amount? other =
      if account.folded = other.folded then some ((x.amount? other).getD 0 + delta)
      else x.amount? other := by
  cases account <;> cases other
  case combatSkill.combatSkill => rfl
  case attr.attr a b =>
    simp only [Account.folded, Account.attr.injEq]
    exact x.attributes.whole?_add a b delta
  case coreSkill.coreSkill a b =>
    simp only [Account.folded, Account.coreSkill.injEq]
    exact x.coreSkills.whole?_add a b delta
  case counter.counter a b =>
    simp only [Account.folded, Account.counter.injEq]
    exact x.inventory.counters.whole?_add a b delta
  -- accounts of two kinds
  all_goals exact (if_neg nofun).symm

end Character

/-! ## Additions -/

/-- **Whether a change only adds.** Endurance is not added to, since it has a floor. -/
def Change.IsAdditive : Change → Prop
  | adjustStat name _ => fold name ≠ enduranceName
  | adjustCombat _ | updateCounter _ (.shift _) | updateSlot _ (.shift _) => True
  | _ => False

/-- The account that is changed by name, given which core skills there are. -/
def accountNamed (skilled : String → Bool) (name : String) : Account :=
  if fold name = combatSkillName then .combatSkill
  else if skilled name then .coreSkill name else .attr name

/-- Only core skills that are there have accounts. -/
theorem skilled_of_accountNamed {skilled : String → Bool} {name skill : String}
    (h : accountNamed skilled name = .coreSkill skill) : skilled skill = true := by
  unfold accountNamed at h
  by_cases hskill : fold name = combatSkillName
  · rw [if_pos hskill] at h
    cases h
  · rw [if_neg hskill] at h
    by_cases hknown : skilled name = true
    · rw [if_pos hknown] at h
      cases h
      exact hknown
    · rw [if_neg hknown] at h
      cases h

/-- The account that a change adds to, and how much. -/
def Change.posting? (skilled : String → Bool) : Change → Option (Account × Int)
  | adjustStat name delta => some (accountNamed skilled name, delta)
  | adjustCombat delta => some (.attr bonusAttribute, delta)
  | updateCounter name (.shift delta) => some (.counter name, delta)
  | updateSlot name (.shift delta) => some (.counter (slotCounter name), delta)
  | _ => none

/-- What a change adds to an account. -/
def Change.deltasTo (skilled : String → Bool) (account : Account) (change : Change) : List Int :=
  match change.posting? skilled with
  | some (written, delta) => if written.folded = account.folded then [delta] else []
  | none => []

/-- **What effects add to an account.** -/
def deltasTo (skilled : String → Bool) (account : Account) (es : List Effect) : List Int :=
  es.flatMap fun e => e.change.deltasTo skilled account

/-- **What is in an account after additions.** One that nothing is added to stays empty. -/
def credited (amount : Option Int) (deltas : List Int) : Option Int :=
  if deltas = [] then amount else some (amount.getD 0 + deltas.sum)

theorem credited_append (amount : Option Int) (as bs : List Int) :
    credited (credited amount as) bs = credited amount (as ++ bs) := by
  unfold credited
  by_cases ha : as = []
  · simp [ha]
  · by_cases hb : bs = []
    · simp [ha, hb]
    · simp [ha, hb, List.sum_append, Int.add_assoc]

/-- Neither the order of additions nor their number matters, but their sum. -/
theorem credited_perm {as bs : List Int} (h : as.Perm bs) (amount : Option Int) :
    credited amount as = credited amount bs := by
  unfold credited
  rw [h.sum_eq]
  by_cases ha : as = []
  · have hb : bs = [] := by
      rw [ha] at h
      exact h.symm.eq_nil
    rw [if_pos ha, if_pos hb]
  · have hb : bs ≠ [] := fun hb => ha (by rw [hb] at h; exact h.eq_nil)
    rw [if_neg ha, if_neg hb]

/-- With nothing for a missing number, the sum is added. -/
theorem getD_credited (amount : Option Int) (deltas : List Int) :
    (credited amount deltas).getD 0 = amount.getD 0 + deltas.sum := by
  unfold credited
  by_cases h : deltas = []
  · rw [if_pos h, h, List.sum_nil, Int.add_zero]
  · rw [if_neg h]
    rfl

theorem deltasTo_perm {es fs : List Effect} (h : es.Perm fs) (skilled : String → Bool)
    (account : Account) : (deltasTo skilled account es).Perm (deltasTo skilled account fs) :=
  h.flatMap_right _

/-! ## Characters that are added to -/

/-- **What additions do to a character,** given what they add to each account. -/
structure Character.Adds (x : Character) (deltas : Account → List Int) (y : Character) : Prop where
  stats : y.HasWholeStats
  counters : y.inventory.counters.Whole
  skilled : y.coreSkills.contains = x.coreSkills.contains
  rest : ∃ combatSkill attributes coreSkills counters,
    y = x.withAmounts combatSkill attributes coreSkills counters
  amount : ∀ account, y.amount? account = credited (x.amount? account) (deltas account)

namespace Character

variable {x y z : Character}

theorem Adds.refl (hstats : x.HasWholeStats) (hcounters : x.inventory.counters.Whole) :
    x.Adds (fun _ => []) x :=
  ⟨hstats, hcounters, rfl, ⟨_, _, _, _, rfl⟩, fun _ => rfl⟩

theorem Adds.trans {first second : Account → List Int} (h : x.Adds first y) (h' : y.Adds second z) :
    x.Adds (fun account => first account ++ second account) z := by
  refine ⟨h'.stats, h'.counters, h'.skilled.trans h.skilled, ?_, fun account => ?_⟩
  · obtain ⟨k, a, s, m, rfl⟩ := h.rest
    obtain ⟨k', a', s', m', rfl⟩ := h'.rest
    exact ⟨k', a', s', m', rfl⟩
  · rw [h'.amount, h.amount, credited_append]

/-- **What is posted is added.** No core skill is made by it. -/
theorem adds_post (hstats : x.HasWholeStats) (hcounters : x.inventory.counters.Whole)
    {account : Account} (hknown : ∀ name, account = .coreSkill name → x.coreSkills.contains name = true)
    (delta : Int) :
    x.Adds (fun other => if account.folded = other.folded then [delta] else []) (x.post delta account) := by
  have hamount : ∀ other, (x.post delta account).amount? other =
      credited (x.amount? other) (if account.folded = other.folded then [delta] else []) := by
    intro other
    rw [amount?_post]
    by_cases hsame : account.folded = other.folded
    · rw [if_pos hsame, if_pos hsame, credited, if_neg (by simp), List.sum_singleton]
    · rw [if_neg hsame, if_neg hsame, credited, if_pos rfl]
  cases account with
  | combatSkill =>
      exact ⟨⟨hstats.attributes, hstats.coreSkills⟩, hcounters, rfl, ⟨_, _, _, _, rfl⟩, hamount⟩
  | attr name =>
      exact ⟨⟨hstats.attributes.set name _, hstats.coreSkills⟩, hcounters, rfl, ⟨_, _, _, _, rfl⟩,
        hamount⟩
  | coreSkill name =>
      exact ⟨⟨hstats.attributes, hstats.coreSkills.set name _⟩, hcounters,
        NameMap.contains_add (hknown name rfl) delta, ⟨_, _, _, _, rfl⟩, hamount⟩
  | counter name =>
      exact ⟨⟨hstats.attributes, hstats.coreSkills⟩, hcounters.set name _, rfl, ⟨_, _, _, _, rfl⟩,
        hamount⟩

end Character

variable {c : Context} {change : Change}

theorem Character.adjustStat_eq_post {x : Character} (h : x.HasWholeStats) {name : String}
    (hname : fold name ≠ enduranceName) (delta : Int) :
    x.adjustStat name delta = .ok (x.post delta (accountNamed x.coreSkills.contains name)) := by
  unfold adjustStat accountNamed
  by_cases hskill : fold name = combatSkillName
  · rw [if_pos hskill, if_pos hskill]
    rfl
  · rw [if_neg hskill, if_neg hskill, if_neg hname]
    by_cases hknown : x.coreSkills.contains name = true
    · rw [if_pos hknown, if_pos hknown, h.coreSkills.addUnder_eq]
      rfl
    · rw [if_neg hknown, if_neg hknown, h.attributes.addUnder_eq]
      rfl

/-- **One addition** does not fail, and adds what goes to each account. -/
theorem exists_apply_addition (h : c.HasWholeMaps) (hchange : change.IsAdditive) :
    ∃ y, change.apply c = .ok (c.withCharacter y) ∧
      c.character.Adds (fun account => change.deltasTo c.character.coreSkills.contains account) y := by
  have hadds := fun account delta
      (hknown : ∀ name, account = Account.coreSkill name →
        c.character.coreSkills.contains name = true) =>
    Character.adds_post h.stats h.counters hknown delta
  cases change with
  | adjustStat name delta =>
      have hpost := Character.adjustStat_eq_post h.stats hchange delta
      exact ⟨_, congrArg (Except.map c.withCharacter) hpost,
        hadds _ delta fun _ => skilled_of_accountNamed⟩
  | adjustCombat delta => exact ⟨_, apply_adjustCombat h.stats delta, hadds _ delta fun _ => nofun⟩
  | updateCounter name update =>
      cases update with
      | set value => cases hchange
      | shift delta =>
          exact ⟨_, Change.apply_update h.counters rfl,
            hadds (.counter name) delta fun _ => nofun⟩
  | updateSlot slot update =>
      cases update with
      | set value => cases hchange
      | shift delta =>
          exact ⟨_, Change.apply_update h.counters rfl,
            hadds (.counter (slotCounter slot)) delta fun _ => nofun⟩
  | _ => cases hchange

/-- **A list of additions** does not fail, and adds what goes to each account. -/
theorem exists_applyAll_additions {es : List Effect} (h : c.HasWholeMaps)
    (hes : ∀ e ∈ es, e.change.IsAdditive) :
    ∃ y, applyAll c es = (c.withCharacter y, none) ∧
      c.character.Adds (fun account => deltasTo c.character.coreSkills.contains account es) y := by
  induction es generalizing c with
  | nil => exact ⟨c.character, rfl, .refl h.stats h.counters⟩
  | cons e es ih =>
      obtain ⟨hfirst, hothers⟩ := List.forall_mem_cons.mp hes
      obtain ⟨y, hy, hadds⟩ := exists_apply_addition h hfirst
      obtain ⟨z, hz, hrest⟩ := ih (c := c.withCharacter y) ⟨hadds.stats, hadds.counters⟩ hothers
      -- the same names are core skills after the first addition
      rw [Context.character_withCharacter, hadds.skilled] at hrest
      refine ⟨z, ?_, hadds.trans hrest⟩
      rw [applyAll, hy]
      exact hz

/-! ## Any order -/

/-- **Whether two contexts are equal** when their maps are compared as maps. -/
structure Context.SameMaps (c d : Context) : Prop where
  attributes : c.character.attributes.same d.character.attributes = true
  coreSkills : c.character.coreSkills.same d.character.coreSkills = true
  counters : c.counters.same d.counters = true
  rest : d = c.withCharacter (c.character.withAmounts c.character.combatSkill d.character.attributes
    d.character.coreSkills d.counters)

/-- Contexts that the same was added to are the same. -/
theorem Character.Adds.sameMaps {x y z : Character} {first second : Account → List Int}
    (hy : x.Adds first y) (hz : x.Adds second z)
    (hsame : ∀ account, (first account).Perm (second account)) (c : Context) :
    (c.withCharacter y).SameMaps (c.withCharacter z) := by
  have hamount : ∀ account, y.amount? account = z.amount? account := by
    intro account
    rw [hy.amount, hz.amount, credited_perm (hsame account)]
  refine ⟨?_, ?_, ?_, ?_⟩
  · exact (hy.stats.attributes.same_iff hz.stats.attributes).mpr fun name => hamount (.attr name)
  · exact (hy.stats.coreSkills.same_iff hz.stats.coreSkills).mpr fun name => hamount (.coreSkill name)
  · exact (hy.counters.same_iff hz.counters).mpr fun name => hamount (.counter name)
  · have hskill : y.combatSkill = z.combatSkill := Option.some.inj (hamount .combatSkill)
    obtain ⟨k, a, s, m, rfl⟩ := hy.rest
    obtain ⟨k', a', s', m', rfl⟩ := hz.rest
    -- nothing but combat skill and the maps can differ
    obtain rfl : k = k' := hskill
    rfl

/-- **Additions commute.** A list of effects that only add does not fail; every account ends with what it
had, which is nothing if it was not there, and the sum of what goes to it; and any other order of the
effects gives an equal context. -/
theorem additions_commute (h : c.HasWholeMaps) {es : List Effect}
    (hes : ∀ e ∈ es, e.change.IsAdditive) :
    ∃ d, applyAll c es = (d, none) ∧
      (∀ account,
        let deltas := deltasTo c.character.coreSkills.contains account es
        d.character.amount? account = credited (c.character.amount? account) deltas ∧
        (d.character.amount? account).getD 0 = (c.character.amount? account).getD 0 + deltas.sum) ∧
      ∀ fs, es.Perm fs → ∃ d', applyAll c fs = (d', none) ∧ d.SameMaps d' := by
  obtain ⟨y, hy, hadds⟩ := exists_applyAll_additions h hes
  refine ⟨_, hy, fun account => ⟨hadds.amount account, ?_⟩, fun fs hperm => ?_⟩
  · rw [Context.character_withCharacter, hadds.amount, getD_credited]
  · have hfs : ∀ e ∈ fs, e.change.IsAdditive := fun e he => hes e (hperm.mem_iff.mpr he)
    obtain ⟨z, hz, hadds'⟩ := exists_applyAll_additions h hfs
    exact ⟨_, hz, hadds.sameMaps hadds' (deltasTo_perm hperm _) c⟩

/-- A scout with a core skill, a bonus and a belt. -/
def scout : Context where
  state := { character := {
    id := .str "c"
    combatSkill := 10
    attributes := NameMap.empty.set "combatskillbonus" (.int 1)
    coreSkills := NameMap.empty.set "Agility" (.int 3)
    inventory := { counters := NameMap.empty.set "SLOT:belt" (.int 1) } } }

/-- Additions to the bonus in both ways, to a core skill, to combat skill, and to counters of several
spellings. -/
def training : List Effect :=
  [⟨.adjustCombat 2, ""⟩, ⟨.adjustStat "CombatSkillBonus" 3, ""⟩, ⟨.adjustStat "AGILITY" (-1), ""⟩,
    ⟨.adjustStat "combatSKILL" 4, ""⟩, ⟨.updateSlot "Belt" (.shift 2), ""⟩,
    ⟨.updateCounter "Gold" (.shift 5), ""⟩, ⟨.updateCounter "gold" (.shift (-7)), ""⟩]

/-- The bonus is six, and gold is owed, also if it is first spent under another spelling. -/
theorem additions_commute_training :
    scout.HasWholeMaps ∧ (∀ e ∈ training, e.change.IsAdditive) ∧
      ∃ d d', applyAll scout training = (d, none) ∧ applyAll scout training.reverse = (d', none) ∧
        d.SameMaps d' ∧ d.counters.names ≠ d'.counters.names ∧
        d.character.amount? (.attr bonusAttribute) = some 6 ∧
        d.character.amount? (.coreSkill "agility") = some 2 ∧
        d.character.amount? (.attr "agility") = none ∧
        d.character.amount? .combatSkill = some 14 ∧
        d.character.amount? (.counter (slotCounter "belt")) = some 3 ∧
        d.character.amount? (.counter "GOLD") = some (-2) := by
  have hwhole : scout.HasWholeMaps :=
    ⟨⟨NameMap.whole_empty.set "combatskillbonus" 1, NameMap.whole_empty.set "Agility" 3⟩,
      NameMap.whole_empty.set "SLOT:belt" 1⟩
  have hes : ∀ e ∈ training, e.change.IsAdditive := by
    have hnames : fold "CombatSkillBonus" ≠ enduranceName ∧ fold "AGILITY" ≠ enduranceName ∧
        fold "combatSKILL" ≠ enduranceName := by decide
    simpa [training, Change.IsAdditive] using hnames
  obtain ⟨d, hd, hamounts, horders⟩ := additions_commute hwhole hes
  obtain ⟨d', hd', hsame⟩ := horders training.reverse training.reverse_perm.symm
  have hnames : (applyAll scout training).1.counters.names = ["SLOT:belt", "Gold"] := by rfl
  have hnames' : (applyAll scout training.reverse).1.counters.names = ["SLOT:belt", "gold"] := by rfl
  rw [hd] at hnames
  rw [hd'] at hnames'
  refine ⟨hwhole, hes, d, d', hd, hd', hsame, ?_, ?_, ?_, ?_, ?_, ?_, ?_⟩
  · rw [hnames, hnames']
    decide
  all_goals exact (hamounts _).1.trans (by decide)

end Questbook
