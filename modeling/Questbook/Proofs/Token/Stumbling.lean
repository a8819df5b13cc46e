import Questbook.Proofs.Token.Grants
import Questbook.Proofs.Token.Undecided

set_option autoImplicit false

/-! # Effects that cannot be applied

On maps of whole numbers only two kinds of changes can fail: an item is taken away, or a discipline
granted, after a search for its name, and the search stumbles over a name that is no text. `Change.Stumbles`
says so, and all other changes are made and leave maps of whole numbers (`Change.apply_of_whole`). A list of
effects is applied as a whole, or it is stopped by one that stumbles (`applyAll_of_whole`).
-/

namespace Questbook

open Text

/-- **Where a change stumbles:** the search for a name comes to a value that is no text. -/
inductive Change.Stumbles (c : Context) : Change → Prop
  | removeItem {name : String} (hstray : StrayAhead (fold name) (c.inventory.items.map Item.name)) :
      Stumbles c (.removeItem name)
  | grantDiscipline {name : String} (hstray : StrayAhead (fold name) c.character.disciplines) :
      Stumbles c (.grantDiscipline name)

variable {c d : Context} {f : Fault}

/-- Dropping an item fails where looking for it does. -/
theorem dropNamed_eq_error_iff {folded : String} {items : List Item} :
    dropNamed folded items = .error f ↔ anyNamed folded (items.map Item.name) = .error f := by
  induction items with
  | nil => simp [dropNamed, anyNamed]
  | cons i items ih =>
      rw [List.map_cons, anyNamed, dropNamed]
      cases isNamed folded i.name with
      | error g =>
          constructor
          · intro h
            cases h
            rfl
          · intro h
            cases h
            rfl
      | ok named =>
          cases named with
          | true =>
              constructor
              · intro h
                cases h
              · intro h
                cases h
          | false => exact map_eq_error_iff.trans ih

theorem Context.HasWholeMaps.set (h : c.HasWholeMaps) (name : String) (n : Int) :
    (c.withCounters (c.counters.set name (.int n))).HasWholeMaps :=
  ⟨⟨h.stats.attributes, h.stats.coreSkills⟩, h.counters.set name n⟩

/-- **A change on maps of whole numbers** is made and leaves such maps, or it stumbles. -/
theorem Change.apply_of_whole (change : Change) (h : c.HasWholeMaps) :
    (∃ d, change.apply c = .ok d ∧ d.HasWholeMaps) ∨
      (change.Stumbles c ∧ change.apply c = .error .notText) := by
  -- the changes that write counters are one case
  cases hupdate : change.counterUpdate? with
  | some target => exact Or.inl ⟨_, apply_update h.counters hupdate, h.set _ _⟩
  | none =>
  cases change with
  | adjustStat name delta =>
      obtain ⟨y, hy, hwrites⟩ := Character.exists_adjustStat h.stats name delta
      have hinventory : y.inventory = c.inventory := (Character.frame_of_adjustStat hy).1
      exact Or.inl ⟨_, map_eq_ok_iff.mpr ⟨y, hy, rfl⟩, h.withCharacter hwrites.whole hinventory⟩
  | adjustCombat delta =>
      exact Or.inl ⟨_, apply_adjustCombat h.stats delta,
        h.withCharacter (h.stats.withBonus delta) rfl⟩
  | damage amount =>
      exact Or.inl ⟨_, rfl, h.withCharacter ⟨h.stats.attributes, h.stats.coreSkills⟩ rfl⟩
  | heal amount =>
      exact Or.inl ⟨_, rfl, h.withCharacter ⟨h.stats.attributes, h.stats.coreSkills⟩ rfl⟩
  | addItem name category =>
      exact Or.inl ⟨_, rfl, ⟨h.stats.attributes, h.stats.coreSkills⟩, h.counters⟩
  | removeItem name =>
      cases hdrop : dropNamed (fold name) c.inventory.items with
      | ok rest =>
          exact Or.inl ⟨_, map_eq_ok_iff.mpr ⟨rest, hdrop, rfl⟩,
            ⟨h.stats.attributes, h.stats.coreSkills⟩, h.counters⟩
      | error f =>
          obtain ⟨rfl, hstray⟩ := anyNamed_eq_error_iff.mp (dropNamed_eq_error_iff.mp hdrop)
          exact Or.inr ⟨.removeItem hstray, map_eq_error_iff.mpr hdrop⟩
  | setFlag name value => exact Or.inl ⟨_, rfl, h.stats, h.counters⟩
  | grantDiscipline name =>
      cases hgrant : c.character.grant name with
      | ok y =>
          obtain ⟨-, hwhole, hinventory⟩ := Character.noLess_of_grant hgrant
          exact Or.inl ⟨_, map_eq_ok_iff.mpr ⟨y, hgrant, rfl⟩,
            h.withCharacter (hwhole h.stats) hinventory⟩
      | error f =>
          obtain ⟨rfl, hstray⟩ := anyNamed_eq_error_iff.mp (Character.grant_eq_error_iff.mp hgrant)
          exact Or.inr ⟨.grantDiscipline hstray, map_eq_error_iff.mpr hgrant⟩
  | updateCounter name update => cases hupdate
  | updateSlot name update => cases hupdate
  | unsupported => exact Or.inl ⟨c, rfl, h⟩

/-- **Whether a list of effects is stopped** by one that stumbles, after those before it have been
applied. -/
def StumblesAt (c : Context) (es : List Effect) (d : Context) : Prop :=
  ∃ before e after, es = before ++ e :: after ∧ applyAll c before = (d, none) ∧ e.change.Stumbles d

/-- **A list of effects on maps of whole numbers** is applied, or it is stopped where one stumbles. -/
theorem applyAll_of_whole (h : c.HasWholeMaps) (es : List Effect) :
    (∃ d, applyAll c es = (d, none)) ∨
      ∃ d, applyAll c es = (d, some .notText) ∧ StumblesAt c es d := by
  -- the maps are whole again after each effect, so that only names can stand in the way of the next one
  induction es generalizing c with
  | nil => exact Or.inl ⟨c, rfl⟩
  | cons e es ih =>
      unfold applyAll
      rcases e.change.apply_of_whole h with ⟨c', hc', hwhole⟩ | ⟨hstumbles, hfails⟩
      · rw [hc']
        rcases ih hwhole with ⟨d, hd⟩ | ⟨d, hd, before, e', after, rfl, hbefore, hstumbles⟩
        · exact Or.inl ⟨d, hd⟩
        · refine Or.inr ⟨d, hd, e :: before, e', after, rfl, ?_, hstumbles⟩
          unfold applyAll
          rw [hc']
          exact hbefore
      · rw [hfails]
        exact Or.inr ⟨c, rfl, [], e, es, rfl, rfl, hstumbles⟩

end Questbook
