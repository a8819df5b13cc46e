import Questbook.Proofs.NameMap
import Questbook.Proofs.Token.WellFormed

set_option autoImplicit false

/-! # What effects keep

Effects change the character of a game state and nothing else in it (`Context.SameGame`). They fail
only where a value of the character has the wrong type: with texts for names and whole numbers for
values no effect fails, and the types stay as they are (`applyAll_wellTyped`).

A sound character has endurance that is not negative, knows no discipline twice and carries nothing
without a name or a category. Effects that tokens can state keep it sound. When an effect fails,
those before it have been applied (`exists_of_applyAll_eq_some`).
-/

namespace Questbook

/-! ## Types and soundness -/

/-- **Whether names are texts and values whole numbers,** where effects use them. -/
structure Character.WellTyped (c : Character) : Prop where
  disciplines : ∀ d ∈ c.disciplines, ∃ name, d = .str name
  items : ∀ i ∈ c.inventory.items, ∃ name, i.name = .str name
  attributes : c.attributes.Whole
  coreSkills : c.coreSkills.Whole
  counters : c.inventory.counters.Whole

/-- Whether a list of values names different things. -/
def DistinctNames (js : List Json) : Prop :=
  ∃ names : List String, js = names.map .str ∧ (names.map Text.fold).Nodup

/-- An item with a name and a category, both of them texts. -/
def Item.IsNamed (i : Item) : Prop :=
  ∃ name category, i = { name := .str name, category := .str category } ∧ name ≠ "" ∧ category ≠ ""

/-- **A character as the play makes it.** -/
structure Character.Sound (c : Character) : Prop extends c.WellTyped where
  endurance : 0 ≤ c.endurance
  distinct : DistinctNames c.disciplines
  named : ∀ i ∈ c.inventory.items, i.IsNamed

theorem Character.WellTyped.withEndurance {c : Character} (h : c.WellTyped) (n : Int) :
    { c with endurance := n }.WellTyped :=
  ⟨h.disciplines, h.items, h.attributes, h.coreSkills, h.counters⟩

/-- Endurance that is not negative keeps a character sound. -/
theorem Character.Sound.withEndurance {c : Character} (h : c.Sound) {n : Int} (hn : 0 ≤ n) :
    { c with endurance := n }.Sound :=
  ⟨h.toWellTyped.withEndurance n, hn, h.distinct, h.named⟩

/-- What is never changed of a character. -/
structure Character.SameBearer (c d : Character) : Prop where
  id : d.id = c.id
  name : d.name = c.name
  coreSkills : d.coreSkills.names = c.coreSkills.names

theorem Character.SameBearer.refl (c : Character) : c.SameBearer c := ⟨rfl, rfl, rfl⟩

theorem Character.SameBearer.trans {c d e : Character} (hcd : c.SameBearer d)
    (hde : d.SameBearer e) : c.SameBearer e :=
  ⟨hde.id.trans hcd.id, hde.name.trans hcd.name, hde.coreSkills.trans hcd.coreSkills⟩

/-- **The same game with another character of the same bearer.** -/
structure Context.SameGame (c d : Context) : Prop where
  state : d.state = { c.state with character := d.character }
  bearer : c.character.SameBearer d.character

theorem Context.SameGame.refl (c : Context) : c.SameGame c := ⟨rfl, .refl _⟩

theorem Context.SameGame.trans {c d e : Context} (hcd : c.SameGame d) (hde : d.SameGame e) :
    c.SameGame e := by
  refine ⟨?_, hcd.bearer.trans hde.bearer⟩
  rw [hde.state, hcd.state]

theorem Context.sameGame_withCharacter {c : Context} {x : Character}
    (h : c.character.SameBearer x) : c.SameGame (c.withCharacter x) :=
  ⟨rfl, h⟩

/-! ## The parts of a change -/

theorem Character.sameBearer_of_adjustStat {c d : Character} {name : String} {delta : Int}
    (h : c.adjustStat name delta = .ok d) : c.SameBearer d := by
  unfold Character.adjustStat at h
  split at h
  · cases h
    exact ⟨rfl, rfl, rfl⟩
  split at h
  · cases h
    exact ⟨rfl, rfl, rfl⟩
  split at h
  · next hknown =>
    obtain ⟨m, hm, hd⟩ := bind_eq_ok_iff.mp h
    cases hd
    obtain ⟨v, rfl⟩ := eq_set_of_addUnder hm
    exact ⟨rfl, rfl, NameMap.names_set hknown v⟩
  · obtain ⟨m, -, hd⟩ := bind_eq_ok_iff.mp h
    cases hd
    exact ⟨rfl, rfl, rfl⟩

theorem Character.WellTyped.adjustStat {c : Character} (h : c.WellTyped) (name : String)
    (delta : Int) : ∃ d, c.adjustStat name delta = .ok d ∧ d.WellTyped ∧
      (0 ≤ c.endurance → 0 ≤ d.endurance) ∧ d.disciplines = c.disciplines ∧
      d.inventory = c.inventory := by
  unfold Character.adjustStat
  split
  · exact ⟨_, rfl, ⟨h.disciplines, h.items, h.attributes, h.coreSkills, h.counters⟩,
      fun he => he, rfl, rfl⟩
  split
  · refine ⟨_, rfl, h.withEndurance _, ?_, rfl, rfl⟩
    intro _
    exact Int.le_max_left 0 _
  split
  · obtain ⟨m, hm, hwhole⟩ := h.coreSkills.addUnder name delta
    rw [hm]
    exact ⟨_, rfl, ⟨h.disciplines, h.items, h.attributes, hwhole, h.counters⟩,
      fun he => he, rfl, rfl⟩
  · obtain ⟨m, hm, hwhole⟩ := h.attributes.addUnder name delta
    rw [hm]
    exact ⟨_, rfl, ⟨h.disciplines, h.items, hwhole, h.coreSkills, h.counters⟩,
      fun he => he, rfl, rfl⟩

/-- The folded name of an item, if it is a text. -/
def Item.key? (i : Item) : Option String :=
  match i.name with
  | .str name => some (Text.fold name)
  | _ => none

/-- Whether an item is called by a folded name. -/
def Item.isCalled (key : String) (i : Item) : Bool :=
  decide (i.key? = some key)

/-- Among items whose names are texts, the first one of a name is dropped without a fault. -/
theorem dropNamed_of_texts (key : String) {items : List Item}
    (h : ∀ i ∈ items, ∃ name, i.name = .str name) :
    dropNamed key items = .ok (items.eraseP (Item.isCalled key)) := by
  induction items with
  | nil => rfl
  | cons i items ih =>
      obtain ⟨⟨name, hname⟩, hothers⟩ := List.forall_mem_cons.mp h
      have hcalled : i.isCalled key = decide (Text.fold name = key) := by
        unfold Item.isCalled Item.key?
        simp [hname]
      have hnamed : isNamed key i.name = .ok (i.isCalled key) := by
        rw [hcalled, hname]
        rfl
      rw [dropNamed, hnamed, ih hothers]
      cases hi : i.isCalled key with
      | true => exact congrArg Except.ok (List.eraseP_cons_of_pos hi).symm
      | false => exact congrArg Except.ok (List.eraseP_cons_of_neg (by simp [hi])).symm

/-- Texts are searched without a fault. -/
theorem anyNamed_map_str (folded : String) (names : List String) :
    anyNamed folded (names.map .str) = .ok (decide (folded ∈ names.map Text.fold)) := by
  induction names with
  | nil => rfl
  | cons name names ih =>
      rw [List.map_cons, anyNamed, ih]
      by_cases hfold : Text.fold name = folded
      · simp [isNamed, Json.asText, hfold, bind, Except.bind, pure, Except.pure]
      · have hfold' : ¬ folded = Text.fold name := fun h => hfold h.symm
        simp [isNamed, Json.asText, hfold, hfold', bind, Except.bind, pure, Except.pure]

/-- Granting a discipline adds it to the others unless one of the same name is known. -/
theorem Character.grant_of_texts {c : Character} {names : List String}
    (h : c.disciplines = names.map .str) (name : String) :
    c.grant name = .ok (if Text.fold name ∈ names.map Text.fold then c
      else { c with disciplines := (names ++ [name]).map .str }) := by
  unfold Character.grant Character.hasDiscipline
  rw [h, anyNamed_map_str]
  by_cases hm : Text.fold name ∈ names.map Text.fold
  · rw [decide_eq_true hm, if_pos hm]
    rfl
  · rw [decide_eq_false hm, if_neg hm, List.map_append]
    rfl

theorem exists_names {js : List Json} (h : ∀ j ∈ js, ∃ name, j = .str name) :
    ∃ names : List String, js = names.map .str := by
  induction js with
  | nil => exact ⟨[], rfl⟩
  | cons j js ih =>
      obtain ⟨name, rfl⟩ := h j (by simp)
      obtain ⟨names, rfl⟩ := ih fun k hk => h k (by simp [hk])
      exact ⟨name :: names, rfl⟩

/-! ## Changes -/

/-- **A change touches nothing but the character,** and neither whose it is. -/
theorem Change.sameGame_of_apply {change : Change} {c d : Context}
    (h : change.apply c = .ok d) : c.SameGame d := by
  cases change with
  | adjustStat name delta =>
      obtain ⟨x, hx, rfl⟩ := map_eq_ok_iff.mp h
      exact Context.sameGame_withCharacter (Character.sameBearer_of_adjustStat hx)
  | adjustCombat delta =>
      obtain ⟨m, -, rfl⟩ := map_eq_ok_iff.mp h
      exact Context.sameGame_withCharacter ⟨rfl, rfl, rfl⟩
  | damage amount =>
      cases h
      exact Context.sameGame_withCharacter ⟨rfl, rfl, rfl⟩
  | heal amount =>
      cases h
      exact Context.sameGame_withCharacter ⟨rfl, rfl, rfl⟩
  | addItem name category =>
      cases h
      exact Context.sameGame_withCharacter ⟨rfl, rfl, rfl⟩
  | removeItem name =>
      obtain ⟨items, -, rfl⟩ := map_eq_ok_iff.mp h
      exact Context.sameGame_withCharacter ⟨rfl, rfl, rfl⟩
  | setFlag name value =>
      cases h
      exact ⟨rfl, .refl _⟩
  | grantDiscipline name =>
      obtain ⟨x, hx, rfl⟩ := map_eq_ok_iff.mp h
      obtain ⟨known, -, hgrant⟩ := bind_eq_ok_iff.mp hx
      cases known <;> cases hgrant <;> exact Context.sameGame_withCharacter ⟨rfl, rfl, rfl⟩
  | updateCounter name update =>
      obtain ⟨m, -, rfl⟩ := map_eq_ok_iff.mp h
      exact Context.sameGame_withCharacter ⟨rfl, rfl, rfl⟩
  | updateSlot name update =>
      obtain ⟨m, -, rfl⟩ := map_eq_ok_iff.mp h
      exact Context.sameGame_withCharacter ⟨rfl, rfl, rfl⟩
  | unsupported =>
      cases h
      exact .refl _

/-- **A change of a well-typed character does not fail,** keeps the types, and keeps the character
sound if a token can state it. -/
theorem Change.exists_apply (change : Change) {c : Context} (h : c.character.WellTyped) :
    ∃ d, change.apply c = .ok d ∧ d.character.WellTyped ∧
      (change.WellFormed → c.character.Sound → d.character.Sound) := by
  cases change with
  | adjustStat name delta =>
      obtain ⟨x, hx, htyped, hendurance, hdisciplines, hinventory⟩ := h.adjustStat name delta
      refine ⟨c.withCharacter x, map_eq_ok_iff.mpr ⟨x, hx, rfl⟩, htyped, fun _ hs => ?_⟩
      refine ⟨htyped, hendurance hs.endurance, ?_, ?_⟩
      · rw [Context.character_withCharacter, hdisciplines]
        exact hs.distinct
      · rw [Context.character_withCharacter, hinventory]
        exact hs.named
  | adjustCombat delta =>
      obtain ⟨m, hm, hwhole⟩ := h.attributes.addUnder bonusAttribute delta
      have htyped : { c.character with attributes := m }.WellTyped :=
        ⟨h.disciplines, h.items, hwhole, h.coreSkills, h.counters⟩
      exact ⟨_, map_eq_ok_iff.mpr ⟨m, hm, rfl⟩, htyped,
        fun _ hs => ⟨htyped, hs.endurance, hs.distinct, hs.named⟩⟩
  | damage amount =>
      exact ⟨_, rfl, h.withEndurance _, fun _ hs => hs.withEndurance (Int.le_max_left 0 _)⟩
  | heal amount =>
      refine ⟨_, rfl, h.withEndurance _, fun hw hs => hs.withEndurance ?_⟩
      have hnonneg := hs.endurance
      have hamount := hw.1
      omega
  | addItem name category =>
      have hmem : ∀ i ∈ c.inventory.items ++ [{ name := .str name, category := .str category }],
          i ∈ c.inventory.items ∨ i = { name := .str name, category := .str category } := by
        intro i hi
        simpa using hi
      have htyped : (c.withItems (c.inventory.items ++
          [{ name := .str name, category := .str category }])).character.WellTyped := by
        refine ⟨h.disciplines, ?_, h.attributes, h.coreSkills, h.counters⟩
        intro i hi
        rcases hmem i hi with hi | rfl
        · exact h.items i hi
        · exact ⟨name, rfl⟩
      refine ⟨_, rfl, htyped, fun hw hs => ⟨htyped, hs.endurance, hs.distinct, ?_⟩⟩
      intro i hi
      rcases hmem i hi with hi | rfl
      · exact hs.named i hi
      · refine ⟨name, category, rfl, ?_, ?_⟩
        · rintro rfl
          exact hw.1.nonempty rfl
        · rintro rfl
          exact hw.2.nonempty rfl
  | removeItem name =>
      have hrest : dropNamed (Text.fold name) c.inventory.items = .ok _ :=
        dropNamed_of_texts (Text.fold name) h.items
      have hmem : ∀ i ∈ c.inventory.items.eraseP (Item.isCalled (Text.fold name)),
          i ∈ c.inventory.items := fun _ hi => List.mem_of_mem_eraseP hi
      generalize c.inventory.items.eraseP (Item.isCalled (Text.fold name)) = rest at hmem hrest
      have htyped : (c.withItems rest).character.WellTyped :=
        ⟨h.disciplines, fun i hi => h.items i (hmem i hi), h.attributes, h.coreSkills, h.counters⟩
      exact ⟨_, map_eq_ok_iff.mpr ⟨rest, hrest, rfl⟩, htyped, fun _ hs =>
        ⟨htyped, hs.endurance, hs.distinct, fun i hi => hs.named i (hmem i hi)⟩⟩
  | setFlag name value => exact ⟨_, rfl, h, fun _ hs => hs⟩
  | grantDiscipline name =>
      obtain ⟨names, hnames⟩ := exists_names h.disciplines
      refine ⟨_, map_eq_ok_iff.mpr ⟨_, Character.grant_of_texts hnames name, rfl⟩, ?_⟩
      rw [Context.character_withCharacter]
      split
      · exact ⟨h, fun _ hs => hs⟩
      · next hnew =>
        have htyped : { c.character with
            disciplines := (names ++ [name]).map .str }.WellTyped := by
          refine ⟨?_, h.items, h.attributes, h.coreSkills, h.counters⟩
          intro d hd
          obtain ⟨n, -, rfl⟩ := List.mem_map.mp hd
          exact ⟨n, rfl⟩
        refine ⟨htyped, fun _ hs => ⟨htyped, hs.endurance, ⟨names ++ [name], rfl, ?_⟩, hs.named⟩⟩
        obtain ⟨names', hnames', hnodup⟩ := hs.distinct
        have hsame : names' = names := by
          have hmap := hnames'.symm.trans hnames
          exact (List.map_inj_right fun a b hab => Json.str.inj hab).mp hmap
        rw [hsame] at hnodup
        rw [List.map_append, List.nodup_append]
        refine ⟨hnodup, by simp, ?_⟩
        intro a ha b hb hab
        rw [List.map_singleton, List.mem_singleton] at hb
        rw [hab, hb] at ha
        exact hnew ha
  | updateCounter name update =>
      obtain ⟨m, hm, hwhole⟩ := h.counters.updateUnder name update
      have htyped : (c.withCounters m).character.WellTyped :=
        ⟨h.disciplines, h.items, h.attributes, h.coreSkills, hwhole⟩
      exact ⟨_, map_eq_ok_iff.mpr ⟨m, hm, rfl⟩, htyped, fun _ hs =>
        ⟨htyped, hs.endurance, hs.distinct, hs.named⟩⟩
  | updateSlot name update =>
      obtain ⟨m, hm, hwhole⟩ := h.counters.updateUnder (slotCounter name) update
      have htyped : (c.withCounters m).character.WellTyped :=
        ⟨h.disciplines, h.items, h.attributes, h.coreSkills, hwhole⟩
      exact ⟨_, map_eq_ok_iff.mpr ⟨m, hm, rfl⟩, htyped, fun _ hs =>
        ⟨htyped, hs.endurance, hs.distinct, hs.named⟩⟩
  | unsupported => exact ⟨c, rfl, h, fun _ hs => hs⟩

/-! ## Lists of effects -/

/-- **Effects touch nothing but the character,** also when one of them fails. -/
theorem sameGame_applyAll (c : Context) (es : List Effect) : c.SameGame (applyAll c es).1 := by
  induction es generalizing c with
  | nil => exact .refl c
  | cons e es ih =>
      unfold applyAll
      split
      · next d he => exact (Change.sameGame_of_apply he).trans (ih d)
      · exact .refl c

/-- **Effects on a well-typed character do not fail.** -/
theorem applyAll_wellTyped {c : Context} (h : c.character.WellTyped) (es : List Effect) :
    ∃ d, applyAll c es = (d, none) ∧ d.character.WellTyped ∧
      ((∀ e ∈ es, e.change.WellFormed) → c.character.Sound → d.character.Sound) := by
  induction es generalizing c with
  | nil => exact ⟨c, rfl, h, fun _ hs => hs⟩
  | cons e es ih =>
      obtain ⟨c', hc', htyped, hsound⟩ := e.change.exists_apply h
      obtain ⟨d, hd, htyped', hsound'⟩ := ih htyped
      refine ⟨d, ?_, htyped', ?_⟩
      · unfold applyAll
        rw [hc']
        exact hd
      · intro hw hs
        exact hsound' (fun e' he' => hw e' (by simp [he'])) (hsound (hw e (by simp)) hs)

/-- When an effect fails, those before it have been applied. -/
theorem exists_of_applyAll_eq_some {c d : Context} {es : List Effect} {f : Fault}
    (h : applyAll c es = (d, some f)) :
    ∃ before e after, es = before ++ e :: after ∧ applyAll c before = (d, none) ∧
      e.change.apply d = .error f := by
  induction es generalizing c with
  | nil => cases h
  | cons e es ih =>
      unfold applyAll at h
      split at h
      · next c' hc' =>
        obtain ⟨before, e', after, rfl, hbefore, hfails⟩ := ih h
        refine ⟨e :: before, e', after, rfl, ?_, hfails⟩
        unfold applyAll
        rw [hc']
        exact hbefore
      · next f' hf' =>
        cases h
        exact ⟨[], e, es, rfl, rfl, hf'⟩

end Questbook
