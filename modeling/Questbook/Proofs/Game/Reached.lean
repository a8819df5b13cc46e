import Questbook.Proofs.Game.Start

set_option autoImplicit false

/-! # States that reading and playing make

`GameState.Reached` holds of every state that is read from a document or started, and then changed by
any effects, choices and rounds of combat, at any tables, whether or not they fail. The effects may be
restricted to some changes.

Reading puts a default in the place of what is missing. In a reached state no id and no name is missing
(`Reached.complete`): they are given as soon as the state is read or started, and no operation takes
them away. An effect may add an item with an empty category, and this is read as the general category;
everything else is read from the document of a reached state as it is (`Reached.ofJson_toJson`). No
token states such an effect, and without it no category is missing (`Reached.haveCategories`).
-/

namespace Questbook

open Json

/-! ## Complete states -/

/-- Whether all items of a list have a category. -/
def HaveCategories (items : List Item) : Prop :=
  ∀ i ∈ items, i.category.orElse (.str generalCategory) = i.category

/-- **The state with the general category** for all items that have none. -/
def GameState.withCategories (s : GameState) : GameState :=
  { s with character := { s.character with inventory := s.character.inventory.reread } }

/-- If all items have a category, this is the state itself. -/
theorem GameState.withCategories_eq_self {s : GameState}
    (h : HaveCategories s.character.inventory.items) : s.withCategories = s := by
  have hitems : s.character.inventory.items.map Item.reread = s.character.inventory.items :=
    map_eq_self_iff.mpr fun i hi => by rw [Item.reread, h i hi]
  rw [withCategories, Inventory.reread, hitems]

/-- **Whether the id and the name of a character are given.** -/
structure Character.Complete (c : Character) : Prop where
  id : c.id.isGiven = true
  name : c.name.orElse (.str "") = c.name

/-- **Whether all ids and names of a game state are given.** -/
structure GameState.Complete (s : GameState) : Prop where
  bookId : s.bookId.orElse (.str "") = s.bookId
  series : s.series.orElse (.str "") = s.series
  sectionId : ∃ id, s.sectionId = .str id
  character : s.character.Complete
  profile : s.profile.name.orElse (.str "") = s.profile.name

/-- **What is read from the document of a complete state,** whatever id a new character would get. -/
theorem GameState.Complete.ofJson_toJson {s : GameState} (h : s.Complete) (newId : String) :
    GameState.ofJson newId s.toJson = .ok s.withCategories := by
  obtain ⟨id, hid⟩ := h.sectionId
  rw [ofJson_toJson_of_text newId hid, reread, h.bookId, h.series, Character.reread,
    orElse_of_isGiven h.character.id, h.character.name, PlayerProfile.reread, h.profile]
  rfl

/-- Another character that is complete keeps a state complete. -/
theorem GameState.Complete.withCharacter {s : GameState} (h : s.Complete) {c : Character}
    (hc : c.Complete) : { s with character := c }.Complete :=
  ⟨h.bookId, h.series, h.sectionId, hc, h.profile⟩

/-! ## Reading -/

theorem Item.category_of_ofJson {j : Json} {i : Item} (h : Item.ofJson j = .ok i) :
    i.category.orElse (.str generalCategory) = i.category := by
  obtain ⟨name, -, h⟩ := bind_eq_ok_iff.mp h
  obtain ⟨category, hcategory, h⟩ := bind_eq_ok_iff.mp h
  cases h
  exact orElse_of_givenOr hcategory

theorem Inventory.haveCategories_of_ofJson {j : Json} {i : Inventory}
    (h : Inventory.ofJson j = .ok i) : HaveCategories i.items := by
  obtain ⟨items, hitems, h⟩ := bind_eq_ok_iff.mp h
  obtain ⟨counters, -, h⟩ := bind_eq_ok_iff.mp h
  cases h
  obtain ⟨listed, -, hrecords⟩ := bind_eq_ok_iff.mp hitems
  intro item hitem
  obtain ⟨x, -, hx⟩ := mem_of_mapM hrecords item hitem
  exact Item.category_of_ofJson hx

/-- **What reading gives a character:** an id, a name, and an inventory that was read. -/
structure Character.IsRead (newId : String) (c : Character) : Prop where
  id : ∃ stated : Json, c.id = stated.orElse (.str newId)
  name : c.name.orElse (.str "") = c.name
  inventory : ∃ j, Inventory.ofJson j = .ok c.inventory

theorem Character.isRead_of_ofJson {newId : String} {j : Json} {c : Character}
    (h : Character.ofJson newId j = .ok c) : c.IsRead newId := by
  obtain ⟨stated, -, h⟩ := bind_eq_ok_iff.mp h
  obtain ⟨name, hname, h⟩ := bind_eq_ok_iff.mp h
  obtain ⟨combatSkill, -, h⟩ := bind_eq_ok_iff.mp h
  obtain ⟨endurance, -, h⟩ := bind_eq_ok_iff.mp h
  obtain ⟨disciplines, -, h⟩ := bind_eq_ok_iff.mp h
  obtain ⟨attributes, -, h⟩ := bind_eq_ok_iff.mp h
  obtain ⟨coreSkills, -, h⟩ := bind_eq_ok_iff.mp h
  obtain ⟨document, -, h⟩ := bind_eq_ok_iff.mp h
  obtain ⟨inventory, hinventory, h⟩ := bind_eq_ok_iff.mp h
  cases h
  exact ⟨⟨stated, rfl⟩, orElse_of_givenOr hname, ⟨document, hinventory⟩⟩

theorem Character.IsRead.complete {newId : String} (hid : newId ≠ "") {c : Character}
    (h : c.IsRead newId) : c.Complete := by
  obtain ⟨stated, hstated⟩ := h.id
  refine ⟨?_, h.name⟩
  rw [hstated]
  exact isGiven_orElse (by simpa using hid)

theorem Character.IsRead.haveCategories {newId : String} {c : Character} (h : c.IsRead newId) :
    HaveCategories c.inventory.items := by
  obtain ⟨j, hj⟩ := h.inventory
  exact Inventory.haveCategories_of_ofJson hj

theorem PlayerProfile.name_of_ofJson {j : Json} {p : PlayerProfile}
    (h : PlayerProfile.ofJson j = .ok p) : p.name.orElse (.str "") = p.name := by
  obtain ⟨name, hname, h⟩ := bind_eq_ok_iff.mp h
  obtain ⟨states, -, h⟩ := bind_eq_ok_iff.mp h
  split at h
  · obtain ⟨progress, -, h⟩ := bind_eq_ok_iff.mp h
    cases h
    exact orElse_of_givenOr hname
  · cases h

/-- **What reading gives a game state:** ids and names, and a character that was read. -/
structure GameState.IsRead (newId : String) (s : GameState) : Prop where
  bookId : s.bookId.orElse (.str "") = s.bookId
  series : s.series.orElse (.str "") = s.series
  sectionId : ∃ id, s.sectionId = .str id
  character : s.character.IsRead newId
  profile : s.profile.name.orElse (.str "") = s.profile.name

theorem GameState.isRead_of_ofJson {newId : String} {j : Json} {s : GameState}
    (h : GameState.ofJson newId j = .ok s) : s.IsRead newId := by
  obtain ⟨bookId, hbook, h⟩ := bind_eq_ok_iff.mp h
  obtain ⟨series, hseries, h⟩ := bind_eq_ok_iff.mp h
  obtain ⟨written, -, h⟩ := bind_eq_ok_iff.mp h
  obtain ⟨sectionId, -, h⟩ := bind_eq_ok_iff.mp h
  obtain ⟨document, -, h⟩ := bind_eq_ok_iff.mp h
  obtain ⟨character, hcharacter, h⟩ := bind_eq_ok_iff.mp h
  obtain ⟨document', -, h⟩ := bind_eq_ok_iff.mp h
  obtain ⟨profile, hprofile, h⟩ := bind_eq_ok_iff.mp h
  obtain ⟨flags, -, h⟩ := bind_eq_ok_iff.mp h
  cases h
  exact ⟨orElse_of_givenOr hbook, orElse_of_givenOr hseries, ⟨sectionId, rfl⟩,
    Character.isRead_of_ofJson hcharacter, PlayerProfile.name_of_ofJson hprofile⟩

/-- **In a state that was read no id and no name is missing.** -/
theorem GameState.IsRead.complete {newId : String} (hid : newId ≠ "") {s : GameState}
    (h : s.IsRead newId) : s.Complete :=
  ⟨h.bookId, h.series, h.sectionId, h.character.complete hid, h.profile⟩

/-! ## Starting -/

/-- A profile as a player hands it in: with a text for a name, or read from a document. -/
def PlayerProfile.IsProper (p : PlayerProfile) : Prop :=
  (∃ name, p.name = .str name) ∨ ∃ j, PlayerProfile.ofJson j = .ok p

theorem PlayerProfile.IsProper.name {p : PlayerProfile} (h : p.IsProper) :
    p.name.orElse (.str "") = p.name := by
  rcases h with ⟨name, hname⟩ | ⟨j, hj⟩
  · rw [hname]
    exact orElse_str name
  · exact name_of_ofJson hj

theorem Character.Sound.haveCategories {c : Character} (h : c.Sound) :
    HaveCategories c.inventory.items := by
  intro i hi
  obtain ⟨name, category, rfl, -, hcategory⟩ := h.named i hi
  exact orElse_of_isGiven (by simpa using hcategory)

/-- **In a state that was started no id and no name is missing.** -/
theorem GameState.complete_firstState {newId id series : String} (hid : newId ≠ "") (book : Book)
    {profile : PlayerProfile} (hprofile : profile.IsProper) :
    (Game.firstState newId (.str id) book series profile).Complete := by
  refine ⟨?_, orElse_str series, ⟨_, rfl⟩, ⟨?_, ?_⟩, hprofile.name⟩
  · show (book.id.orElse (.str id)).orElse (.str "") = book.id.orElse (.str id)
    cases h : book.id.isGiven with
    | true => rw [orElse_of_isGiven h, orElse_of_isGiven h]
    | false =>
        have hasked : book.id.orElse (.str id) = .str id := by
          unfold orElse
          simp [h]
        rw [hasked, orElse_str]
  · have hgiven : (Game.firstState newId (.str id) book series profile).character.id = .str newId :=
      Series.id_newCharacter newId (some series)
    rw [hgiven]
    simpa using hid
  · have hname : (Game.firstState newId (.str id) book series profile).character.name = .str "" :=
      Series.name_newCharacter newId (some series)
    rw [hname]
    rfl

/-! ## Effects -/

/-- Whether a change that adds an item adds it to a category. -/
def Change.NamesCategory : Change → Prop
  | addItem _ category => category ≠ ""
  | _ => True

/-- Effects that are read from tokens name a category for what they add. -/
theorem Change.WellFormed.namesCategory {change : Change} (h : change.WellFormed) :
    change.NamesCategory := by
  cases change
  case addItem name category =>
    rintro rfl
    exact h.2.nonempty rfl
  all_goals trivial

theorem mem_of_dropNamed {folded : String} {items rest : List Item}
    (h : dropNamed folded items = .ok rest) : ∀ i ∈ rest, i ∈ items := by
  induction items generalizing rest with
  | nil =>
      cases h
      intro i hi
      exact hi
  | cons item items ih =>
      unfold dropNamed at h
      obtain ⟨named, -, h⟩ := bind_eq_ok_iff.mp h
      cases named with
      | true =>
          cases h
          intro i hi
          simp [hi]
      | false =>
          obtain ⟨kept, hkept, h⟩ := bind_eq_ok_iff.mp h
          cases h
          intro i hi
          rcases List.mem_cons.mp hi with rfl | hi
          · simp
          · simp [ih hkept i hi]

theorem Character.items_of_adjustStat {c d : Character} {name : String} {delta : Int}
    (h : c.adjustStat name delta = .ok d) : d.inventory.items = c.inventory.items := by
  unfold Character.adjustStat at h
  split at h
  · cases h
    rfl
  · split at h
    · cases h
      rfl
    · split at h
      · obtain ⟨m, -, h⟩ := bind_eq_ok_iff.mp h
        cases h
        rfl
      · obtain ⟨m, -, h⟩ := bind_eq_ok_iff.mp h
        cases h
        rfl

theorem Character.items_of_grant {c d : Character} {name : String} (h : c.grant name = .ok d) :
    d.inventory.items = c.inventory.items := by
  obtain ⟨known, -, h⟩ := bind_eq_ok_iff.mp h
  cases known <;> cases h <;> rfl

/-- **A change takes no category away.** -/
theorem Change.haveCategories_of_apply {change : Change} {c d : Context}
    (hchange : change.NamesCategory) (hc : HaveCategories c.inventory.items)
    (h : change.apply c = .ok d) : HaveCategories d.inventory.items := by
  cases change with
  | adjustStat name delta =>
      obtain ⟨x, hx, rfl⟩ := map_eq_ok_iff.mp h
      show HaveCategories x.inventory.items
      rw [Character.items_of_adjustStat hx]
      exact hc
  | adjustCombat delta =>
      obtain ⟨m, -, rfl⟩ := map_eq_ok_iff.mp h
      exact hc
  | damage amount =>
      cases h
      exact hc
  | heal amount =>
      cases h
      exact hc
  | addItem name category =>
      cases h
      have hcategory : category ≠ "" := hchange
      intro i hi
      rcases List.mem_append.mp hi with hi | hi
      · exact hc i hi
      · rw [List.mem_singleton.mp hi]
        exact orElse_of_isGiven (by simpa using hcategory)
  | removeItem name =>
      obtain ⟨items, hitems, rfl⟩ := map_eq_ok_iff.mp h
      intro i hi
      exact hc i (mem_of_dropNamed hitems i hi)
  | setFlag name value =>
      cases h
      exact hc
  | grantDiscipline name =>
      obtain ⟨x, hx, rfl⟩ := map_eq_ok_iff.mp h
      show HaveCategories x.inventory.items
      rw [Character.items_of_grant hx]
      exact hc
  | updateCounter name update =>
      obtain ⟨m, -, rfl⟩ := map_eq_ok_iff.mp h
      exact hc
  | updateSlot name update =>
      obtain ⟨m, -, rfl⟩ := map_eq_ok_iff.mp h
      exact hc
  | unsupported =>
      cases h
      exact hc

theorem haveCategories_of_applyAll {es : List Effect} (hes : ∀ e ∈ es, e.change.NamesCategory)
    {c : Context} (hc : HaveCategories c.inventory.items) :
    HaveCategories (applyAll c es).1.inventory.items := by
  induction es generalizing c with
  | nil => exact hc
  | cons e es ih =>
      unfold applyAll
      split
      · next d hd =>
        exact ih (fun e' he' => hes e' (by simp [he']))
          (Change.haveCategories_of_apply (hes e (by simp)) hc hd)
      · exact hc

/-- **Effects leave a complete state complete,** also when one of them fails. -/
theorem GameState.Complete.applyAll {c : Context} (h : c.state.Complete) (es : List Effect) :
    (applyAll c es).1.state.Complete := by
  have hsame := sameGame_applyAll c es
  rw [hsame.state]
  refine h.withCharacter ⟨?_, ?_⟩
  · rw [hsame.bearer.id]
    exact h.character.id
  · rw [hsame.bearer.name]
    exact h.character.name

/-! ## Playing -/

/-- **The states that reading and playing can make,** with effects that make allowed changes. Every step
may be taken at another table. -/
inductive GameState.Reached (allowed : Change → Prop) : GameState → Prop
  | reads {newId : String} (hid : newId ≠ "") {document : Json} {s : GameState}
      (h : GameState.ofJson newId document = .ok s) : Reached allowed s
  | starts {g h : Game} (hid : g.newId ≠ "") {id : String} {profile : PlayerProfile}
      (hprofile : profile.IsProper) {s : GameState}
      (h : (Game.start (.str id) profile).result g = (.ok s, h)) : Reached allowed s
  /-- Effects are applied, with any flags beside the state. -/
  | applies {s : GameState} (h : Reached allowed s) (flags : NameMap Json) {es : List Effect}
      (hes : ∀ e ∈ es, allowed e.change) :
      Reached allowed (applyAll { state := s, flags } es).1.state
  /-- A choice is taken. Its effects are read from tokens. -/
  | chooses {s t : Session} (h : Reached allowed s.state) {choice : Choice} {given : Json}
      {picked : Option RandomOutcome} {r : Except Fault ChoiceResult}
      (hresult : (Session.applyChoice choice given picked).result s = (r, t)) :
      Reached allowed t.state
  | fights {s t : Session} (h : Reached allowed s.state) {enemySkill enemyEndurance given : Json}
      {r : Except Fault RoundResult}
      (hresult : (Session.fight enemySkill enemyEndurance given).result s = (r, t)) :
      Reached allowed t.state

/-- **What effects of tokens keep, and moves to another section, a choice keeps,** whatever comes of
it. -/
theorem Session.Takes.preserves {P : GameState → Prop} {s t : Session} {choice : Choice}
    {given : Json} {picked : Option RandomOutcome} {r : Except Fault ChoiceResult}
    (htakes : s.Takes choice given picked r t)
    (happly : ∀ es : List Effect, (∀ e ∈ es, e.change.WellFormed) →
      P (applyAll s.context es).1.state)
    (hmove : ∀ state id, P state → P { state with sectionId := .str id }) (h : P s.state) :
    P t.state := by
  have hkept : s.Keeps t → P t.state := by
    intro hkeeps
    rw [hkeeps.state]
    exact h
  cases htakes with
  | stops keeps => exact hkept keeps
  | refuses _ _ keeps => exact hkept keeps
  | waits _ _ _ keeps => exact hkept keeps
  | strays _ _ keeps => exact hkept keeps
  | arrives leads _ applies state _ =>
      have hall := happly _ leads.wellFormed
      rw [applies] at hall
      rw [state]
      exact hmove _ _ hall
  | breaks leads _ applies state _ =>
      have hall := happly _ leads.wellFormed
      rw [applies] at hall
      rw [state]
      exact hall

variable {allowed : Change → Prop} {s : GameState}

/-- **Induction over reading and playing:** what reading and starting give, and effects, moves to another
section and rounds of combat keep, holds of every reached state. Effects that are not allowed come from
tokens. -/
theorem GameState.Reached.invariant {P : GameState → Prop}
    (hread : ∀ newId ≠ "", ∀ state : GameState, state.IsRead newId → P state)
    (hstart : ∀ newId ≠ "", ∀ id book series profile, profile.IsProper →
      P (Game.firstState newId (.str id) book series profile))
    (happly : ∀ c : Context, P c.state → ∀ es : List Effect,
      (∀ e ∈ es, allowed e.change ∨ e.change.WellFormed) → P (applyAll c es).1.state)
    (hmove : ∀ state id, P state → P { state with sectionId := .str id })
    (hendure : ∀ state n, P state →
      P { state with character := { state.character with endurance := n } })
    (h : s.Reached allowed) : P s := by
  induction h with
  | reads hid h => exact hread _ hid _ (isRead_of_ofJson h)
  | starts hid hprofile h =>
      obtain ⟨book, series, -, -, -, rfl⟩ := Game.start_spec h
      exact hstart _ hid _ book series _ hprofile
  | applies _ flags hes ih => exact happly _ ih _ fun e he => Or.inl (hes e he)
  | chooses _ hresult ih =>
      exact (Session.takes_of_applyChoice hresult).preserves
        (fun es hes => happly _ ih es fun e he => Or.inr (hes e he)) hmove ih
  | fights _ hresult ih =>
      obtain ⟨-, hstate | ⟨n, -, hstate⟩⟩ := Session.fight_spec hresult
      · rw [hstate]
        exact ih
      · rw [hstate]
        exact hendure _ n ih

/-- **In a reached state no id and no name is missing.** -/
theorem GameState.Reached.complete (h : s.Reached allowed) : s.Complete :=
  h.invariant (fun _ hid _ hread => hread.complete hid)
    (fun _ hid _ book _ _ hprofile => complete_firstState hid book hprofile)
    (fun _ hc es _ => GameState.Complete.applyAll hc es)
    (fun _ id hc => ⟨hc.bookId, hc.series, ⟨id, rfl⟩, hc.character, hc.profile⟩)
    (fun _ _ hc => hc.withCharacter ⟨hc.character.id, hc.character.name⟩)

/-- **If all items are added to a category, none is without one.** -/
theorem GameState.Reached.haveCategories (h : s.Reached allowed)
    (hallowed : ∀ change, allowed change → change.NamesCategory) :
    HaveCategories s.character.inventory.items := by
  refine h.invariant (P := fun state => HaveCategories state.character.inventory.items)
    (fun _ _ _ hread => hread.character.haveCategories)
    (fun newId _ _ _ series _ _ =>
      (Series.sound_newCharacter newId (some series)).haveCategories) ?_
    (fun _ _ hitems => hitems) (fun _ _ hitems => hitems)
  intro c hitems es hes
  refine haveCategories_of_applyAll (fun e he => ?_) hitems
  exact (hes e he).elim (hallowed e.change) Change.WellFormed.namesCategory

/-- **A reached state is read from its document as it is,** but for categories that are missing. -/
theorem GameState.Reached.ofJson_toJson (h : s.Reached allowed) (newId : String) :
    GameState.ofJson newId s.toJson = .ok s.withCategories :=
  h.complete.ofJson_toJson newId

end Questbook
