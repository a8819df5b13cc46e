import Questbook.GameState
import Questbook.Proofs.Json.RoundTrip
import Questbook.Proofs.Json.Written
import Questbook.Proofs.NameMap

set_option autoImplicit false

/-! # Game states and their documents

What is read from the document of a game state has a default in the place of empty names and ids
(`GameState.ofJson_toJson_of_text`). So the document states this game state, as long as nothing in it
would be taken for missing (`GameState.ofJson_toJson`). The document is plain if the values in the state
are (`GameState.plain_toJson`).
-/

namespace Questbook

open Json

variable {fs : List (String × Json)} {name : String}

/-! ## Maps -/

namespace NameMap

variable {α : Type}

/-- **A map is the map that its entries give.** -/
theorem ofEntries_entries (m : NameMap α) : ofEntries m.entries = m := by
  apply ext_entries
  unfold ofEntries
  rw [entries_setAll]
  · rfl
  · exact m.distinct

theorem ofJson_toJson (m : NameMap Json) : NameMap.ofJson m.toJson = .ok m := by
  have hfill : fill empty m.toJson = (ofEntries m.entries, none) := rfl
  unfold NameMap.ofJson
  rw [hfill, ofEntries_entries]

/-- Names that differ when folded differ. -/
theorem nodup_names (m : NameMap α) : m.names.Nodup := by
  have hdistinct : ((m.entries.map Prod.fst).map Text.fold).Nodup := by
    rw [List.map_map]
    exact m.distinct
  exact List.Pairwise.of_map Text.fold (fun a b hne hab => hne (congrArg Text.fold hab)) hdistinct

end NameMap

theorem nameMapOf_obj {m : NameMap Json} (h : field? name fs = some m.toJson) :
    nameMapOf (.obj fs) name = .ok m := by
  unfold nameMapOf
  rw [givenOr_obj h, NameMap.toJson, orElse_obj]
  exact NameMap.ofJson_toJson m

/-! ## Characters -/

/-- What is read from the document of an item. -/
def Item.reread (i : Item) : Item :=
  { i with category := i.category.orElse (.str generalCategory) }

/-- What is read from the document of an inventory. -/
def Inventory.reread (i : Inventory) : Inventory :=
  { i with items := i.items.map Item.reread }

/-- What is read from the document of a character. -/
def Character.reread (newId : String) (c : Character) : Character :=
  { c with
    id := c.id.orElse (.str newId)
    name := c.name.orElse (.str "")
    inventory := c.inventory.reread }

theorem Item.ofJson_toJson (i : Item) : Item.ofJson i.toJson = .ok i.reread := by
  unfold Item.ofJson Item.toJson
  rw [fieldOr_obj rfl, givenOr_obj rfl]
  rfl

theorem Inventory.ofJson_toJson (i : Inventory) : Inventory.ofJson i.toJson = .ok i.reread := by
  unfold Inventory.ofJson Inventory.toJson
  rw [records_obj_map (fun item _ => Item.ofJson_toJson item) rfl, nameMapOf_obj rfl]
  rfl

theorem Character.ofJson_toJson (newId : String) (c : Character) :
    Character.ofJson newId c.toJson = .ok (c.reread newId) := by
  have hinventory : c.inventory.toJson.orElse (.obj []) = c.inventory.toJson := rfl
  unfold Character.ofJson Character.toJson
  rw [fieldOr_obj rfl, givenOr_obj rfl, wholeOr_obj rfl, wholeOr_obj rfl, listed_obj rfl,
    nameMapOf_obj rfl, nameMapOf_obj rfl, givenOr_obj rfl]
  simp only [bind, Except.bind, hinventory, Inventory.ofJson_toJson]
  rfl

/-- **Whether no part of a character is taken for missing** when it is read. -/
structure Character.Settled (newId : String) (c : Character) : Prop where
  id : c.id.orElse (.str newId) = c.id
  name : c.name.orElse (.str "") = c.name
  categories : ∀ i ∈ c.inventory.items, i.category.orElse (.str generalCategory) = i.category

theorem Character.Settled.reread_eq {newId : String} {c : Character} (h : c.Settled newId) :
    c.reread newId = c := by
  have hitems : c.inventory.items.map Item.reread = c.inventory.items :=
    map_eq_self_iff.mpr fun i hi => by rw [Item.reread, h.categories i hi]
  rw [Character.reread, Inventory.reread, h.id, h.name, hitems]

/-! ## Game states -/

/-- **Whether no part of a game state is taken for missing** when it is read. -/
structure GameState.Settled (newId : String) (s : GameState) : Prop where
  bookId : s.bookId.orElse (.str "") = s.bookId
  series : s.series.orElse (.str "") = s.series
  sectionId : ∃ id, s.sectionId = .str id
  character : s.character.Settled newId
  profile : s.profile.name.orElse (.str "") = s.profile.name

theorem SeriesProgress.ofJson_toJson (p : SeriesProgress) :
    SeriesProgress.ofJson p.toJson = .ok p := by
  unfold SeriesProgress.ofJson SeriesProgress.toJson
  rw [fieldOr_obj rfl, fieldOr_obj rfl]
  rfl

theorem progressFields_toJson (es : List (String × SeriesProgress)) :
    progressFields (es.map fun e => (e.1, e.2.toJson)) = .ok es := by
  induction es with
  | nil => rfl
  | cons e es ih =>
      rw [List.map_cons, progressFields, SeriesProgress.ofJson_toJson, ih]
      rfl

/-- What is read from the document of a profile. -/
def PlayerProfile.reread (p : PlayerProfile) : PlayerProfile :=
  { p with name := p.name.orElse (.str "") }

/-- **What is read from the document of a game state.** -/
def GameState.reread (newId : String) (s : GameState) : GameState :=
  { s with
    bookId := s.bookId.orElse (.str "")
    series := s.series.orElse (.str "")
    character := s.character.reread newId
    profile := s.profile.reread }

theorem PlayerProfile.ofJson_toJson (p : PlayerProfile) :
    PlayerProfile.ofJson p.toJson = .ok p.reread := by
  unfold PlayerProfile.ofJson PlayerProfile.toJson
  rw [givenOr_obj rfl, givenOr_obj rfl, orElse_obj]
  simp only [bind, Except.bind]
  rw [progressFields_toJson]
  simp only [NameMap.ofEntries_entries]
  rfl

/-- **The document of a game state is read,** if its section is a text. -/
theorem GameState.ofJson_toJson_of_text (newId : String) {s : GameState} {id : String}
    (hid : s.sectionId = .str id) : GameState.ofJson newId s.toJson = .ok (s.reread newId) := by
  have hsection : (s.sectionId.orElse (.str "")).text = .ok id := by
    rw [hid, orElse_str]
    rfl
  have hcharacter : s.character.toJson.orElse (.obj []) = s.character.toJson := rfl
  have hprofile : s.profile.toJson.orElse (.obj []) = s.profile.toJson := rfl
  unfold GameState.ofJson GameState.toJson
  rw [givenOr_obj rfl, givenOr_obj rfl, givenOr_obj rfl, givenOr_obj rfl, givenOr_obj rfl,
    nameMapOf_obj rfl]
  simp only [bind, Except.bind, hsection, hcharacter, hprofile, Character.ofJson_toJson,
    PlayerProfile.ofJson_toJson, ← hid]
  rfl

/-- **The document of a game state states this game state.** -/
theorem GameState.ofJson_toJson {newId : String} {s : GameState} (h : s.Settled newId) :
    GameState.ofJson newId s.toJson = .ok s := by
  obtain ⟨id, hid⟩ := h.sectionId
  rw [ofJson_toJson_of_text newId hid, reread, h.bookId, h.series, h.character.reread_eq,
    PlayerProfile.reread, h.profile]

/-! ## Plain documents -/

/-- **Whether all values of a map are plain.** -/
def NameMap.Plain (m : NameMap Json) : Prop :=
  ∀ e ∈ m.entries, e.2.Plain

theorem NameMap.Whole.plain {m : NameMap Json} (h : m.Whole) : m.Plain := by
  intro e he
  obtain ⟨n, hn⟩ := h e he
  rw [hn]
  trivial

theorem NameMap.Plain.toJson {m : NameMap Json} (h : m.Plain) : m.toJson.Plain :=
  ⟨m.nodup_names, plainFields_iff.mpr h⟩

/-- **Whether all values in a character are plain.** -/
structure Character.Plain (c : Character) : Prop where
  id : c.id.Plain
  name : c.name.Plain
  disciplines : ∀ d ∈ c.disciplines, d.Plain
  attributes : c.attributes.Plain
  coreSkills : c.coreSkills.Plain
  items : ∀ i ∈ c.inventory.items, i.name.Plain ∧ i.category.Plain
  counters : c.inventory.counters.Plain

/-- **Whether all values in a game state are plain.** -/
structure GameState.Plain (s : GameState) : Prop where
  bookId : s.bookId.Plain
  series : s.series.Plain
  sectionId : s.sectionId.Plain
  character : s.character.Plain
  profile : s.profile.name.Plain
  progress : ∀ e ∈ s.profile.series.entries, e.2.characterId.Plain
  flags : s.flags.Plain

theorem Inventory.plain_toJson {i : Inventory}
    (hitems : ∀ item ∈ i.items, item.name.Plain ∧ item.category.Plain)
    (hcounters : i.counters.Plain) : i.toJson.Plain := by
  refine ⟨by simp, ?_, hcounters.toJson, trivial⟩
  apply plainItems_iff.mpr
  intro j hj
  obtain ⟨item, hitem, rfl⟩ := List.mem_map.mp hj
  obtain ⟨hname, hcategory⟩ := hitems item hitem
  exact ⟨by simp, hname, hcategory, trivial⟩

theorem Character.Plain.toJson {c : Character} (h : c.Plain) : c.toJson.Plain := by
  refine ⟨by simp, h.id, h.name, trivial, trivial, ?_, h.attributes.toJson, h.coreSkills.toJson,
    Inventory.plain_toJson h.items h.counters, trivial⟩
  exact plainItems_iff.mpr h.disciplines

theorem PlayerProfile.plain_toJson {p : PlayerProfile} (hname : p.name.Plain)
    (hprogress : ∀ e ∈ p.series.entries, e.2.characterId.Plain) : p.toJson.Plain := by
  refine ⟨by simp, hname, ⟨?_, ?_⟩, trivial⟩
  · rw [List.map_map]
    exact p.series.nodup_names
  · apply plainFields_iff.mpr
    intro f hf
    obtain ⟨e, he, rfl⟩ := List.mem_map.mp hf
    exact ⟨by simp, trivial, hprogress e he, trivial⟩

/-- **The document of a game state is plain** if the values in the state are. -/
theorem GameState.Plain.toJson {s : GameState} (h : s.Plain) : s.toJson.Plain :=
  ⟨by simp, h.bookId, h.series, h.sectionId, h.character.toJson,
    PlayerProfile.plain_toJson h.profile h.progress, h.flags.toJson, trivial⟩

end Questbook
