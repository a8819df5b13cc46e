import Questbook.Catalog
import Questbook.Combat.Table
import Questbook.Proofs.Book.Rereading
import Questbook.Proofs.GameState
import Questbook.Proofs.Json.Respelled

set_option autoImplicit false

/-! # Documents in another spelling

The documents of books, game states, combat tables and rules may spell the name of any field, at any
place, with a capital first letter. For each type of record, `parts` names its fields and says how
two values of a field go together: records field by field, and all other values by being equal. The
names in maps are no fields and keep their spelling. Documents that go together are read alike
(`Book.ofJson_eq` and its like).

What is written can be read (`Book.ofJson_toJson` and its like), except that the section of a game
state has to be a text.
-/

namespace Questbook

open Json

variable {j k : Json}

/-! ## Books -/

/-- The fields of a block. -/
def ContentBlock.parts : Parts := [("kind", Eq), ("text", Eq)]

/-- The fields of a page. -/
def FrontPage.parts : Parts := [("id", Eq), ("title", Eq), ("text", Eq)]

/-- The fields of an outcome. -/
def RandomOutcome.parts : Parts := [("min", Eq), ("max", Eq), ("targetId", Eq), ("effects", Eq)]

/-- The fields of a choice. -/
def Choice.parts : Parts :=
  [("text", Eq), ("targetId", Eq), ("requirements", Eq), ("effects", Eq),
    ("randomOutcomes", Each (Respelled RandomOutcome.parts)), ("ruleIds", Eq)]

/-- The fields of a section. -/
def Section.parts : Parts :=
  [("id", Eq), ("title", Eq), ("blocks", Each (Respelled ContentBlock.parts)),
    ("choices", Each (Respelled Choice.parts))]

/-- **The fields of a book.** -/
def Book.parts : Parts :=
  [("id", Eq), ("seriesId", Eq), ("title", Eq),
    ("frontMatter", Each (Respelled FrontPage.parts)), ("sections", Each (Respelled Section.parts))]

theorem ContentBlock.ofJson_eq (h : Respelled parts j k) :
    ContentBlock.ofJson k = ContentBlock.ofJson j := by
  have hfield := h.field_eq (by decide)
  have hhtml : k.field "html" = j.field "html" := h.field_eq_of_apart (by decide)
  simp only [ofJson, blockText, fieldOr, hfield "kind" (by simp [parts]),
    hfield "text" (by simp [parts]), hhtml]

theorem FrontPage.ofJson_eq (h : Respelled parts j k) : FrontPage.ofJson k = FrontPage.ofJson j := by
  have hfield := h.field_eq (by decide)
  have hhtml : k.field "html" = j.field "html" := h.field_eq_of_apart (by decide)
  simp only [ofJson, blockText, fieldOr, hfield "id" (by simp [parts]),
    hfield "title" (by simp [parts]), hfield "text" (by simp [parts]), hhtml]

theorem RandomOutcome.ofJson_eq (h : Respelled parts j k) :
    RandomOutcome.ofJson k = RandomOutcome.ofJson j := by
  have hfield := h.field_eq (by decide)
  simp only [ofJson, wholeOr, givenOr, listed, fieldOr, hfield "min" (by simp [parts]),
    hfield "max" (by simp [parts]), hfield "targetId" (by simp [parts]),
    hfield "effects" (by simp [parts])]

theorem Choice.ofJson_eq (h : Respelled parts j k) : Choice.ofJson k = Choice.ofJson j := by
  have hdistinct : Distinct parts := by decide
  have hfield := h.field_eq hdistinct
  have houtcomes := h.records_eq hdistinct "randomOutcomes" (by simp [parts]) @RandomOutcome.ofJson_eq
  simp only [ofJson, givenOr, listed, fieldOr, houtcomes, hfield "text" (by simp [parts]),
    hfield "targetId" (by simp [parts]), hfield "requirements" (by simp [parts]),
    hfield "effects" (by simp [parts]), hfield "ruleIds" (by simp [parts])]

theorem Section.ofJson_eq (h : Respelled parts j k) : Section.ofJson k = Section.ofJson j := by
  have hdistinct : Distinct parts := by decide
  have hfield := h.field_eq hdistinct
  have hblocks := h.records_eq hdistinct "blocks" (by simp [parts]) @ContentBlock.ofJson_eq
  have hchoices := h.records_eq hdistinct "choices" (by simp [parts]) @Choice.ofJson_eq
  simp only [ofJson, givenOr, fieldOr, hfield "id" (by simp [parts]),
    hfield "title" (by simp [parts]), hblocks, hchoices]

/-- **A book is read from either of two documents** that differ in spelling only. -/
theorem Book.ofJson_eq (h : Respelled parts j k) : Book.ofJson k = Book.ofJson j := by
  have hdistinct : Distinct parts := by decide
  have hfield := h.field_eq hdistinct
  have hpages := h.records_eq hdistinct "frontMatter" (by simp [parts]) @FrontPage.ofJson_eq
  have hsections := h.records_eq hdistinct "sections" (by simp [parts]) @Section.ofJson_eq
  simp only [ofJson, givenOr, fieldOr, hfield "id" (by simp [parts]),
    hfield "seriesId" (by simp [parts]), hfield "title" (by simp [parts]), hpages, hsections]

/-! ## Game states -/

/-- The fields of an item. -/
def Item.parts : Parts := [("name", Eq), ("category", Eq)]

/-- The fields of an inventory. The names of counters are no fields. -/
def Inventory.parts : Parts := [("items", Each (Respelled Item.parts)), ("counters", Eq)]

/-- The fields of a character. The names of attributes and core skills are no fields. -/
def Character.parts : Parts :=
  [("characterId", Eq), ("name", Eq), ("combatSkill", Eq), ("endurance", Eq), ("disciplines", Eq),
    ("attributes", Eq), ("coreSkills", Eq), ("inventory", Respelled Inventory.parts)]

/-- The fields of the progress in a series. -/
def SeriesProgress.parts : Parts := [("isInitialized", Eq), ("characterId", Eq)]

/-- The fields of a profile. The names of series are no fields. -/
def PlayerProfile.parts : Parts :=
  [("name", Eq), ("seriesStates", Under (Respelled SeriesProgress.parts))]

/-- **The fields of a game state.** The names of flags are no fields. -/
def GameState.parts : Parts :=
  [("bookId", Eq), ("seriesId", Eq), ("sectionId", Eq), ("character", Respelled Character.parts),
    ("profile", Respelled PlayerProfile.parts), ("flags", Eq)]

theorem Item.ofJson_eq (h : Respelled parts j k) : Item.ofJson k = Item.ofJson j := by
  have hfield := h.field_eq (by decide)
  simp only [ofJson, givenOr, fieldOr, hfield "name" (by simp [parts]),
    hfield "category" (by simp [parts])]

theorem Inventory.ofJson_eq (h : Respelled parts j k) : Inventory.ofJson k = Inventory.ofJson j := by
  have hdistinct : Distinct parts := by decide
  have hitems := h.records_eq hdistinct "items" (by simp [parts]) @Item.ofJson_eq
  simp only [ofJson, nameMapOf, givenOr, fieldOr, hitems,
    h.field_eq hdistinct "counters" (by simp [parts])]

theorem Character.ofJson_eq (newId : String) (h : Respelled parts j k) :
    Character.ofJson newId k = Character.ofJson newId j := by
  have hdistinct : Distinct parts := by decide
  have hfield := h.field_eq hdistinct
  obtain ⟨v, w, hv, hw, hinventory⟩ := h.exists_givenOr hdistinct "inventory" (by simp [parts])
    @Inventory.ofJson_eq (.obj [])
  unfold ofJson
  rw [hv, hw]
  simp only [nameMapOf, wholeOr, givenOr, listed, fieldOr, bind, Except.bind, hinventory,
    hfield "characterId" (by simp [parts]), hfield "name" (by simp [parts]),
    hfield "combatSkill" (by simp [parts]), hfield "endurance" (by simp [parts]),
    hfield "disciplines" (by simp [parts]), hfield "attributes" (by simp [parts]),
    hfield "coreSkills" (by simp [parts])]

theorem SeriesProgress.ofJson_eq (h : Respelled parts j k) :
    SeriesProgress.ofJson k = SeriesProgress.ofJson j := by
  have hfield := h.field_eq (by decide)
  simp only [ofJson, fieldOr, hfield "isInitialized" (by simp [parts]),
    hfield "characterId" (by simp [parts])]

theorem progressFields_eq {fs gs : List (String × Json)}
    (h : List.Forall₂ (fun f g => f.1 = g.1 ∧ Respelled SeriesProgress.parts f.2 g.2) fs gs) :
    progressFields gs = progressFields fs := by
  induction h with
  | nil => rfl
  | @cons f g _ _ hfg _ ih =>
      obtain ⟨series, v⟩ := f
      obtain ⟨series', w⟩ := g
      obtain ⟨rfl, hprogress⟩ := hfg
      rw [progressFields, progressFields, SeriesProgress.ofJson_eq hprogress, ih]

theorem PlayerProfile.ofJson_eq (h : Respelled parts j k) :
    PlayerProfile.ofJson k = PlayerProfile.ofJson j := by
  have hdistinct : Distinct parts := by decide
  have hname := h.field_eq hdistinct "name" (by simp [parts])
  have hpart : ("seriesStates", Under (Respelled SeriesProgress.parts)) ∈ parts := by simp [parts]
  obtain ⟨_, _, hv, hw, hseries⟩ := h.exists_field hdistinct hpart
  obtain ⟨hseries⟩ := hseries
  simp only [ofJson, givenOr, fieldOr, hname, hv, hw, Except.map, Option.getD_some, orElse_obj, bind,
    Except.bind, progressFields_eq hseries]

/-- **A game state is read from either of two documents** that differ in spelling only. -/
theorem GameState.ofJson_eq (newId : String) (h : Respelled parts j k) :
    GameState.ofJson newId k = GameState.ofJson newId j := by
  have hdistinct : Distinct parts := by decide
  have hfield := h.field_eq hdistinct
  obtain ⟨v, w, hv, hw, hcharacter⟩ := h.exists_givenOr hdistinct "character" (by simp [parts])
    (fun _ _ => Character.ofJson_eq newId) (.obj [])
  obtain ⟨v', w', hv', hw', hprofile⟩ := h.exists_givenOr hdistinct "profile" (by simp [parts])
    @PlayerProfile.ofJson_eq (.obj [])
  unfold ofJson
  rw [hv, hw, hv', hw']
  simp only [nameMapOf, givenOr, fieldOr, bind, Except.bind, hcharacter, hprofile,
    hfield "bookId" (by simp [parts]), hfield "seriesId" (by simp [parts]),
    hfield "sectionId" (by simp [parts]), hfield "flags" (by simp [parts])]

/-! ## Combat tables -/

/-- The fields of a row. -/
def CombatRow.parts : Parts := [("roll", Eq), ("playerLoss", Eq), ("enemyLoss", Eq)]

/-- The fields of a band. -/
def RatioBand.parts : Parts :=
  [("min", Eq), ("max", Eq), ("rolls", Each (Respelled CombatRow.parts))]

/-- **The field of a combat table.** -/
def CombatTable.parts : Parts := [("ratios", Each (Respelled RatioBand.parts))]

theorem CombatRow.ofJson_eq (h : Respelled parts j k) : CombatRow.ofJson k = CombatRow.ofJson j := by
  have hfield := h.field_eq (by decide)
  simp only [ofJson, wholeOr, fieldOr, hfield "roll" (by simp [parts]),
    hfield "playerLoss" (by simp [parts]), hfield "enemyLoss" (by simp [parts])]

theorem RatioBand.ofJson_eq (h : Respelled parts j k) : RatioBand.ofJson k = RatioBand.ofJson j := by
  have hdistinct : Distinct parts := by decide
  have hfield := h.field_eq hdistinct
  have hrows := h.records_eq hdistinct "rolls" (by simp [parts]) @CombatRow.ofJson_eq
  simp only [ofJson, wholeOr, fieldOr, hfield "min" (by simp [parts]),
    hfield "max" (by simp [parts]), hrows]

theorem CombatTable.readBands_eq {xs ys : List Json}
    (h : List.Forall₂ (Respelled RatioBand.parts) xs ys) : readBands ys = readBands xs := by
  induction h with
  | nil => rfl
  | cons hband _ ih =>
      have hread := RatioBand.ofJson_eq hband
      cases hband
      rw [readBands, readBands, hread, ih]

/-- **A combat table is read from either of two documents** that differ in spelling only. -/
theorem CombatTable.ofJson_eq (h : Respelled parts j k) :
    CombatTable.ofJson k = CombatTable.ofJson j := by
  have hpart : ("ratios", Each (Respelled RatioBand.parts)) ∈ parts := by simp [parts]
  obtain ⟨xs, ys, hxs, hys, hbands⟩ := h.exists_listed (by decide) hpart
  simp only [ofJson, h.isGiven_eq, hxs, hys, bind, Except.bind, readBands_eq hbands]

theorem CombatRow.ofJson_toJson (r : CombatRow) : CombatRow.ofJson r.toJson = .ok r := by
  unfold ofJson toJson
  rw [wholeOr_obj rfl, wholeOr_obj rfl, wholeOr_obj rfl]
  rfl

theorem RatioBand.ofJson_toJson (b : RatioBand) : RatioBand.ofJson b.toJson = .ok b := by
  unfold ofJson toJson
  rw [wholeOr_obj rfl, wholeOr_obj rfl, records_obj (fun r _ => CombatRow.ofJson_toJson r) rfl]
  rfl

theorem CombatTable.readBands_toJson (bands : List RatioBand) :
    readBands (bands.map RatioBand.toJson) = .ok bands := by
  induction bands with
  | nil => rfl
  | cons b bands ih =>
      have hread := b.ofJson_toJson
      rw [RatioBand.toJson] at hread
      rw [List.map_cons, RatioBand.toJson, readBands, hread, ih]
      rfl

/-- The document of a table gives its bands, sorted. -/
theorem CombatTable.ofJson_toJson (t : CombatTable) :
    CombatTable.ofJson t.toJson = .ok (ofBands t.bands) := by
  have hgiven : t.toJson.isGiven = true := rfl
  unfold ofJson
  rw [if_pos hgiven, toJson, listed_obj rfl]
  simp only [bind, Except.bind, readBands_toJson]
  rfl

/-! ## Rules -/

/-- The fields of a rule. -/
def Rule.parts : Parts := [("id", Eq), ("requirements", Eq), ("effects", Eq)]

/-- **The field of a catalog.** -/
def Catalog.parts : Parts := [("rules", Each (Respelled Rule.parts))]

theorem Rule.ofJson_eq (h : Respelled parts j k) : Rule.ofJson k = Rule.ofJson j := by
  have hfield := h.field_eq (by decide)
  simp only [ofJson, givenOr, listed, fieldOr, hfield "id" (by simp [parts]),
    hfield "requirements" (by simp [parts]), hfield "effects" (by simp [parts])]

theorem Catalog.readRules_eq {xs ys : List Json}
    (h : List.Forall₂ (Respelled Rule.parts) xs ys) : readRules ys = readRules xs := by
  induction h with
  | nil => rfl
  | cons hrule _ ih =>
      have hread := Rule.ofJson_eq hrule
      cases hrule
      rw [readRules, readRules, hread, ih]

/-- **A catalog is read from either of two documents** that differ in spelling only. -/
theorem Catalog.ofJson_eq (h : Respelled parts j k) : Catalog.ofJson k = Catalog.ofJson j := by
  have hpart : ("rules", Each (Respelled Rule.parts)) ∈ parts := by simp [parts]
  obtain ⟨xs, ys, hxs, hys, hrules⟩ := h.exists_listed (by decide) hpart
  simp only [ofJson, h.isGiven_eq, hxs, hys, bind, Except.bind, readRules_eq hrules]

theorem Rule.ofJson_toJson (r : Rule) : Rule.ofJson r.toJson = .ok r := by
  unfold ofJson toJson
  rw [givenOr_obj rfl, orElse_str, listed_obj rfl, listed_obj rfl]
  rfl

theorem Catalog.readRules_toJson (rules : List Rule) :
    readRules (rules.map Rule.toJson) = .ok rules := by
  induction rules with
  | nil => rfl
  | cons r rules ih =>
      have hread := r.ofJson_toJson
      rw [Rule.toJson] at hread
      rw [List.map_cons, Rule.toJson, readRules, hread, ih]
      rfl

/-- The document of a catalog gives the catalog of its rules. -/
theorem Catalog.ofJson_toJson (c : Catalog) : Catalog.ofJson c.toJson = .ok (ofRules c.rules) := by
  have hgiven : c.toJson.isGiven = true := rfl
  unfold ofJson
  rw [if_pos hgiven, toJson, listed_obj rfl]
  simp only [bind, Except.bind, readRules_toJson]
  rfl

/-- Rules are read from their documents one by one, in any spelling. -/
theorem Rule.mapM_ofJson_eq {rules : List Rule} {ds : List Json}
    (h : List.Forall₂ (fun r d => Respelled parts r.toJson d) rules ds) :
    ds.mapM Rule.ofJson = .ok rules := by
  induction h with
  | nil => rfl
  | cons hrule _ ih =>
      rw [List.mapM_cons, Rule.ofJson_eq hrule, Rule.ofJson_toJson, ih]
      rfl

/-! ## All documents -/

/-- **Names may have a capital first letter.** The document of a book, of a game state, of a combat table or of
rules is read as it is when some of its fields, at any place within it, have their names with a capital. The names
in maps and all values stay as they are. -/
theorem respelled_documents_agree :
    (∀ (b : Book) (d : Json), Respelled Book.parts b.toJson d →
      ∃ b', Book.ofJson b.toJson = .ok b' ∧ Book.ofJson d = .ok b') ∧
    (∀ (newId : String) (s : GameState) (d : Json), Respelled GameState.parts s.toJson d →
      GameState.ofJson newId d = GameState.ofJson newId s.toJson ∧
        ∀ id, s.sectionId = .str id → ∃ s', GameState.ofJson newId d = .ok s') ∧
    (∀ (t : CombatTable) (d : Json), Respelled CombatTable.parts t.toJson d →
      ∃ t', CombatTable.ofJson t.toJson = .ok t' ∧ CombatTable.ofJson d = .ok t') ∧
    (∀ (rules : List Rule) (ds : List Json),
      List.Forall₂ (fun r d => Respelled Rule.parts r.toJson d) rules ds →
        ds.mapM Rule.ofJson = .ok rules) ∧
    ∀ (c : Catalog) (d : Json), Respelled Catalog.parts c.toJson d →
      ∃ c', Catalog.ofJson c.toJson = .ok c' ∧ Catalog.ofJson d = .ok c' := by
  refine ⟨fun b d hd => ?_, fun newId s d hd => ⟨?_, fun id hid => ?_⟩, fun t d hd => ?_,
    fun _ _ => Rule.mapM_ofJson_eq, fun c d hd => ?_⟩
  · exact ⟨b.reread, b.ofJson_toJson, (Book.ofJson_eq hd).trans b.ofJson_toJson⟩
  · exact GameState.ofJson_eq newId hd
  · exact ⟨_, (GameState.ofJson_eq newId hd).trans (GameState.ofJson_toJson_of_text newId hid)⟩
  · exact ⟨_, t.ofJson_toJson, (CombatTable.ofJson_eq hd).trans t.ofJson_toJson⟩
  · exact ⟨_, c.ofJson_toJson, (Catalog.ofJson_eq hd).trans c.ofJson_toJson⟩

/-- A choice in a book, progress in a game state, a row in a combat table and a rule have names with a capital. -/
theorem respelled_documents_agree_capitals :
    let b : Book := { id := .str "dawn", sections := [{ id := "1", choices := [{ outcomes := [{}] }] }] }
    let bookDoc : Json := .obj [("Id", .str "dawn"), ("seriesId", .str ""), ("title", .str ""),
      ("frontMatter", .arr []), ("Sections", .arr [.obj [("id", .str "1"), ("title", .str ""),
        ("blocks", .arr []), ("Choices", .arr [.obj [("Text", .str ""), ("targetId", .str ""),
          ("requirements", .arr []), ("effects", .arr []), ("randomOutcomes", .arr [.obj [
            ("Min", .int 0), ("max", .int 9), ("TargetId", .str ""), ("effects", .arr [])]]),
          ("ruleIds", .arr [])]])]])]
    let profile : PlayerProfile := { series := .ofEntries [("dawn", { characterId := .str "rowan" })] }
    let s : GameState := { sectionId := .str "1", character := { id := .str "rowan" }, profile }
    let stateDoc : Json := .obj [("bookId", .str ""), ("seriesId", .str ""), ("SectionId", .str "1"),
      ("character", .obj [("CharacterId", .str "rowan"), ("name", .str ""), ("combatSkill", .int 0),
        ("endurance", .int 0), ("disciplines", .arr []), ("attributes", .obj []),
        ("coreSkills", .obj []), ("inventory", .obj [("Items", .arr []), ("counters", .obj [])])]),
      ("Profile", .obj [("name", .str ""), ("SeriesStates", .obj [("dawn",
        .obj [("isInitialized", .bool false), ("CharacterId", .str "rowan")])])]),
      ("flags", .obj [])]
    let t : CombatTable := { bands := [⟨0, 4, [⟨0, 1, 2⟩]⟩] }
    let tableDoc : Json := .obj [("ratios", .arr [.obj [("Min", .int 0), ("max", .int 4),
      ("Rolls", .arr [.obj [("Roll", .int 0), ("playerLoss", .int 1), ("EnemyLoss", .int 2)]])]])]
    let rule : Rule := { id := "meal", requirements := [], effects := [.str "meals:-1"] }
    let ruleDoc : Json := .obj [("Id", .str "meal"), ("requirements", .arr []),
      ("Effects", .arr [.str "meals:-1"])]
    let catalog : Catalog := { rules := [rule] }
    let catalogDoc : Json := .obj [("Rules", .arr [ruleDoc])]
    (Respelled Book.parts b.toJson bookDoc ∧
      ∃ b', Book.ofJson b.toJson = .ok b' ∧ Book.ofJson bookDoc = .ok b') ∧
    (Respelled GameState.parts s.toJson stateDoc ∧
      GameState.ofJson "new" stateDoc = GameState.ofJson "new" s.toJson ∧
      ∃ s', GameState.ofJson "new" stateDoc = .ok s') ∧
    (Respelled CombatTable.parts t.toJson tableDoc ∧
      ∃ t', CombatTable.ofJson t.toJson = .ok t' ∧ CombatTable.ofJson tableDoc = .ok t') ∧
    (Respelled Rule.parts rule.toJson ruleDoc ∧ [ruleDoc].mapM Rule.ofJson = .ok [rule]) ∧
    Respelled Catalog.parts catalog.toJson catalogDoc ∧
      ∃ c', Catalog.ofJson catalog.toJson = .ok c' ∧ Catalog.ofJson catalogDoc = .ok c' := by
  intro b bookDoc profile s stateDoc t tableDoc rule ruleDoc catalog catalogDoc
  have houtcome : Respelled RandomOutcome.parts (RandomOutcome.toJson {}) (.obj [("Min", .int 0),
      ("max", .int 9), ("TargetId", .str ""), ("effects", .arr [])]) :=
    .obj (.cons (.inl rfl) (.inr rfl) rfl (.cons (.inl rfl) (.inl rfl) rfl
      (.cons (.inl rfl) (.inr rfl) rfl (.cons (.inl rfl) (.inl rfl) rfl .nil))))
  have hchoice : Respelled Choice.parts (Choice.toJson { outcomes := [{}] }) (.obj [
      ("Text", .str ""), ("targetId", .str ""), ("requirements", .arr []), ("effects", .arr []),
      ("randomOutcomes", .arr [.obj [("Min", .int 0), ("max", .int 9), ("TargetId", .str ""),
        ("effects", .arr [])]]), ("ruleIds", .arr [])]) :=
    .obj (.cons (.inl rfl) (.inr rfl) rfl (.cons (.inl rfl) (.inl rfl) rfl
      (.cons (.inl rfl) (.inl rfl) rfl (.cons (.inl rfl) (.inl rfl) rfl
        (.cons (.inl rfl) (.inl rfl) (.arr (.cons houtcome .nil))
          (.cons (.inl rfl) (.inl rfl) rfl .nil))))))
  have hbook : Respelled Book.parts b.toJson bookDoc :=
    .obj (.cons (.inl rfl) (.inr rfl) rfl (.cons (.inl rfl) (.inl rfl) rfl
      (.cons (.inl rfl) (.inl rfl) rfl (.cons (.inl rfl) (.inl rfl) (.arr .nil)
        (.cons (.inl rfl) (.inr rfl) (.arr (.cons (.obj (.cons (.inl rfl) (.inl rfl) rfl
          (.cons (.inl rfl) (.inl rfl) rfl (.cons (.inl rfl) (.inl rfl) (.arr .nil)
            (.cons (.inl rfl) (.inr rfl) (.arr (.cons hchoice .nil)) .nil))))) .nil)) .nil)))))
  have hcharacter : Respelled Character.parts s.character.toJson (.obj [
      ("CharacterId", .str "rowan"), ("name", .str ""), ("combatSkill", .int 0),
      ("endurance", .int 0), ("disciplines", .arr []), ("attributes", .obj []),
      ("coreSkills", .obj []), ("inventory", .obj [("Items", .arr []), ("counters", .obj [])])]) :=
    .obj (.cons (.inl rfl) (.inr rfl) rfl (.cons (.inl rfl) (.inl rfl) rfl
      (.cons (.inl rfl) (.inl rfl) rfl (.cons (.inl rfl) (.inl rfl) rfl
        (.cons (.inl rfl) (.inl rfl) rfl (.cons (.inl rfl) (.inl rfl) rfl
          (.cons (.inl rfl) (.inl rfl) rfl (.cons (.inl rfl) (.inl rfl)
            (.obj (.cons (.inl rfl) (.inr rfl) (.arr .nil) (.cons (.inl rfl) (.inl rfl) rfl .nil)))
            .nil))))))))
  have hprofile : Respelled PlayerProfile.parts profile.toJson (.obj [("name", .str ""),
      ("SeriesStates", .obj [("dawn",
        .obj [("isInitialized", .bool false), ("CharacterId", .str "rowan")])])]) :=
    .obj (.cons (.inl rfl) (.inl rfl) rfl (.cons (.inl rfl) (.inr rfl) (.obj (.cons ⟨rfl,
      .obj (.cons (.inl rfl) (.inl rfl) rfl (.cons (.inl rfl) (.inr rfl) rfl .nil))⟩ .nil)) .nil))
  have hstate : Respelled GameState.parts s.toJson stateDoc :=
    .obj (.cons (.inl rfl) (.inl rfl) rfl (.cons (.inl rfl) (.inl rfl) rfl
      (.cons (.inl rfl) (.inr rfl) rfl (.cons (.inl rfl) (.inl rfl) hcharacter
        (.cons (.inl rfl) (.inr rfl) hprofile (.cons (.inl rfl) (.inl rfl) rfl .nil))))))
  have htable : Respelled CombatTable.parts t.toJson tableDoc :=
    .obj (.cons (.inl rfl) (.inl rfl) (.arr (.cons (.obj (.cons (.inl rfl) (.inr rfl) rfl
      (.cons (.inl rfl) (.inl rfl) rfl (.cons (.inl rfl) (.inr rfl) (.arr (.cons (.obj
        (.cons (.inl rfl) (.inr rfl) rfl (.cons (.inl rfl) (.inl rfl) rfl
          (.cons (.inl rfl) (.inr rfl) rfl .nil)))) .nil)) .nil)))) .nil)) .nil)
  have hrule : Respelled Rule.parts rule.toJson ruleDoc :=
    .obj (.cons (.inl rfl) (.inr rfl) rfl (.cons (.inl rfl) (.inl rfl) rfl
      (.cons (.inl rfl) (.inr rfl) rfl .nil)))
  have hcatalog : Respelled Catalog.parts catalog.toJson catalogDoc :=
    .obj (.cons (.inl rfl) (.inr rfl) (.arr (.cons hrule .nil)) .nil)
  obtain ⟨hbooks, hstates, htables, hrules, hcatalogs⟩ := respelled_documents_agree
  obtain ⟨hstateEq, hstateRead⟩ := hstates "new" s stateDoc hstate
  exact ⟨⟨hbook, hbooks b bookDoc hbook⟩, ⟨hstate, hstateEq, hstateRead "1" rfl⟩,
    ⟨htable, htables t tableDoc htable⟩, ⟨hrule, hrules [rule] [ruleDoc] (.cons hrule .nil)⟩,
    hcatalog, hcatalogs catalog catalogDoc hcatalog⟩

end Questbook
