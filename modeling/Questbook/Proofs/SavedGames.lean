import Questbook.Proofs.Game.Reached
import Questbook.Proofs.Json.Storable
import Questbook.Proofs.SaveSlots

set_option autoImplicit false

/-! # Saved games load back

A reached state whose document can be stored is loaded from its slot as it was saved, and nothing but
the file system can keep it from being saved (`load_of_save_of_reached`). Only an item with an empty
category comes back in the general one (`load_of_save_changes_category`).

The bytes of the file state the document (`Json.Storable.readBytes_render`), and the document states the
game (`GameState.Reached.ofJson_toJson`); this module joins the two along the path of the slot.
-/

namespace Questbook

/-! ## Writing -/

/-- Whether a file can be written does not depend on its bytes. -/
theorem FileTree.write_eq_error {t : FileTree} {p : Path} {bytes : ByteArray} {f : Fault}
    (h : t.write p bytes = .error f) (bytes' : ByteArray) : t.write p bytes' = .error f := by
  unfold write at h ⊢
  cases hplace : t.resolve p with
  | error e =>
      rw [hplace] at h
      exact h
  | ok place =>
      rw [hplace] at h
      simp only [bind, Except.bind] at h ⊢
      split at h
      · exact h
      · cases h

namespace SaveSlots

variable {s : SaveSlots} {files files' : FileTree} {slot : Json} {newId : String}
  {state loaded : GameState} {place : List String}

/-- **Whether the file system keeps a game from being saved:** the directory cannot be made, or no
file can be written at the path of the slot. -/
def Bars (s : SaveSlots) (files : FileTree) (slot : Json) (f : Fault) : Prop :=
  files.ensureDirectory s.directory = .error f ∨
    ∃ tree p, files.ensureDirectory s.directory = .ok tree ∧ s.slotPath slot = .ok p ∧
      ∀ bytes, tree.write p bytes = .error f

/-- A document that can be stored is written as a whole. -/
theorem writtenDocument_of_storable {j : Json} (h : j.Storable) :
    writtenDocument j = (j.render, none) := by
  unfold writtenDocument
  rw [h.stoppedAt?_eq_none]

/-- **A game that can be stored is saved,** unless the file system bars it. -/
theorem save_of_storable {slot : String} (hslot : Text.isBlank slot = false)
    (hstorable : state.toJson.Storable) {r : Except Fault Path}
    (h : s.save files (.str slot) state = (r, files')) :
    (∃ p, r = .ok p) ∨ ∃ f, r = .error f ∧ s.Bars files (.str slot) f := by
  have hp := slotPath_of_not_blank (s := s) hslot
  generalize s.filePath slot = p at hp
  unfold save at h
  split at h
  · next f hf =>
    obtain ⟨rfl, -⟩ := Prod.mk.inj h
    exact Or.inr ⟨f, rfl, Or.inl hf⟩
  next tree htree =>
  rw [hp] at h
  simp only [writeDocument, writtenDocument_of_storable hstorable] at h
  cases hwrite : tree.write p state.toJson.render.toUTF8 with
  | error f =>
      rw [hwrite] at h
      obtain ⟨rfl, -⟩ := Prod.mk.inj h
      exact Or.inr ⟨f, rfl, Or.inr ⟨tree, p, htree, hp, FileTree.write_eq_error hwrite⟩⟩
  | ok written =>
      rw [hwrite] at h
      obtain ⟨rfl, -⟩ := Prod.mk.inj h
      exact Or.inl ⟨p, rfl⟩

/-! ## Loading -/

/-- **A game is loaded from the bytes that state it.** -/
theorem load_of_states {bytes : ByteArray} (hplace : s.HasPlace files slot place)
    (hnode : files.node? place = some (.file bytes)) (h : States newId bytes state) :
    s.load files newId slot = .ok (some state) := by
  obtain ⟨p, hp, hresolve⟩ := hplace
  obtain ⟨fs, hfs, hstate⟩ := h
  have hexists : files.pathExists p = true := by
    unfold FileTree.pathExists FileTree.stat
    rw [hresolve]
    simp only [bind, Except.bind, hnode]
    rfl
  have hdocument : ∀ damaged, Document.readObject damaged bytes = .ok (.obj fs) := by
    intro damaged
    unfold Document.readObject
    rw [hfs]
  unfold load
  rw [hp]
  simp only [bind, Except.bind, hexists, if_true, Document.load,
    FileTree.read_of_node? hresolve hnode, hdocument, hstate, Document.sound]
  rfl

theorem readBytes_writtenBytes (hstorable : state.toJson.Storable) :
    Json.readBytes (writtenBytes state) = .ok state.toJson := by
  unfold writtenBytes
  rw [writtenDocument_of_storable hstorable]
  exact hstorable.readBytes_render

/-- The bytes that saving a game leaves state what its document states. -/
theorem states_writtenBytes (hstate : ∀ newId, GameState.ofJson newId state.toJson = .ok loaded)
    (hstorable : state.toJson.Storable) (newId : String) :
    States newId (writtenBytes state) loaded :=
  ⟨_, readBytes_writtenBytes hstorable, hstate newId⟩

/-- **What has been saved is loaded,** as its document states it. -/
theorem load_of_save {slot : String} {p : Path}
    (hstate : ∀ newId, GameState.ofJson newId state.toJson = .ok loaded)
    (hstorable : state.toJson.Storable) (hsave : s.save files (.str slot) state = (.ok p, files'))
    (newId : String) : s.load files' newId (.str slot) = .ok (some loaded) := by
  obtain ⟨place, hplace, hnode⟩ := (saves_of_save hsave).written p rfl
  exact load_of_states hplace hnode (states_writtenBytes hstate hstorable newId)

/-- What is written to its end could be stored. -/
theorem storable_of_writtenDocument (hplain : state.Plain)
    (h : (writtenDocument state.toJson).2 = none) : state.toJson.Storable := by
  unfold writtenDocument at h
  split at h
  · cases h
  · next hwhole => exact Json.storable_of_stoppedAt? _ hplain.toJson hwhole

/-- A state that can be stored is saved without a fault. -/
theorem answer_of_storable (hstorable : state.toJson.Storable) (p : Path) :
    answer p state = .ok p := by
  unfold answer
  rw [writtenDocument_of_storable hstorable]

/-- A state that cannot be stored is saved with a fault. -/
theorem exists_answer_of_not_storable (hplain : state.Plain) (hnot : ¬ state.toJson.Storable)
    (p : Path) : ∃ f, answer p state = .error f := by
  unfold answer
  cases hstopped : (writtenDocument state.toJson).2 with
  | none => exact absurd (storable_of_writtenDocument hplain hstopped) hnot
  | some f => exact ⟨f, rfl⟩

end SaveSlots

/-- **A saved game loads back.** A reached state is what its document states, and if the document can be
stored, the state is loaded from every slot in which it was saved; saving fails only where the file
system bars it. An item with an empty category is in the general one then. There is no such item unless
an effect adds one, and so the state is unchanged. -/
theorem load_of_save_of_reached {allowed : Change → Prop} {state : GameState}
    (hreached : state.Reached allowed) (hstorable : state.toJson.Storable) {slot : String}
    (hslot : Text.isBlank slot = false) {s : SaveSlots} {files files' : FileTree}
    {r : Except Fault Path} (hsave : s.save files (.str slot) state = (r, files')) (newId : String) :
    GameState.ofJson newId state.toJson = .ok state.withCategories ∧
      ((∃ p, r = .ok p ∧ s.load files' newId (.str slot) = .ok (some state.withCategories)) ∨
        ∃ f, r = .error f ∧ s.Bars files (.str slot) f) ∧
      ((∀ change, allowed change → change.NamesCategory) → state.withCategories = state) := by
  refine ⟨hreached.ofJson_toJson newId, ?_, fun hallowed =>
    GameState.withCategories_eq_self (hreached.haveCategories hallowed)⟩
  rcases SaveSlots.save_of_storable hslot hstorable hsave with ⟨p, rfl⟩ | hbarred
  · exact Or.inl ⟨p, rfl, SaveSlots.load_of_save hreached.ofJson_toJson hstorable hsave newId⟩
  · exact Or.inr hbarred

/-! ## A game with marks in its texts -/

/-- A character whose name has a quote, a backslash, a line separator and a control character. -/
def markedCharacter : Character where
  id := .str "c"
  name := .str "Zoë \"\\ \u2028\u0001"
  combatSkill := 15
  endurance := 20
  attributes := NameMap.ofEntries [("Gold", .int 3), ("Straße", .int (-4))]

/-- A game of this character. -/
def markedGame : GameState where
  bookId := .str "b"
  sectionId := .str "1"
  character := markedCharacter
  flags := NameMap.ofEntries [("Met", .bool true)]

/-- Effects that add an item, a counter and a discipline. -/
def markedEffects : List Effect :=
  [⟨.addItem "Rope" generalCategory, "item:add:Rope"⟩,
    ⟨.updateCounter "Meals" (.shift 2), "counter:Meals:+2"⟩,
    ⟨.grantDiscipline "Jagd", "discipline:Jagd"⟩]

/-- The game after these effects. -/
def equippedGame : GameState :=
  (applyAll { state := markedGame, flags := .empty } markedEffects).1.state

/-- Where the game is saved. -/
def markedSlots : SaveSlots where
  directory := { parts := ["saves"] }

/-- The game is read, equipped, and saved in a slot whose name cannot be the name of a file. -/
theorem load_of_save_of_reached_equipped :
    equippedGame.Reached Change.NamesCategory ∧ equippedGame.toJson.Storable ∧
      Text.isBlank "a/b" = false ∧
      ∃ files p, markedSlots.save {} (.str "a/b") equippedGame = (.ok p, files) ∧
        GameState.ofJson "d" equippedGame.toJson = .ok equippedGame ∧
        markedSlots.load files "d" (.str "a/b") = .ok (some equippedGame) := by
  have hread : GameState.ofJson "c" markedGame.toJson = .ok markedGame := rfl
  have hreached : equippedGame.Reached Change.NamesCategory := by
    refine .applies (.reads (by decide) hread) .empty ?_
    simp [markedEffects, Change.NamesCategory, generalCategory]
  have hstorable : equippedGame.toJson.Storable := by decide +kernel
  have hslot : Text.isBlank "a/b" = false := by decide +kernel
  have hsaves : (markedSlots.save {} (.str "a/b") equippedGame).1.toBool = true := by
    decide +kernel
  refine ⟨hreached, hstorable, hslot, ?_⟩
  cases hsave : markedSlots.save {} (.str "a/b") equippedGame with
  | mk r files =>
      rw [hsave] at hsaves
      obtain ⟨hstated, hloaded, hsame⟩ :=
        load_of_save_of_reached hreached hstorable hslot hsave "d"
      rw [hsame fun _ hnames => hnames] at hstated hloaded
      rcases hloaded with ⟨p, rfl, hload⟩ | ⟨f, rfl, -⟩
      · exact ⟨files, p, rfl, hstated, hload⟩
      · cases hsaves

/-- The game after an item has been added to an empty category. -/
def unsortedGame : GameState :=
  (applyAll { state := markedGame, flags := .empty } [⟨.addItem "Rope" "", ""⟩]).1.state

/-- **An empty category does not come back:** the game is read, given an item, and saved, and what is
loaded is another game. -/
theorem load_of_save_changes_category :
    unsortedGame.Reached (fun _ => True) ∧ unsortedGame.toJson.Storable ∧ Text.isBlank "a" = false ∧
      ∃ files p, markedSlots.save {} (.str "a") unsortedGame = (.ok p, files) ∧
        markedSlots.load files "d" (.str "a") ≠ .ok (some unsortedGame) := by
  have hread : GameState.ofJson "c" markedGame.toJson = .ok markedGame := rfl
  have hreached : unsortedGame.Reached fun _ => True :=
    .applies (.reads (by decide) hread) .empty fun _ _ => trivial
  have hstorable : unsortedGame.toJson.Storable := by decide +kernel
  have hsaves : (markedSlots.save {} (.str "a") unsortedGame).1.toBool = true := by decide +kernel
  -- the category of the rope tells the two games apart
  have hcategories : unsortedGame.withCategories.character.inventory.items.map (·.category.isGiven) ≠
      unsortedGame.character.inventory.items.map (·.category.isGiven) := by decide +kernel
  refine ⟨hreached, hstorable, by decide +kernel, ?_⟩
  cases hsave : markedSlots.save {} (.str "a") unsortedGame with
  | mk r files =>
      rw [hsave] at hsaves
      obtain ⟨p, rfl⟩ := exists_of_toBool hsaves
      refine ⟨files, p, rfl, fun hload => hcategories ?_⟩
      rw [SaveSlots.load_of_save hreached.ofJson_toJson hstorable hsave "d"] at hload
      rw [Option.some.inj (Except.ok.inj hload)]

end Questbook
