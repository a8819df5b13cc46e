import Questbook.Proofs.Book
import Questbook.Proofs.Files.Document
import Questbook.Proofs.Json.Same

set_option autoImplicit false

/-! # What comes of a file of a saved game

The maps, the inventory and the profile of a game are read with faults that lie in the document only, and
so is the character, save for an infinite combat skill or endurance (`GameState.Overflows`). The section
of the game is kept by its text, which every value has that was read from a file.

So the file of a slot gives the game that it states, or it is damaged, or it is passed on that it has an
infinite number in one of these two places or a numeral that is too long (`SaveSlots.loadSlot_outcome`).
-/

namespace Questbook

open Json

/-! ## Where the reading of a game overflows -/

namespace NameMap

theorem failsInDocument_pairOf (j : Json) : FailsInDocument (pairOf j) := by
  apply (failsInDocument_items j).bind
  intro xs
  split
  · exact (failsInDocument_asText _).bind fun _ => failsOnlyBy_ok _
  · exact failsOnlyBy_error rfl

theorem inDocument_of_fillPairs {m : NameMap Json} {xs : List Json} {f : Fault}
    (h : (fillPairs m xs).2 = some f) : f.inDocument = true := by
  induction xs generalizing m with
  | nil => cases h
  | cons x xs ih =>
      rw [fillPairs] at h
      split at h
      · exact ih h
      · next g hg =>
        obtain rfl : g = f := Option.some.inj h
        exact failsInDocument_pairOf x g hg

theorem inDocument_of_fill {m : NameMap Json} {j : Json} {f : Fault}
    (h : (fill m j).2 = some f) : f.inDocument = true := by
  unfold fill at h
  split at h
  · cases h
  · split at h
    · exact inDocument_of_fillPairs h
    · next g hg =>
      obtain rfl : g = f := Option.some.inj h
      exact failsInDocument_items j g hg

theorem failsInDocument_ofJson (j : Json) : FailsInDocument (NameMap.ofJson j) := by
  intro f h
  have hfill : (fill empty j).2 = some f := by
    unfold ofJson at h
    split at h
    · cases h
    · next g hg =>
      rw [hg, Except.error.inj h]
  exact inDocument_of_fill hfill

end NameMap

theorem failsInDocument_nameMapOf (j : Json) (name : String) :
    FailsInDocument (nameMapOf j name) :=
  (failsInDocument_givenOr j name (.obj [])).bind NameMap.failsInDocument_ofJson

theorem Item.failsInDocument_ofJson (j : Json) : FailsInDocument (Item.ofJson j) :=
  (failsInDocument_fieldOr j "name" (.str "")).bind fun _ =>
    (failsInDocument_givenOr j "category" (.str generalCategory)).bind fun _ => failsOnlyBy_ok _

theorem Inventory.failsInDocument_ofJson (j : Json) : FailsInDocument (Inventory.ofJson j) :=
  (failsInDocument_records Item.failsInDocument_ofJson j "items").bind fun _ =>
    (failsInDocument_nameMapOf j "counters").bind fun _ => failsOnlyBy_ok _

/-- **Whether the combat skill or the endurance of a character is infinite,** the latter beside a combat
skill that is a whole number. -/
def Character.Overflows (j : Json) : Prop :=
  j.MeetsInfinity ["combatSkill", "endurance"]

theorem Character.overflowsIf_ofJson (newId : String) (j : Json) :
    OverflowsIf Fault.inDocument (Character.ofJson newId j) (Character.Overflows j) := by
  refine (overflowsIf_bind (failsInDocument_fieldOr j "characterId" .null) fun _ =>
    overflowsIf_bind (failsInDocument_givenOr j "name" (.str "")) fun _ =>
      (overflowsIf_wholeOr j "combatSkill" 0).wholeOr_bind fun _ =>
        (overflowsIf_wholeOr j "endurance" 0).wholeOr_bind fun _ => overflowsIf_nil ?_ j).congr ?_
  · apply (failsInDocument_listed j "disciplines").bind
    intro disciplines
    apply (failsInDocument_nameMapOf j "attributes").bind
    intro attributes
    apply (failsInDocument_nameMapOf j "coreSkills").bind
    intro coreSkills
    apply (failsInDocument_givenOr j "inventory" (.obj [])).bind
    intro inventory
    exact (Inventory.failsInDocument_ofJson inventory).bind fun _ => failsOnlyBy_ok _
  · constructor
    · rintro ⟨-, -, -, -, h⟩
      exact h
    · intro h
      obtain ⟨fs, rfl⟩ := h.exists_obj
      obtain ⟨id, hid⟩ := exists_fieldOr fs "characterId" .null
      obtain ⟨name, hname⟩ := exists_givenOr fs "name" (.str "")
      exact ⟨id, hid, name, hname, h⟩

theorem SeriesProgress.failsInDocument_ofJson (j : Json) :
    FailsInDocument (SeriesProgress.ofJson j) :=
  (failsInDocument_fieldOr j "isInitialized" (.bool false)).bind fun _ =>
    (failsInDocument_fieldOr j "characterId" .null).bind fun _ => failsOnlyBy_ok _

theorem failsInDocument_progressFields (fs : List (String × Json)) :
    FailsInDocument (progressFields fs) := by
  induction fs with
  | nil => exact failsOnlyBy_ok _
  | cons f fs ih =>
      exact (SeriesProgress.failsInDocument_ofJson f.2).bind fun _ => ih.bind fun _ => failsOnlyBy_ok _

theorem PlayerProfile.failsInDocument_ofJson (j : Json) :
    FailsInDocument (PlayerProfile.ofJson j) := by
  apply (failsInDocument_givenOr j "name" (.str "")).bind
  intro name
  apply (failsInDocument_givenOr j "seriesStates" (.obj [])).bind
  intro states
  split
  · next fs => exact (failsInDocument_progressFields fs).bind fun _ => failsOnlyBy_ok _
  · exact failsOnlyBy_error rfl

/-- **Whether the character of a game** has an infinite combat skill or endurance. -/
def GameState.Overflows (j : Json) : Prop :=
  ∃ character, j.givenOr "character" (.obj []) = .ok character ∧ Character.Overflows character

/-- The reading of a game overflows with its character. The section is kept by its text, which the value
has to have. -/
theorem GameState.overflowsIf_ofJson (newId : String) {fs : List (String × Json)}
    (hfs : (Json.obj fs).HasText) :
    OverflowsIf Fault.inDocument (GameState.ofJson newId (.obj fs)) (Overflows (.obj fs)) := by
  refine (overflowsIf_bind (failsInDocument_givenOr _ "bookId" (.str "")) fun _ =>
    overflowsIf_bind (failsInDocument_givenOr _ "seriesId" (.str "")) fun _ =>
      overflowsIf_bind (failsInDocument_givenOr _ "sectionId" (.str "")) fun sectionId =>
        overflowsIf_bind (failsInDocument_text sectionId) fun _ =>
          overflowsIf_bind (failsInDocument_givenOr _ "character" (.obj [])) fun character =>
            (Character.overflowsIf_ofJson newId character).bind_of_caught fun _ => ?_).congr ?_
  · apply (failsInDocument_givenOr _ "profile" (.obj [])).bind
    intro profile
    exact (PlayerProfile.failsInDocument_ofJson profile).bind fun _ =>
      (failsInDocument_nameMapOf _ "flags").bind fun _ => failsOnlyBy_ok _
  · constructor
    · rintro ⟨-, -, -, -, -, -, -, -, h⟩
      exact h
    · intro h
      obtain ⟨bookId, hbookId⟩ := exists_givenOr fs "bookId" (.str "")
      obtain ⟨series, hseries⟩ := exists_givenOr fs "seriesId" (.str "")
      obtain ⟨sectionId, hsectionId⟩ := exists_givenOr fs "sectionId" (.str "")
      -- what was read from a file has a text
      obtain ⟨t, ht⟩ := (handsDown_hasText.of_givenOr hfs (hasText_str "") hsectionId).text
      exact ⟨bookId, hbookId, series, hseries, sectionId, hsectionId, t, ht, h⟩

/-! ## Files of slots -/

namespace SaveSlots

variable {s : SaveSlots} {files : FileTree} {slot : Json} {p : Path} {newId : String}
  {bytes : ByteArray}

/-- The game in a slot is the one that its file states. -/
theorem load_of_read (hp : s.slotPath slot = .ok p) (hread : files.read p = .ok bytes) :
    s.load files newId slot =
      (Document.load (.badSave p.text) (GameState.ofJson newId) files p).map some := by
  have hexists := FileTree.pathExists_of_read hread
  unfold load
  simp only [hp, bind, Except.bind, hexists, if_true]
  rfl

theorem overflowsIf_of_readBytes (newId : String) {fs : List (String × Json)}
    (h : readBytes bytes = .ok (.obj fs)) :
    OverflowsIf Fault.inDocument (GameState.ofJson newId (.obj fs))
      (GameState.Overflows (.obj fs)) :=
  GameState.overflowsIf_ofJson newId (hasText_of_readBytes h)

theorem load_of_escapes (hp : s.slotPath slot = .ok p) (hread : files.read p = .ok bytes)
    {f : Fault} (h : Document.Escapes GameState.Overflows bytes f) :
    s.load files newId slot = .error f := by
  rw [load_of_read hp hread, map_eq_error_iff]
  exact Document.load_of_escapes hread (fun _ => overflowsIf_of_readBytes newId) h

/-- **What comes of the file of a slot:** the game that it states; or the fault of a damaged file; or one
of the faults that are passed on. -/
theorem loadSlot_outcome (hp : s.slotPath slot = .ok p) (hread : files.read p = .ok bytes) :
    ((∃ state, s.load files newId slot = .ok (some state) ∧ States newId bytes state) ∨
      (∃ damage, s.load files newId slot = .error (.badSave p.text damage) ∧
        Document.Damages (GameState.ofJson newId) bytes damage) ∨
      ∃ f, s.load files newId slot = .error f ∧ Document.Escapes GameState.Overflows bytes f) ∧
    (∀ f, Document.Escapes GameState.Overflows bytes f → s.load files newId slot = .error f) ∧
    (Document.Escapes GameState.Overflows bytes .longNumeral →
      ∃ t, String.fromUTF8? bytes = some t ∧ HasLongRun t.toList) := by
  refine ⟨?_, fun f => load_of_escapes hp hread, Document.Escapes.exists_longRun⟩
  have hload := Document.load_outcome (.badSave p.text) hread
    fun _ => overflowsIf_of_readBytes newId
  rw [load_of_read hp hread]
  rcases hload with ⟨state, hload, hstate⟩ | ⟨damage, hload, hdamage⟩ | ⟨f, hload, hf⟩
  · exact Or.inl ⟨state, map_eq_ok_iff.mpr ⟨state, hload, rfl⟩, hstate⟩
  · exact Or.inr (Or.inl ⟨damage, map_eq_error_iff.mpr hload, hdamage⟩)
  · exact Or.inr (Or.inr ⟨f, map_eq_error_iff.mpr hload, hf⟩)

/-! ## Games whose character is endless -/

/-- The text of a game whose character has an infinite endurance. -/
def endlessGame : ByteArray :=
  "\x7b\"character\":\x7b\"endurance\":Infinity\x7d\x7d".toUTF8

/-- A directory of saved games with the file of one slot. -/
def savedAlone (bytes : ByteArray) : FileTree where
  nodes := [(["saves"], .directory), (["saves", "s.json"], .file bytes)]

theorem read_savedAlone (bytes : ByteArray) :
    (savedAlone bytes).read { parts := ["saves", "s.json"] } = .ok bytes := by
  have hresolve : (savedAlone bytes).resolve { parts := ["saves", "s.json"] } =
      .ok ["saves", "s.json"] :=
    FileTree.resolve_eq_ok_iff.mpr ⟨by decide +kernel, by decide +kernel, rfl⟩
  exact FileTree.read_of_node? hresolve rfl

theorem slotPath_s_saves :
    slotPath { directory := { parts := ["saves"] } } (.str "s") =
      .ok { parts := ["saves", "s.json"] } := by
  rfl

theorem escapes_endlessGame : Document.Escapes GameState.Overflows endlessGame .infinite := by
  have hbytes : readBytes endlessGame =
      .ok (.obj [("character", .obj [("endurance", .float (.infinite false))])]) :=
    eq_ok_of_isSame (by decide +kernel)
  exact .infinite hbytes ⟨_, rfl, Or.inr ⟨⟨0, rfl⟩, Or.inl ⟨false, rfl⟩⟩⟩

/-- What becomes of the file of an endless game. -/
theorem loadSlot_outcome_endless :
    slotPath { directory := { parts := ["saves"] } } (.str "s") =
        .ok { parts := ["saves", "s.json"] } ∧
      (savedAlone endlessGame).read { parts := ["saves", "s.json"] } = .ok endlessGame ∧
      load { directory := { parts := ["saves"] } } (savedAlone endlessGame) "new" (.str "s") =
        .error .infinite :=
  ⟨slotPath_s_saves, read_savedAlone endlessGame,
    (loadSlot_outcome slotPath_s_saves (read_savedAlone endlessGame)).2.1 _ escapes_endlessGame⟩

/-- **An endless game** is neither loaded nor reported as damaged. -/
theorem loadSlot_not_reported :
    (savedAlone endlessGame).read { parts := ["saves", "s.json"] } = .ok endlessGame ∧
      (∀ state, load { directory := { parts := ["saves"] } } (savedAlone endlessGame) "new"
        (.str "s") ≠ .ok state) ∧
      ∀ path damage, load { directory := { parts := ["saves"] } } (savedAlone endlessGame) "new"
        (.str "s") ≠ .error (.badSave path damage) := by
  have hread := read_savedAlone endlessGame
  rw [load_of_escapes slotPath_s_saves hread escapes_endlessGame]
  exact ⟨hread, nofun, nofun⟩

end SaveSlots

end Questbook
