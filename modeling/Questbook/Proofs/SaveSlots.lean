import Questbook.Proofs.Files
import Questbook.Proofs.GameState
import Questbook.Proofs.Json.Stopped
import Questbook.Proofs.Text.Cut
import Questbook.SaveSlots

set_option autoImplicit false

/-! # Saving and loading

Saving a game writes one file and keeps all others (`saves_of_save`). What is loaded from the file of a
slot is what the bytes of this file state (`states_of_load`), and the bytes that saving has left state
no game but the one that was saved (`eq_of_states_written`), also when a fault stopped the writing.

A slot in which a game has been saved can be written again: no other file changes, and only the
document itself can stop the writing (`save_of_hasPlace`).
-/

namespace Questbook.SaveSlots

variable {s : SaveSlots} {files files' : FileTree} {slot : Json} {newId : String}
  {state : GameState} {place : List String}

/-- **Where the file of a slot is,** or would be. -/
def HasPlace (s : SaveSlots) (files : FileTree) (slot : Json) (place : List String) : Prop :=
  ∃ p, s.slotPath slot = .ok p ∧ files.resolve p = .ok place

theorem HasPlace.of_sameDirectories (h : s.HasPlace files slot place)
    (hsame : files.SameDirectories files') : s.HasPlace files' slot place := by
  obtain ⟨p, hp, hplace⟩ := h
  exact ⟨p, hp, FileTree.resolve_of_sameDirectories hsame hplace⟩

/-- **Whether bytes state a game.** -/
def States (newId : String) (bytes : ByteArray) (state : GameState) : Prop :=
  ∃ fs, Json.readBytes bytes = .ok (.obj fs) ∧ GameState.ofJson newId (.obj fs) = .ok state

/-! ## Loading -/

theorem readBytes_of_readObject {damaged : Damage → Fault} {bytes : ByteArray} {j : Json}
    (h : Document.readObject damaged bytes = .ok j) :
    ∃ fs, j = .obj fs ∧ Json.readBytes bytes = .ok (.obj fs) := by
  unfold Document.readObject at h
  split at h
  · next fs hfs =>
    cases h
    exact ⟨fs, rfl, hfs⟩
  · cases h
  · cases h
  · cases h

theorem eq_ok_of_sound {α : Type} {damaged : Damage → Fault} {r : Except Fault α} {a : α}
    (h : Document.sound damaged r = .ok a) : r = .ok a := by
  cases r with
  | ok b => exact h
  | error f =>
      unfold Document.sound at h
      cases h

/-- **What is loaded is what the file of the slot states.** -/
theorem states_of_load {bytes : ByteArray} (hplace : s.HasPlace files slot place)
    (hnode : files.node? place = some (.file bytes))
    (h : s.load files newId slot = .ok (some state)) : States newId bytes state := by
  obtain ⟨p, hp, hresolve⟩ := hplace
  have hread := FileTree.read_of_node? hresolve hnode
  obtain ⟨p', hp', h⟩ := bind_eq_ok_iff.mp h
  obtain rfl : p = p' := Except.ok.inj (hp.symm.trans hp')
  split at h
  · obtain ⟨state', hload, heq⟩ := bind_eq_ok_iff.mp h
    obtain rfl : state' = state := by
      cases heq
      rfl
    obtain ⟨bytes', hbytes, hload⟩ := bind_eq_ok_iff.mp hload
    obtain rfl : bytes = bytes' := Except.ok.inj (hread.symm.trans hbytes)
    obtain ⟨document, hdocument, hload⟩ := bind_eq_ok_iff.mp hload
    obtain ⟨fs, rfl, hfs⟩ := readBytes_of_readObject hdocument
    exact ⟨fs, hfs, eq_ok_of_sound hload⟩
  · cases h

/-! ## Saving -/

/-- The bytes that saving a game leaves, whether or not they are all of its document. -/
def writtenBytes (state : GameState) : ByteArray :=
  (writtenDocument state.toJson).1.toUTF8

/-- **Written bytes state no game but the one that was saved.** -/
theorem eq_of_states_written {state' : GameState} (hplain : state.Plain)
    (hsettled : state.Settled newId) (h : States newId (writtenBytes state) state') :
    state' = state := by
  obtain ⟨fs, hread, hstate⟩ := h
  unfold writtenBytes writtenDocument at hread
  split at hread
  · next t f hstopped =>
    -- a document that was not written to its end states nothing
    obtain ⟨e, he⟩ := Json.readBytes_of_stopped hplain.toJson hstopped
    rw [he] at hread
    cases hread
  · next hwhole =>
    rw [Json.readBytes_render hplain.toJson hwhole] at hread
    rw [← Except.ok.inj hread, GameState.ofJson_toJson hsettled] at hstate
    exact (Except.ok.inj hstate).symm

/-- What is written to a file, whatever becomes of the writing. -/
theorem write_of_writeDocument {p : Path} {j : Json} {r : Except Fault Unit}
    (h : writeDocument files p j = (r, files')) :
    (∃ f, r = .error f ∧ files' = files) ∨
      files.write p (writtenDocument j).1.toUTF8 = .ok files' := by
  unfold writeDocument at h
  cases hw : writtenDocument j with
  | mk text stopped =>
      rw [hw] at h
      dsimp only at h ⊢
      split at h
      · next f hf =>
        obtain ⟨rfl, rfl⟩ := Prod.mk.inj h
        exact Or.inl ⟨f, rfl, rfl⟩
      · next written hwritten =>
        cases stopped <;> cases h <;> exact Or.inr hwritten

/-- **What saving does to the files.** Directories stay directories, and a file keeps its bytes or is
the one that was written. If the game is saved, this is the file of the slot. -/
structure Saves (s : SaveSlots) (files : FileTree) (slot : Json) (state : GameState)
    (r : Except Fault Path) (files' : FileTree) : Prop where
  sameDirectories : files.SameDirectories files'
  kept : ∀ place bytes, files.node? place = some (.file bytes) →
    files'.node? place = some (.file bytes) ∨
      files'.node? place = some (.file (writtenBytes state))
  written : ∀ p, r = .ok p → ∃ place, s.HasPlace files' slot place ∧
    files'.node? place = some (.file (writtenBytes state))

/-- A fault before the writing takes nothing away. -/
theorem saves_of_standsIn (h : files.StandsIn files') (f : Fault) :
    s.Saves files slot state (.error f) files' :=
  ⟨h.sameDirectories, fun place _ hnode => Or.inl (h.kept place _ hnode), nofun⟩

/-- The directory has been made, and the file of the slot is written. -/
theorem saves_of_write {tree : FileTree} {p : Path} (hstands : files.StandsIn tree)
    (hp : s.slotPath slot = .ok p) (hwrite : tree.write p (writtenBytes state) = .ok files')
    (r : Except Fault Path) : s.Saves files slot state r files' := by
  obtain ⟨place, hplace, -, -, hnode⟩ := FileTree.exists_place_of_write hwrite
  have hsame := FileTree.sameDirectories_write hwrite
  refine ⟨hstands.sameDirectories.trans hsame, ?_, ?_⟩
  · intro place' bytes hbytes
    rw [hnode]
    by_cases heq : place' = place
    · rw [if_pos heq]
      exact Or.inr rfl
    · rw [if_neg heq]
      exact Or.inl (hstands.kept place' _ hbytes)
  · intro _ _
    refine ⟨place, ⟨p, hp, FileTree.resolve_of_sameDirectories hsame hplace⟩, ?_⟩
    rw [hnode, if_pos rfl]

/-- **Saving writes one file,** or none. -/
theorem saves_of_save {r : Except Fault Path} (h : s.save files slot state = (r, files')) :
    s.Saves files slot state r files' := by
  unfold save at h
  split at h
  · next f _ =>
    obtain ⟨rfl, rfl⟩ := Prod.mk.inj h
    exact saves_of_standsIn (FileTree.standsIn_refl files) f
  next tree htree =>
  have hstands := FileTree.standsIn_ensureDirectory htree
  split at h
  · next f _ =>
    obtain ⟨rfl, rfl⟩ := Prod.mk.inj h
    exact saves_of_standsIn hstands f
  next p hp =>
  cases hw : writeDocument tree p state.toJson with
  | mk w written =>
      rw [hw] at h
      obtain ⟨rfl, rfl⟩ := Prod.mk.inj h
      rcases write_of_writeDocument hw with ⟨f, rfl, rfl⟩ | hwrite
      · exact saves_of_standsIn hstands f
      · exact saves_of_write hstands hp hwrite _

/-- **What a save that succeeds has done:** the document was written to its end, and elsewhere nothing
was taken away. -/
theorem written_of_save {p : Path} (h : s.save files slot state = (.ok p, files')) :
    ∃ place, s.HasPlace files' slot place ∧
      files'.node? place = some (.file (writtenBytes state)) ∧
      (writtenDocument state.toJson).2 = none ∧
      ∀ other node, other ≠ place → files.node? other = some node →
        files'.node? other = some node := by
  unfold save at h
  split at h
  · cases h
  next tree htree =>
  split at h
  · cases h
  next p' hp =>
  unfold writeDocument at h
  cases hw : writtenDocument state.toJson with
  | mk text stopped =>
      rw [hw] at h
      dsimp only at h
      split at h
      · cases h
      next written hwrite =>
      cases stopped with
      | some f => cases h
      | none =>
          obtain ⟨-, rfl⟩ := Prod.mk.inj h
          have hbytes : writtenBytes state = text.toUTF8 := by
            unfold writtenBytes
            rw [hw]
          obtain ⟨place, hplace, -, -, hnodes⟩ := FileTree.exists_place_of_write hwrite
          have hsame := FileTree.sameDirectories_write hwrite
          refine ⟨place, ⟨p', hp, FileTree.resolve_of_sameDirectories hsame hplace⟩, ?_, rfl, ?_⟩
          · rw [hnodes, if_pos rfl, hbytes]
          · intro other node hother hnode
            rw [hnodes, if_neg hother]
            exact (FileTree.standsIn_ensureDirectory htree).kept other node hnode

/-! ## Saving again -/

/-- A name without slashes is the name of something in a directory. -/
theorem join_of_notMem (dir : Path) {name : String} (hslash : '/' ∉ name.toList)
    (hpart : Path.isPart name.toList = true) :
    dir.join name = { dir with parts := dir.parts ++ [name] } := by
  have hroot : Path.rootOf name.toList = "" := by
    cases hcs : name.toList with
    | nil => rfl
    | cons c cs =>
        have hc : c ≠ '/' := by
          rintro rfl
          exact hslash (by simp [hcs])
        unfold Path.rootOf
        split
        · next h => exact absurd (List.cons.inj h).1 hc
        · next h => exact absurd (List.cons.inj h).1 hc
        · next h => exact absurd (List.cons.inj h).1 hc
        · rfl
  have hparts : Path.partsOf name.toList = [name] := by
    unfold Path.partsOf
    rw [Text.splitAt_of_notMem hslash]
    simp [hpart]
  unfold Path.join Path.parse
  simp only [hroot, hparts, if_true]

theorem isBarredChar_of_mem_withoutBarred {text : String} {c : Char}
    (h : c ∈ (withoutBarred text).toList) : isBarredChar c = false := by
  unfold withoutBarred at h
  rw [String.toList_ofList] at h
  obtain ⟨d, -, hd⟩ := List.mem_map.mp h
  split at hd
  · rw [← hd]
    decide
  · next hbarred =>
    rw [← hd]
    exact Bool.not_eq_true _ ▸ hbarred

theorem fileName_toList (stem : String) :
    (Document.fileName stem).toList = stem.toList ++ ['.', 'j', 's', 'o', 'n'] :=
  String.toList_append

/-- **The file of a slot lies in the directory of saved games.** -/
theorem join_fileName (dir : Path) (text : String) :
    dir.join (Document.fileName (withoutBarred text)) =
      { dir with parts := dir.parts ++ [Document.fileName (withoutBarred text)] } := by
  refine join_of_notMem dir ?_ ?_
  · rw [fileName_toList, List.mem_append, not_or]
    refine ⟨fun hmem => ?_, by decide⟩
    exact absurd (isBarredChar_of_mem_withoutBarred hmem) (by decide)
  · rw [fileName_toList]
    unfold Path.isPart
    cases (withoutBarred text).toList <;> simp

theorem exists_of_slotName {name : String} (h : slotName slot = .ok name) :
    ∃ text, name = withoutBarred text := by
  unfold slotName at h
  split at h
  · cases h
  · obtain ⟨text, -, h⟩ := bind_eq_ok_iff.mp h
    split at h
    · cases h
    · cases h
      exact ⟨text, rfl⟩

theorem slotPath_eq {p : Path} (h : s.slotPath slot = .ok p) :
    ∃ name, p = { s.directory with parts := s.directory.parts ++ [name] } := by
  obtain ⟨name, hname, hp⟩ := bind_eq_ok_iff.mp h
  obtain ⟨text, rfl⟩ := exists_of_slotName hname
  cases hp
  exact ⟨_, join_fileName s.directory text⟩

/-- The path of the file of a slot that is a text. -/
def filePath (s : SaveSlots) (slot : String) : Path :=
  s.directory.join (Document.fileName (withoutBarred slot))

theorem slotPath_of_blank {slot : String} (h : Text.isBlank slot = true) :
    s.slotPath (.str slot) = .error (.required "slot") := by
  have hname : slotName (.str slot) = .error (.required "slot") := if_pos h
  unfold slotPath
  rw [hname]
  rfl

theorem slotName_of_not_blank {slot : String} (h : Text.isBlank slot = false) :
    slotName (.str slot) = .ok (withoutBarred slot) :=
  if_neg (Bool.not_eq_true _ ▸ h)

theorem slotPath_of_not_blank {slot : String} (h : Text.isBlank slot = false) :
    s.slotPath (.str slot) = .ok (s.filePath slot) := by
  unfold slotPath
  rw [slotName_of_not_blank h]
  rfl

/-- What saving a game answers once its file could be written. -/
def answer (p : Path) (state : GameState) : Except Fault Path :=
  match (writtenDocument state.toJson).2 with
  | none => .ok p
  | some f => .error f

/-- **Saving a game again** changes the file of the slot and no other. -/
theorem save_of_hasPlace {bytes : ByteArray} (hplace : s.HasPlace files slot place)
    (hnode : files.node? place = some (.file bytes)) (state : GameState) :
    ∃ p files', s.save files slot state = (answer p state, files') ∧
      FileTree.DifferAt place files files' ∧
      files'.node? place = some (.file (writtenBytes state)) := by
  obtain ⟨p, hp, hresolve⟩ := hplace
  obtain ⟨name, hname⟩ := slotPath_eq hp
  have hdirectory : files.isDirectory s.directory = true :=
    FileTree.isDirectory_of_resolve_append (hname ▸ hresolve)
  have hensured := FileTree.ensureDirectory_of_isDirectory hdirectory
  have hwrite : files.write p (writtenBytes state) =
      .ok (files.put place (.file (writtenBytes state))) := by
    unfold FileTree.write
    rw [hresolve]
    simp only [bind, Except.bind, hnode]
    rfl
  obtain ⟨place', hplace', -, hhome, hnodes⟩ := FileTree.exists_place_of_write hwrite
  obtain rfl : place = place' := Except.ok.inj (hresolve.symm.trans hplace')
  have hwritten := hnodes place
  rw [if_pos rfl] at hwritten
  refine ⟨p, _, ?_, ⟨hhome, ?_, ⟨bytes, hnode⟩, ⟨_, hwritten⟩⟩, hwritten⟩
  · unfold save
    rw [hensured, hp]
    unfold writtenBytes at hwrite
    unfold writeDocument answer writtenBytes
    cases hdocument : writtenDocument state.toJson with
    | mk text stopped =>
        rw [hdocument] at hwrite
        simp only [hwrite]
        cases stopped <;> rfl
  · intro other hother
    rw [hnodes, if_neg hother]

end Questbook.SaveSlots
