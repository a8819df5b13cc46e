import Mathlib.Data.List.AList
import Questbook.Proofs.SavedGames
import Questbook.Proofs.SaveSlots.Key

set_option autoImplicit false

/-! # What a directory of saved games stores

A directory stores the games of a map (`Stores`) when its documents are the files of the keys of the
map, and each of these files has been written for the game of its key. Then loading, deleting and
listing give what the map has (`load_eq`, `delete_eq`, `slots_eq`), and what saving and deleting leave
is what the changed map has (`put`, `drop`).

The games have to load back unchanged (`LoadsBack`); a game that does not is saved all the same, but
it is not what is loaded.
-/

namespace Questbook.SaveSlots

/-! ## Games that load back -/

/-- **Whether a game loads back unchanged:** its document is written to its end, and what has been
written states the game. -/
structure LoadsBack (state : GameState) : Prop where
  whole : (writtenDocument state.toJson).2 = none
  states : ∀ newId, States newId (writtenBytes state) state

theorem loadsBack_of_storable {state : GameState}
    (hstate : ∀ newId, GameState.ofJson newId state.toJson = .ok state)
    (hstorable : state.toJson.Storable) : LoadsBack state where
  whole := by rw [writtenDocument_of_storable hstorable]
  states := states_writtenBytes hstate hstorable

/-! ## What the directory holds -/

/-- **Saved games,** each under the key of its slots. -/
abbrev Games := AList fun _ : String => GameState

/-- **Whether a directory stores the games of a map** and no others. -/
structure Stores (s : SaveSlots) (files : FileTree) (place : List String) (games : Games) :
    Prop where
  resolve : files.resolve s.directory = .ok place
  directory : files.node? place = some .directory
  names : (files.documentNames place).Perm (games.keys.map Document.fileName)
  node : ∀ k, files.node? (place ++ [Document.fileName k]) =
    (games.lookup k).map fun state => .file (writtenBytes state)
  keys : ∀ k ∈ games, ∃ slot, Text.isBlank slot = false ∧ Text.isEncodableName slot = true ∧
    k = key slot
  loads : ∀ k state, games.lookup k = some state → LoadsBack state

variable {s : SaveSlots} {files files' : FileTree} {place : List String} {games : Games}
  {slot newId : String} {state : GameState}

theorem erase_of_notMem {k : String} (h : k ∉ games) : games.erase k = games :=
  AList.ext (List.kerase_of_notMem_keys (mt AList.mem_keys.mpr h))

/-- A directory without documents holds no game. -/
theorem stores_empty (hplace : files.resolve s.directory = .ok place)
    (hnode : files.node? place = some .directory) (h : files.documents s.directory = []) :
    s.Stores files place ∅ := by
  have hnames : files.documentNames place = [] := by
    rw [FileTree.documents_eq hplace hnode] at h
    have hlength := congrArg List.length h
    rw [List.length_mergeSort, List.length_map] at hlength
    exact List.length_eq_zero_iff.mp hlength
  refine ⟨hplace, hnode, ?_, ?_, nofun, nofun⟩
  · rw [hnames]
    exact List.Perm.nil
  · intro k
    refine FileTree.node?_eq_none_iff.mpr fun hmem => ?_
    have hdocument : Document.fileName k ∈ files.documentNames place :=
      List.mem_filter.mpr ⟨hmem, isDocumentName_fileName k⟩
    rw [hnames] at hdocument
    cases hdocument

/-- Different games have different places. -/
theorem place_ne (place : List String) {k other : String} (h : k ≠ other) :
    place ++ [Document.fileName k] ≠ place ++ [Document.fileName other] := by
  intro heq
  have hname := List.singleton_inj.mp (List.append_cancel_left heq)
  exact h (fileName_injective hname)

namespace Stores

theorem fileName_mem_iff (h : s.Stores files place games) (k : String) :
    Document.fileName k ∈ files.documentNames place ↔ k ∈ games := by
  rw [h.names.mem_iff, List.mem_map, AList.mem_keys]
  constructor
  · rintro ⟨other, hother, hname⟩
    exact fileName_injective hname ▸ hother
  · intro hk
    exact ⟨k, hk, rfl⟩

/-- Nothing but a file stands at the place of a game. -/
theorem node_ne_directory (h : s.Stores files place games) (k : String) :
    files.node? (place ++ [Document.fileName k]) ≠ some .directory := by
  rw [h.node]
  cases games.lookup k <;> simp

/-- A change at the place of a game leaves the directories as they are. -/
theorem sameDirectories (h : s.Stores files place games) {k : String} (hhome : files'.home = files.home)
    (hothers : ∀ other, other ≠ place ++ [Document.fileName k] →
      files'.node? other = files.node? other) : files.SameDirectories files' := by
  refine ⟨hhome, fun other hother => ?_⟩
  rw [hothers]
  · exact hother
  · rintro rfl
    exact h.node_ne_directory k hother

/-! ### Saving and deleting one game -/

/-- A file is listed once, whether it is new or written again. -/
theorem perm_documentNames_put (h : s.Stores files place games) (k : String) (state : GameState)
    (node : FileNode) :
    ((files.put (place ++ [Document.fileName k]) node).documentNames place).Perm
      ((games.insert k state).keys.map Document.fileName) := by
  rw [FileTree.documentNames_put (isDocumentName_fileName k) (h.node_ne_directory k),
    AList.keys_insert, List.map_cons]
  simp only [h.fileName_mem_iff]
  by_cases hmem : k ∈ games
  · -- the key moves to the front of the map, and its file stays where it is
    have hkeys := (List.perm_cons_erase (AList.mem_keys.mp hmem)).map Document.fileName
    rw [if_pos hmem, ← List.map_cons]
    exact h.names.trans hkeys
  · have hkeys : games.keys.erase k = games.keys :=
      List.erase_of_not_mem (mt AList.mem_keys.mpr hmem)
    rw [if_neg hmem, hkeys]
    exact (List.perm_append_singleton _ _).trans (h.names.cons _)

theorem perm_documentNames_drop (h : s.Stores files place games) (k : String) :
    ((files.drop (place ++ [Document.fileName k])).documentNames place).Perm
      ((games.erase k).keys.map Document.fileName) := by
  have hother : ∀ other, decide (Document.fileName other ≠ Document.fileName k) = (other != k) := by
    intro other
    by_cases hk : other = k
    · simp [hk]
    · simp [hk, mt fileName_injective hk]
  have hkeys : (games.keys.map Document.fileName).filter (fun n => n ≠ Document.fileName k) =
      (games.erase k).keys.map Document.fileName := by
    rw [AList.keys_erase, games.keys_nodup.erase_eq_filter, List.filter_map]
    exact congrArg (List.map _) (congrArg (List.filter · games.keys) (funext hother))
  rw [FileTree.documentNames_drop (h.node_ne_directory k), ← hkeys]
  exact h.names.filter _

/-- **A file that is written is a game that is saved.** -/
theorem put (h : s.Stores files place games) (hslot : Text.isBlank slot = false)
    (hencodable : Text.isEncodableName slot = true) (hloads : LoadsBack state) :
    s.Stores
      (files.put (place ++ [Document.fileName (key slot)]) (.file (writtenBytes state))) place
      (games.insert (key slot) state) := by
  have hput := FileTree.node?_put (h.node_ne_directory (key slot)) (.file (writtenBytes state))
  have hhome : (files.put (place ++ [Document.fileName (key slot)])
      (.file (writtenBytes state))).home = files.home := rfl
  have hsame := h.sameDirectories hhome fun other hother => (hput other).trans (if_neg hother)
  have hresolve := FileTree.resolve_of_sameDirectories hsame h.resolve
  have hnames := h.perm_documentNames_put (key slot) state (.file (writtenBytes state))
  refine ⟨hresolve, hsame.kept place h.directory, hnames, fun k => ?_, fun k hk => ?_,
    fun k other hother => ?_⟩
  · rw [hput]
    by_cases hk : k = key slot
    · rw [hk, if_pos rfl, AList.lookup_insert]
      rfl
    · rw [if_neg (place_ne place hk), AList.lookup_insert_ne hk]
      exact h.node k
  · rcases (AList.mem_insert games).mp hk with rfl | hk
    · exact ⟨slot, hslot, hencodable, rfl⟩
    · exact h.keys k hk
  · by_cases hk : k = key slot
    · rw [hk, AList.lookup_insert] at hother
      cases hother
      exact hloads
    · rw [AList.lookup_insert_ne hk] at hother
      exact h.loads k other hother

/-- **A file that is dropped is a game that is deleted.** -/
theorem drop (h : s.Stores files place games) (k : String) :
    s.Stores (files.drop (place ++ [Document.fileName k])) place (games.erase k) := by
  have hdrop := FileTree.node?_drop (h.node_ne_directory k)
  have hhome : (files.drop (place ++ [Document.fileName k])).home = files.home := rfl
  have hsame := h.sameDirectories hhome fun other hother => (hdrop other).trans (if_neg hother)
  have hresolve := FileTree.resolve_of_sameDirectories hsame h.resolve
  have hnames := h.perm_documentNames_drop k
  refine ⟨hresolve, hsame.kept place h.directory, hnames, fun other => ?_, fun other hother => ?_,
    fun other state hstate => ?_⟩
  · rw [hdrop]
    by_cases hother : other = k
    · rw [hother, if_pos rfl, AList.lookup_erase]
      rfl
    · rw [if_neg (place_ne place hother), AList.lookup_erase_ne hother]
      exact h.node other
  · exact h.keys other (AList.mem_erase.mp hother).2
  · by_cases hother : other = k
    · rw [hother, AList.lookup_erase] at hstate
      cases hstate
    · rw [AList.lookup_erase_ne hother] at hstate
      exact h.loads other state hstate

/-! ## Calls on a directory that is there -/

theorem isDirectory (h : s.Stores files place games) : files.isDirectory s.directory = true :=
  FileTree.isDirectory_iff.mpr ⟨place, h.resolve, h.directory⟩

theorem hasPlace (h : s.Stores files place games) (hslot : Text.isBlank slot = false)
    (hencodable : Text.isEncodableName slot = true) :
    s.HasPlace files (.str slot) (place ++ [Document.fileName (key slot)]) :=
  ⟨_, slotPath_of_not_blank hslot, resolve_slot h.resolve h.directory hencodable⟩

/-- No game is saved in a slot that cannot be encoded. -/
theorem isEncodableName_of_lookup (h : s.Stores files place games)
    (hgame : games.lookup (key slot) = some state) : Text.isEncodableName slot = true := by
  have hmem : key slot ∈ games := AList.lookup_isSome.mp (by rw [hgame]; rfl)
  obtain ⟨other, -, hother, heq⟩ := h.keys _ hmem
  rw [← isEncodableName_key, heq, isEncodableName_key, hother]

/-- **Whether a slot has a file is whether a game is saved in it.** -/
theorem pathExists_eq (h : s.Stores files place games) (slot : String) :
    files.pathExists (s.filePath slot) = (games.lookup (key slot)).isSome := by
  unfold FileTree.pathExists FileTree.stat
  cases hencodable : Text.isEncodableName slot with
  | false =>
      rw [resolve_slot_of_not_encodable hencodable]
      cases hgame : games.lookup (key slot) with
      | none => rfl
      | some state =>
          rw [h.isEncodableName_of_lookup hgame] at hencodable
          cases hencodable
  | true =>
      rw [resolve_slot h.resolve h.directory hencodable]
      simp only [bind, Except.bind, h.node]
      cases games.lookup (key slot) <;> rfl

end Stores

/-! ### Calls as the files have it -/

theorem load_of_not_pathExists {p : Path} (hp : s.slotPath (.str slot) = .ok p)
    (h : files.pathExists p = false) : s.load files newId (.str slot) = .ok none := by
  unfold load
  rw [hp]
  simp only [bind, Except.bind, h]
  rfl

theorem delete_of_not_pathExists {p : Path} (hp : s.slotPath (.str slot) = .ok p)
    (h : files.pathExists p = false) : s.delete files (.str slot) = (.ok false, files) := by
  unfold delete
  rw [hp]
  simp only [h]
  rfl

theorem writeDocument_of_write {p : Path} (hwhole : (writtenDocument state.toJson).2 = none)
    (hwrite : files.write p (writtenBytes state) = .ok files') :
    writeDocument files p state.toJson = (.ok (), files') := by
  unfold writtenBytes at hwrite
  unfold writeDocument
  simp only [hwrite, hwhole]

namespace Stores

/-- **What is loaded is the game of the key.** -/
theorem load_eq (h : s.Stores files place games) (hslot : Text.isBlank slot = false)
    (newId : String) :
    s.load files newId (.str slot) = .ok (games.lookup (key slot)) := by
  have hexists := h.pathExists_eq slot
  cases hgame : games.lookup (key slot) with
  | none =>
      rw [hgame] at hexists
      exact load_of_not_pathExists (slotPath_of_not_blank hslot) hexists
  | some state =>
      have hplace := h.hasPlace hslot (h.isEncodableName_of_lookup hgame)
      have hnode := h.node (key slot)
      rw [hgame] at hnode
      exact load_of_states hplace hnode ((h.loads _ _ hgame).states newId)

/-- **Deleting tells whether there was a game,** and afterwards there is none. -/
theorem delete_eq (h : s.Stores files place games) (hslot : Text.isBlank slot = false) :
    ∃ files', s.delete files (.str slot) = (.ok (games.lookup (key slot)).isSome, files') ∧
      s.Stores files' place (games.erase (key slot)) := by
  have hpath := slotPath_of_not_blank (s := s) hslot
  have hexists := h.pathExists_eq slot
  cases hgame : games.lookup (key slot) with
  | none =>
      have hkept := erase_of_notMem (AList.lookup_eq_none.mp hgame)
      rw [hgame] at hexists
      rw [hkept]
      exact ⟨files, delete_of_not_pathExists hpath hexists, h⟩
  | some state =>
      -- the file of the game is removed
      obtain ⟨p, hp, hresolve⟩ := h.hasPlace hslot (h.isEncodableName_of_lookup hgame)
      have hnode := h.node (key slot)
      rw [hgame] at hexists hnode
      have hremove : files.remove p =
          .ok (files.drop (place ++ [Document.fileName (key slot)])) := by
        unfold FileTree.remove
        rw [hresolve]
        simp only [bind, Except.bind, hnode, Option.map_some]
        rfl
      obtain rfl := Except.ok.inj (hpath.symm.trans hp)
      refine ⟨_, ?_, h.drop (key slot)⟩
      unfold delete
      rw [hpath]
      simp only [hexists, Option.isSome_some, if_true, hremove]

/-- **The keys are listed in their order.** -/
theorem slots_eq (h : s.Stores files place games) :
    s.slots files = games.keys.mergeSort Text.nameLe := by
  have hstems : (games.keys.map Document.fileName).map FileTree.stem = games.keys := by
    have hstem : ∀ k ∈ games.keys, (FileTree.stem ∘ Document.fileName) k = id k := by
      intro k hk
      obtain ⟨slot, hslot, -, hkey⟩ := h.keys k (AList.mem_keys.mpr hk)
      have hne : k ≠ "" := hkey ▸ key_ne_empty hslot
      rw [Function.comp_apply, stem_fileName hne]
      rfl
    rw [List.map_map, List.map_congr_left hstem, List.map_id]
  have hnames := h.names.map FileTree.stem
  rw [hstems] at hnames
  have hperm := ((List.mergeSort_perm _ Text.nameLe).trans hnames).trans
    (List.mergeSort_perm games.keys Text.nameLe).symm
  -- two sorted lists of the same names are the same list, since no two names have one place
  unfold slots
  rw [FileTree.documents_eq h.resolve h.directory]
  exact hperm.eq_of_pairwise (fun _ _ _ _ => Text.nameLe_antisymm) (Text.sorted_mergeSort _)
    (Text.sorted_mergeSort _)

/-- **Saving puts the game under the key,** over the one that was there. -/
theorem save_eq (h : s.Stores files place games) (hslot : Text.isBlank slot = false)
    (hencodable : Text.isEncodableName slot = true) (hloads : LoadsBack state) :
    ∃ files', s.save files (.str slot) state = (.ok (s.filePath slot), files') ∧
      s.Stores files' place (games.insert (key slot) state) := by
  have hensured := FileTree.ensureDirectory_of_isDirectory h.isDirectory
  have hresolve := resolve_slot h.resolve h.directory hencodable
  have hwrite : files.write (s.filePath slot) (writtenBytes state) =
      .ok (files.put (place ++ [Document.fileName (key slot)]) (.file (writtenBytes state))) :=
    FileTree.write_of_resolve hresolve (h.node_ne_directory (key slot)) _
  refine ⟨_, ?_, h.put hslot hencodable hloads⟩
  have hpath := slotPath_of_not_blank (s := s) hslot
  unfold save
  simp only [hensured, hpath, writeDocument_of_write hloads.whole hwrite]
  rfl

theorem save_of_not_encodable (h : s.Stores files place games) (hslot : Text.isBlank slot = false)
    (hencodable : Text.isEncodableName slot = false) (state : GameState) :
    s.save files (.str slot) state = (.error .unencodable, files) := by
  have hensured := FileTree.ensureDirectory_of_isDirectory h.isDirectory
  have hpath := slotPath_of_not_blank (s := s) hslot
  have hresolve : files.resolve (s.filePath slot) = .error .unencodable :=
    resolve_slot_of_not_encodable hencodable
  unfold save
  simp only [hensured, hpath, writeDocument, FileTree.write, hresolve]
  rfl

theorem save_of_blank (h : s.Stores files place games) (hslot : Text.isBlank slot = true)
    (state : GameState) :
    s.save files (.str slot) state = (.error (.required "slot"), files) := by
  have hensured := FileTree.ensureDirectory_of_isDirectory h.isDirectory
  unfold save
  simp only [hensured, slotPath_of_blank hslot]

end Stores

end Questbook.SaveSlots
