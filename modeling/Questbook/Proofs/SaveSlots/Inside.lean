import Questbook.Proofs.Files.Stem
import Questbook.Proofs.SaveSlots.Key
import Questbook.Proofs.SavedGames
import Questbook.SaveSlots.Call

set_option autoImplicit false

/-! # Slots stay in their directory

The name of a slot has as many characters as the slot, none of them barred, and it is a slot of the same
name. Its file is a child of the directory of saved games, whatever separators and dots the slot holds,
and in a tree of files it leads to a place right in that directory (`exists_of_resolve_filePath`).

So calls do not reach out of the directory: what one call changes is the file of its slot
(`changesOnly_perform`), and what a list of calls changes are the files of their slots
(`changesOnly_performAll`).
-/

namespace Questbook.SaveSlots

variable {s : SaveSlots} {t u v : FileTree} {slot : String} {place : List String}

/-! ## Names without barred characters -/

theorem length_withoutBarred (text : String) : (withoutBarred text).length = text.length := by
  unfold withoutBarred
  rw [String.length_ofList, List.length_map, String.length_toList]

theorem size_withoutBarred (text : String) : Text.size (withoutBarred text) = Text.size text := by
  unfold Text.size withoutBarred
  rw [String.toList_ofList]
  refine Text.length_points_map (fun c => ?_) text.toList
  by_cases hc : isBarredChar c = true
  · rw [if_pos hc]
    exact Or.inr ⟨toNat_lt_of_isBarredChar hc, by decide⟩
  · rw [if_neg hc]
    exact Or.inl rfl

/-- An underscore is not blank, so a text that is not blank does not become so. -/
theorem isBlank_withoutBarred {text : String} (h : Text.isBlank text = false) :
    Text.isBlank (withoutBarred text) = false := by
  unfold Text.isBlank at h ⊢
  rw [List.all_eq_false] at h ⊢
  obtain ⟨c, hc, hblank⟩ := h
  refine ⟨if isBarredChar c then '_' else c, ?_, ?_⟩
  · unfold withoutBarred
    rw [String.toList_ofList]
    exact List.mem_map.mpr ⟨c, hc, rfl⟩
  · split
    · decide
    · exact hblank

/-- **The name of a slot is a slot of the same name.** -/
theorem slotName_withoutBarred (h : Text.isBlank slot = false) :
    slotName (.str (withoutBarred slot)) = .ok (withoutBarred slot) := by
  have hfree : ∀ c ∈ (withoutBarred slot).toList, isBarredChar c = false :=
    fun _ => isBarredChar_of_mem_withoutBarred
  rw [slotName_of_not_blank (isBlank_withoutBarred h), withoutBarred_of_forall hfree]

/-! ## Paths of slots -/

/-- What is listed for a document is its name without the ending. -/
theorem withoutEnding_eq_stem {name : String} (h : FileTree.isDocumentName name = true) :
    Text.withoutEnding name = FileTree.stem name := by
  unfold FileTree.isDocumentName at h
  obtain ⟨front, hfront⟩ := List.isSuffixOf_iff_suffix.mp h
  obtain rfl : name = Document.fileName (String.ofList front) := by
    rw [← String.toList_inj, fileName_toList, String.toList_ofList]
    exact hfront.symm
  -- a name that is nothing but the ending is its own stem, in either reading
  by_cases hempty : front = []
  · subst hempty
    decide
  · have hne : String.ofList front ≠ "" := mt String.ofList_eq_empty_iff.mp hempty
    have hname : Document.fileName (String.ofList front) =
        String.ofList (front ++ '.' :: ['j', 's', 'o', 'n']) := by
      rw [← String.toList_inj, fileName_toList, String.toList_ofList, String.toList_ofList]
    rw [stem_fileName hne, hname]
    exact Text.withoutEnding_append hempty (by decide) (by decide)

theorem eq_filePath_of_slotPath {p : Path} (h : s.slotPath (.str slot) = .ok p) :
    s.filePath slot = p := by
  cases hblank : Text.isBlank slot with
  | true =>
      rw [slotPath_of_blank hblank] at h
      cases h
  | false =>
      rw [slotPath_of_not_blank hblank] at h
      exact Except.ok.inj h

/-- **The stem of the file of a slot is its name.** -/
theorem stem_filePath (s : SaveSlots) (h : Text.isBlank slot = false) :
    (s.filePath slot).stem = withoutBarred slot := by
  have hne : slot ≠ "" := by
    rintro rfl
    cases h
  rw [filePath, join_fileName, Path.stem, Path.name_child,
    withoutEnding_eq_stem (isDocumentName_fileName _), stem_fileName (withoutBarred_ne_empty hne)]

theorem isChildOf_filePath (s : SaveSlots) (slot : String) :
    (s.filePath slot).IsChildOf s.directory := by
  rw [filePath, join_fileName]
  exact Path.isChildOf_child _ _

/-- **Where the file of a slot is:** right in the place of the directory. -/
theorem exists_of_resolve_filePath (h : t.resolve (s.filePath slot) = .ok place) :
    ∃ top, t.resolve s.directory = .ok top ∧ t.node? top = some .directory ∧
      place = top ++ [Document.fileName (key slot)] := by
  have hencodable : Text.isEncodableName slot = true := by
    by_contra hnot
    rw [resolve_slot_of_not_encodable (Bool.not_eq_true _ ▸ hnot)] at h
    cases h
  have hchild := h
  rw [filePath, join_fileName] at hchild
  obtain ⟨top, htop, hnode⟩ :=
    FileTree.isDirectory_iff.mp (FileTree.isDirectory_of_resolve_append hchild)
  rw [resolve_slot htop hnode hencodable] at h
  exact ⟨top, htop, hnode, (Except.ok.inj h).symm⟩

/-! ## What calls change -/

/-- **Whether two trees have the same files but for those of some slots.** Directories stay, and a file
that is not the same lies right in the directory and has the name of such a slot. -/
structure ChangesOnly (s : SaveSlots) (touched : String → Prop) (t u : FileTree) : Prop where
  sameDirectories : t.SameDirectories u
  inside : ∀ place bytes,
    (t.node? place = some (.file bytes) ↔ u.node? place = some (.file bytes)) ∨
      ∃ slot top, touched slot ∧ u.resolve s.directory = .ok top ∧
        place = top ++ [Document.fileName (key slot)]

namespace ChangesOnly

variable {touched touched' : String → Prop}

theorem refl (s : SaveSlots) (touched : String → Prop) (t : FileTree) : s.ChangesOnly touched t t :=
  ⟨FileTree.sameDirectories_refl t, fun _ _ => Or.inl Iff.rfl⟩

theorem mono (h : s.ChangesOnly touched t u) (hle : ∀ slot, touched slot → touched' slot) :
    s.ChangesOnly touched' t u := by
  refine ⟨h.sameDirectories, fun place bytes => ?_⟩
  rcases h.inside place bytes with hsame | ⟨slot, top, hslot, hin⟩
  · exact Or.inl hsame
  · exact Or.inr ⟨slot, top, hle slot hslot, hin⟩

theorem trans (htu : s.ChangesOnly touched t u) (huv : s.ChangesOnly touched u v) :
    s.ChangesOnly touched t v := by
  refine ⟨htu.sameDirectories.trans huv.sameDirectories, fun place bytes => ?_⟩
  rcases huv.inside place bytes with hsame | hin
  · rcases htu.inside place bytes with hsame' | ⟨slot, top, hslot, htop, hplace⟩
    · exact Or.inl (hsame'.trans hsame)
    · -- the directory is still where it was
      have htop' := FileTree.resolve_of_sameDirectories huv.sameDirectories htop
      exact Or.inr ⟨slot, top, hslot, htop', hplace⟩
  · exact Or.inr hin

end ChangesOnly

/-- Making the directory changes no file. -/
theorem changesOnly_ensureDirectory {p : Path} (touched : String → Prop)
    (h : t.ensureDirectory p = .ok u) : s.ChangesOnly touched t u := by
  have hgrows := FileTree.grows_ensureDirectory h
  exact ⟨hgrows.standsIn.sameDirectories, fun place bytes => Or.inl (hgrows.sameFiles place bytes)⟩

/-- A change at the place of the file of a slot. -/
theorem changesOnly_of_resolve (hplace : t.resolve (s.filePath slot) = .ok place)
    (hnode : t.node? place ≠ some .directory) (hhome : u.home = t.home)
    (hothers : ∀ other, other ≠ place → u.node? other = t.node? other) :
    s.ChangesOnly (slot = ·) t u := by
  have hsame : t.SameDirectories u := by
    refine ⟨hhome, fun other hother => ?_⟩
    rw [hothers]
    · exact hother
    · rintro rfl
      exact hnode hother
  obtain ⟨top, htop, -, hin⟩ := exists_of_resolve_filePath hplace
  refine ⟨hsame, fun other bytes => ?_⟩
  by_cases hother : other = place
  · exact Or.inr ⟨slot, top, rfl, FileTree.resolve_of_sameDirectories hsame htop, hother.trans hin⟩
  · rw [hothers other hother]
    exact Or.inl Iff.rfl

theorem changesOnly_write {bytes : ByteArray} (h : t.write (s.filePath slot) bytes = .ok u) :
    s.ChangesOnly (slot = ·) t u := by
  obtain ⟨place, hplace, hnode, hhome, hput⟩ := FileTree.exists_place_of_write h
  refine changesOnly_of_resolve hplace hnode hhome fun other hother => ?_
  rw [hput, if_neg hother]

theorem changesOnly_remove (h : t.remove (s.filePath slot) = .ok u) :
    s.ChangesOnly (slot = ·) t u := by
  obtain ⟨place, bytes, hplace, hnode, hhome, hdrop⟩ := FileTree.exists_place_of_remove h
  refine changesOnly_of_resolve hplace (by rw [hnode]; simp) hhome fun other hother => ?_
  rw [hdrop, if_neg hother]

/-- **Saving changes the file of the slot.** -/
theorem changesOnly_save (s : SaveSlots) (t : FileTree) (slot : String) (state : GameState) :
    s.ChangesOnly (slot = ·) t (s.save t (.str slot) state).2 := by
  unfold save
  split
  · exact .refl ..
  · next tree htree =>
    have hmade : s.ChangesOnly (slot = ·) t tree := changesOnly_ensureDirectory _ htree
    split
    -- a slot without a path is found out when the directory is there already
    · exact hmade
    · next p hp =>
      obtain rfl := eq_filePath_of_slotPath hp
      cases hw : writeDocument tree (s.filePath slot) state.toJson with
      | mk r written =>
          rcases write_of_writeDocument hw with ⟨f, -, rfl⟩ | hwrite
          · exact hmade
          · exact hmade.trans (changesOnly_write hwrite)

/-- **Deleting changes the file of the slot.** -/
theorem changesOnly_delete (s : SaveSlots) (t : FileTree) (slot : String) :
    s.ChangesOnly (slot = ·) t (s.delete t (.str slot)).2 := by
  unfold delete
  split
  · exact .refl ..
  · next p hp =>
    obtain rfl := eq_filePath_of_slotPath hp
    split
    · split
      · next tree htree => exact changesOnly_remove htree
      · exact .refl ..
    · exact .refl ..

/-- **One call changes the file of its slot.** -/
theorem changesOnly_perform (s : SaveSlots) (t : FileTree) (call : Call) :
    s.ChangesOnly (call.slot? = some ·) t (s.perform t call).2 := by
  cases call with
  | load newId slot => exact .refl ..
  | save slot state =>
      exact (changesOnly_save s t slot state).mono fun _ heq => congrArg some heq
  | delete slot => exact (changesOnly_delete s t slot).mono fun _ heq => congrArg some heq
  | slots => exact .refl ..

/-- **Calls change the files of their slots.** -/
theorem changesOnly_performAll (s : SaveSlots) (t : FileTree) (calls : List Call) :
    s.ChangesOnly (fun slot => ∃ call ∈ calls, call.slot? = some slot) t
      (s.performAll t calls).2 := by
  -- on the calls; a place that one of them changed is told by the directory as it is after the last
  induction calls generalizing t with
  | nil => exact .refl ..
  | cons call calls ih =>
      have hfirst : s.ChangesOnly (fun slot => ∃ c ∈ call :: calls, c.slot? = some slot) t
          (s.perform t call).2 :=
        (changesOnly_perform s t call).mono fun _ hslot => ⟨call, List.mem_cons_self .., hslot⟩
      refine hfirst.trans ((ih (s.perform t call).2).mono ?_)
      rintro slot ⟨c, hc, hslot⟩
      exact ⟨c, List.mem_cons_of_mem _ hc, hslot⟩

/-- **Slots stay in their directory.** Each slot that is not blank has a name of its length without
barred characters, which is the slot itself if it holds none of them, and which names itself. Its file
is a child of the directory with this name as its stem, and lies right in the place of the directory.
Whatever calls are made, no file changes but those of their slots. -/
theorem slots_stay_inside (s : SaveSlots) :
    (∀ slot, Text.isBlank slot = false → ∃ name p,
      slotName (.str slot) = .ok name ∧ s.slotPath (.str slot) = .ok p ∧
      Text.size name = Text.size slot ∧ name.length = slot.length ∧
      (∀ c ∈ name.toList, isBarredChar c = false) ∧
      ((∀ c ∈ slot.toList, isBarredChar c = false) → name = slot) ∧
      slotName (.str name) = .ok name ∧ p.IsChildOf s.directory ∧ p.stem = name ∧
      ∀ files place, FileTree.resolve files p = .ok place → ∃ top,
        files.resolve s.directory = .ok top ∧ files.node? top = some .directory ∧
          place = top ++ [Document.fileName (key slot)]) ∧
    ∀ files calls, s.ChangesOnly (fun slot => ∃ call ∈ calls, call.slot? = some slot) files
      (s.performAll files calls).2 := by
  refine ⟨fun slot h => ⟨withoutBarred slot, s.filePath slot, slotName_of_not_blank h,
    slotPath_of_not_blank h, size_withoutBarred slot, length_withoutBarred slot,
    fun _ => isBarredChar_of_mem_withoutBarred, withoutBarred_of_forall, slotName_withoutBarred h,
    isChildOf_filePath s slot, stem_filePath s h, fun _ _ => exists_of_resolve_filePath⟩,
    fun files calls => ?_⟩
  exact changesOnly_performAll s files calls

/-- A slot with separators, dots and a control character. -/
def climbingSlot : String := "../..\\c:\x00.a"

/-- Its file is a child of the directory, and a game saved in it changes this file only. -/
theorem slots_stay_inside_climbing :
    Text.isBlank climbingSlot = false ∧ slotName (.str climbingSlot) = .ok ".._.._c__.a" ∧
      (∃ p, markedSlots.slotPath (.str climbingSlot) = .ok p ∧
        p.IsChildOf markedSlots.directory ∧ p.stem = ".._.._c__.a") ∧
      markedSlots.ChangesOnly (climbingSlot = ·) {}
        (markedSlots.performAll {} [.save climbingSlot markedGame]).2 := by
  have hblank : Text.isBlank climbingSlot = false := by decide
  have hname : slotName (.str climbingSlot) = .ok ".._.._c__.a" := by decide +kernel
  obtain ⟨hslots, hcalls⟩ := slots_stay_inside markedSlots
  obtain ⟨name, p, hname', hpath, -, -, -, -, -, hchild, hstem, -⟩ := hslots climbingSlot hblank
  obtain rfl : ".._.._c__.a" = name := Except.ok.inj (hname.symm.trans hname')
  refine ⟨hblank, hname, ⟨p, hpath, hchild, hstem⟩, ?_⟩
  refine (hcalls {} [.save climbingSlot markedGame]).mono ?_
  rintro slot ⟨call, hcall, hslot⟩
  rw [List.mem_singleton.mp hcall] at hslot
  exact Option.some.inj hslot

end Questbook.SaveSlots
