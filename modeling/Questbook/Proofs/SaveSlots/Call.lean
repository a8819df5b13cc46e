import Questbook.Proofs.SaveSlots.Stored
import Questbook.SaveSlots.Call

set_option autoImplicit false

/-! # A directory of saved games is a map

Calls on a directory of saved games are answered as if the games were kept in a map, each under the
key of its slot (`calls_refine_map`). The directory may be missing at first; the map then tells when
saving fails for want of it.

One call keeps the relation between files and map (`Holds.perform`), hence any number of calls does
(`Holds.performAll`). What is listed is what is saved (`Lists`), and a call for a blank slot changes no
file (`sameFiles_of_blank`).
-/

namespace Questbook.SaveSlots

/-! ## The map -/

/-- Whether the directory can be made, and the fault if it cannot. -/
def made (s : SaveSlots) (files : FileTree) : Except Fault Unit :=
  (files.ensureDirectory s.directory).map fun _ => ()

/-- **What a map of games answers to a call,** and the map afterwards. Saving fails as long as the
directory cannot be made (`made`). -/
def reply (s : SaveSlots) (made : Except Fault Unit) (games : Games) : Call → Reply × Games
  | .load _ slot =>
    if Text.isBlank slot then (.loaded (.error (.required "slot")), games)
    else (.loaded (.ok (games.lookup (key slot))), games)
  | .save slot state =>
    match made with
    | .error f => (.saved (.error f), games)
    | .ok () =>
      if Text.isBlank slot then (.saved (.error (.required "slot")), games)
      else if Text.isEncodableName slot then
        (.saved (.ok (s.filePath slot)), games.insert (key slot) state)
      else (.saved (.error .unencodable), games)
  | .delete slot =>
    if Text.isBlank slot then (.deleted (.error (.required "slot")), games)
    else (.deleted (.ok (games.lookup (key slot)).isSome), games.erase (key slot))
  | .slots => (.listed (games.keys.mergeSort Text.nameLe), games)

/-- What a map of games answers to calls made one after the other. -/
def replies (s : SaveSlots) (made : Except Fault Unit) (games : Games) :
    List Call → List Reply × Games
  | [] => ([], games)
  | call :: calls =>
    let (r, games) := s.reply made games call
    let (rs, games) := s.replies made games calls
    (r :: rs, games)

variable {s : SaveSlots} {files files' : FileTree} {place : List String} {games : Games}
  {slot newId : String} {state : GameState}

/-! ## Steps and runs -/

theorem load_of_blank (h : Text.isBlank slot = true) (newId : String) :
    s.load files newId (.str slot) = .error (.required "slot") := by
  unfold load
  rw [slotPath_of_blank h]
  rfl

theorem delete_of_blank (h : Text.isBlank slot = true) :
    s.delete files (.str slot) = (.error (.required "slot"), files) := by
  unfold delete
  rw [slotPath_of_blank h]

/-- **A call on a directory that is there** is answered as the map answers it. -/
theorem Stores.perform (h : s.Stores files place games) (call : Call)
    (hcall : ∀ slot state, call = .save slot state → LoadsBack state) :
    ∃ r files' games', s.perform files call = (r, files') ∧
      s.reply (.ok ()) games call = (r, games') ∧ s.Stores files' place games' := by
  cases call with
  | load newId slot =>
      refine ⟨.loaded (s.load files newId (.str slot)), files, games, rfl, ?_, h⟩
      cases hslot : Text.isBlank slot with
      | true =>
          rw [load_of_blank hslot]
          exact if_pos hslot
      | false =>
          rw [h.load_eq hslot, reply, hslot]
          rfl
  | save slot state =>
      cases hslot : Text.isBlank slot with
      | true =>
          have hsave := h.save_of_blank hslot state
          refine ⟨.saved (.error (.required "slot")), files, games, ?_, if_pos hslot, h⟩
          rw [SaveSlots.perform, hsave]
      | false =>
          cases hencodable : Text.isEncodableName slot with
          | false =>
              have hsave := h.save_of_not_encodable hslot hencodable state
              refine ⟨.saved (.error .unencodable), files, games, ?_, ?_, h⟩
              · rw [SaveSlots.perform, hsave]
              · simp [reply, hslot, hencodable]
          | true =>
              obtain ⟨files', hsave, hstores⟩ :=
                h.save_eq hslot hencodable (hcall slot state rfl)
              refine ⟨.saved (.ok (s.filePath slot)), files', games.insert (key slot) state, ?_, ?_,
                hstores⟩
              · rw [SaveSlots.perform, hsave]
              · simp [reply, hslot, hencodable]
  | delete slot =>
      cases hslot : Text.isBlank slot with
      | true =>
          refine ⟨.deleted (.error (.required "slot")), files, games, ?_, if_pos hslot, h⟩
          rw [SaveSlots.perform, delete_of_blank hslot]
      | false =>
          obtain ⟨files', hdelete, hstores⟩ := h.delete_eq hslot
          refine ⟨.deleted (.ok (games.lookup (key slot)).isSome), files',
            games.erase (key slot), ?_, ?_, hstores⟩
          · rw [SaveSlots.perform, hdelete]
          · rw [reply, hslot]
            rfl
  | slots =>
      refine ⟨.listed (s.slots files), files, games, rfl, ?_, h⟩
      rw [h.slots_eq, reply]

/-- **Whether a directory is empty once it has been made,** if it can be made. -/
def StartsEmpty (s : SaveSlots) (files : FileTree) : Prop :=
  ∀ tree, files.ensureDirectory s.directory = .ok tree → tree.documents s.directory = []

/-- **A directory without documents starts empty,** and so does a missing one in which nothing can be
before it is made. -/
theorem startsEmpty_of_documents
    (hdocuments : files.documents s.directory = [])
    (h : files.isDirectory s.directory = true ∨
      files.Rooted ∧ ".." ∉ s.directory.parts.map Text.diskName) : s.StartsEmpty files := by
  intro tree htree
  cases hdirectory : files.isDirectory s.directory with
  | true =>
      rw [FileTree.ensureDirectory_of_isDirectory hdirectory] at htree
      cases htree
      exact hdocuments
  | false =>
      rw [hdirectory] at h
      -- the directory is missing, so that nothing can be in it once it is made
      obtain ⟨hrooted, hup⟩ := h.resolve_left nofun
      obtain ⟨place, hplace, hnode⟩ :=
        FileTree.isDirectory_iff.mp (FileTree.isDirectory_ensureDirectory htree)
      have hnames := FileTree.namesIn_ensureDirectory hrooted hup hdirectory htree hplace
      rw [FileTree.documents_eq hplace hnode, FileTree.documentNames, hnames]
      exact List.mergeSort_nil

/-- **Whether the files hold what a map of games has.** As long as the directory is missing there are
no games; what becomes of it is known from what it was at first. -/
inductive Holds (s : SaveSlots) (made : Except Fault Unit) : FileTree → Games → Prop
  | missing {files : FileTree} (missing : files.isDirectory s.directory = false)
      (made_eq : made = s.made files) (empty : s.StartsEmpty files) : Holds s made files ∅
  | there {files : FileTree} {place : List String} {games : Games} (made_eq : made = .ok ())
      (stores : s.Stores files place games) : Holds s made files games

variable {made : Except Fault Unit}

theorem stores_of_ensureDirectory {tree : FileTree}
    (hempty : s.StartsEmpty files) (h : files.ensureDirectory s.directory = .ok tree) :
    ∃ place, s.Stores tree place ∅ := by
  obtain ⟨place, hplace, hnode⟩ :=
    FileTree.isDirectory_iff.mp (FileTree.isDirectory_ensureDirectory h)
  exact ⟨place, stores_empty hplace hnode (hempty tree h)⟩

theorem holds_start (hempty : s.StartsEmpty files) :
    s.Holds (s.made files) files ∅ := by
  cases hdirectory : files.isDirectory s.directory with
  | false => exact .missing hdirectory rfl hempty
  | true =>
      have hensured := FileTree.ensureDirectory_of_isDirectory hdirectory
      obtain ⟨place, hstores⟩ := stores_of_ensureDirectory hempty hensured
      have hmade : s.made files = .ok () := by
        unfold SaveSlots.made
        rw [hensured]
        rfl
      exact .there hmade hstores

/-! ### As long as the directory is missing -/

theorem not_pathExists_of_missing (h : files.isDirectory s.directory = false) (slot : String) :
    files.pathExists (s.filePath slot) = false := by
  rw [filePath, join_fileName]
  unfold FileTree.pathExists FileTree.stat
  cases hplace : files.resolve _ with
  | error f => rfl
  | ok place =>
      rw [FileTree.isDirectory_of_resolve_append hplace] at h
      cases h

theorem load_of_missing (h : files.isDirectory s.directory = false)
    (hslot : Text.isBlank slot = false) (newId : String) :
    s.load files newId (.str slot) = .ok none :=
  load_of_not_pathExists (slotPath_of_not_blank hslot) (not_pathExists_of_missing h slot)

theorem delete_of_missing (h : files.isDirectory s.directory = false)
    (hslot : Text.isBlank slot = false) : s.delete files (.str slot) = (.ok false, files) :=
  delete_of_not_pathExists (slotPath_of_not_blank hslot) (not_pathExists_of_missing h slot)

/-- Saving makes the directory first. -/
theorem save_of_ensureDirectory {tree : FileTree}
    (hensured : files.ensureDirectory s.directory = .ok tree)
    (htree : tree.isDirectory s.directory = true) (slot : Json) (state : GameState) :
    s.save files slot state = s.save tree slot state := by
  unfold save
  rw [hensured, FileTree.ensureDirectory_of_isDirectory htree]

/-- **A call is answered as the map answers it.** -/
theorem Holds.perform (h : s.Holds made files games) (call : Call)
    (hcall : ∀ slot state, call = .save slot state → LoadsBack state) :
    ∃ r files' games', s.perform files call = (r, files') ∧
      s.reply made games call = (r, games') ∧ s.Holds made files' games' := by
  cases h with
  | there hmade hstores =>
      subst hmade
      obtain ⟨r, files', games', hperform, hreply, hstores'⟩ := hstores.perform call hcall
      exact ⟨r, files', games', hperform, hreply, .there rfl hstores'⟩
  | missing hmissing hmade hempty =>
      have hholds : s.Holds made files ∅ := .missing hmissing hmade hempty
      cases call with
      | load newId slot =>
          refine ⟨.loaded (s.load files newId (.str slot)), files, ∅, rfl, ?_, hholds⟩
          cases hslot : Text.isBlank slot with
          | true =>
              rw [load_of_blank hslot]
              exact if_pos hslot
          | false =>
              rw [load_of_missing hmissing hslot, reply, hslot]
              rfl
      | save slot state =>
          cases hensured : files.ensureDirectory s.directory with
          | error f =>
              have hfails : made = .error f := by
                rw [hmade, SaveSlots.made, hensured]
                rfl
              subst hfails
              refine ⟨.saved (.error f), files, ∅, ?_, rfl, hholds⟩
              rw [SaveSlots.perform, save, hensured]
          | ok tree =>
              have hmakes : made = .ok () := by
                rw [hmade, SaveSlots.made, hensured]
                rfl
              subst hmakes
              -- the directory is made, and the game is saved as in an empty one
              obtain ⟨place, hstores⟩ := stores_of_ensureDirectory hempty hensured
              obtain ⟨r, files', games', hperform, hreply, hstores'⟩ :=
                hstores.perform (.save slot state) hcall
              refine ⟨r, files', games', ?_, hreply, .there rfl hstores'⟩
              rw [← hperform, SaveSlots.perform, SaveSlots.perform,
                save_of_ensureDirectory hensured hstores.isDirectory]
      | delete slot =>
          cases hslot : Text.isBlank slot with
          | true =>
              refine ⟨.deleted (.error (.required "slot")), files, ∅, ?_, if_pos hslot, hholds⟩
              rw [SaveSlots.perform, delete_of_blank hslot]
          | false =>
              refine ⟨.deleted (.ok false), files, ∅, ?_, ?_, hholds⟩
              · rw [SaveSlots.perform, delete_of_missing hmissing hslot]
              · rw [reply, hslot, erase_of_notMem (AList.notMem_empty (key slot))]
                rfl
      | slots =>
          have hslots : s.slots files = [] := FileTree.documents_of_not_isDirectory hmissing
          refine ⟨.listed [], files, ∅, ?_, ?_, hholds⟩
          · rw [SaveSlots.perform, hslots]
          · rw [reply, AList.keys_empty, List.mergeSort_nil]

/-- **Calls are answered as the map answers them.** -/
theorem Holds.performAll (h : s.Holds made files games)
    (calls : List Call) (hcalls : ∀ slot state, Call.save slot state ∈ calls → LoadsBack state) :
    (s.performAll files calls).1 = (s.replies made games calls).1 ∧
      s.Holds made (s.performAll files calls).2 (s.replies made games calls).2 := by
  -- on the calls; whether the directory can be made stays what it was at the start
  induction calls generalizing files games with
  | nil => exact ⟨rfl, h⟩
  | cons call calls ih =>
      have hcall : ∀ slot state, call = .save slot state → LoadsBack state :=
        fun slot state heq => hcalls slot state (heq ▸ List.mem_cons_self ..)
      have hrest : ∀ slot state, Call.save slot state ∈ calls → LoadsBack state :=
        fun slot state hmem => hcalls slot state (List.mem_cons_of_mem _ hmem)
      obtain ⟨r, files', games', hperform, hreply, hholds⟩ := h.perform call hcall
      obtain ⟨hreplies, hfinal⟩ := ih hholds hrest
      rw [SaveSlots.performAll, SaveSlots.replies, hperform, hreply]
      exact ⟨congrArg (r :: ·) hreplies, hfinal⟩

/-! ## What is listed -/

/-- **Whether what is listed is what is saved.** Each key is listed once and in its order, and it is
the slot of its game. -/
structure Lists (s : SaveSlots) (files : FileTree) (games : Games) : Prop where
  sorted : (s.slots files).Pairwise fun a b => Text.nameLe a b = true ∧ a ≠ b
  listed : ∀ k, k ∈ s.slots files ↔ (games.lookup k).isSome = true
  keys : ∀ k ∈ s.slots files, key k = k
  loads : ∀ k ∈ s.slots files, Text.isBlank k = false →
    ∃ state, games.lookup k = some state ∧ ∀ newId, s.load files newId (.str k) = .ok (some state)

theorem Stores.lists (h : s.Stores files place games) : s.Lists files games := by
  have hperm := List.mergeSort_perm games.keys Text.nameLe
  have hlisted : ∀ k, k ∈ s.slots files ↔ k ∈ games := by
    intro k
    rw [h.slots_eq, hperm.mem_iff, AList.mem_keys]
  have hkeys : ∀ k ∈ s.slots files, key k = k := by
    intro k hk
    obtain ⟨slot, -, -, rfl⟩ := h.keys k ((hlisted k).mp hk)
    exact key_key slot
  refine ⟨?_, fun k => (hlisted k).trans AList.lookup_isSome.symm, hkeys, fun k hk hblank => ?_⟩
  · rw [h.slots_eq]
    have hnodup : (games.keys.mergeSort Text.nameLe).Nodup := hperm.nodup_iff.mpr games.keys_nodup
    exact (Text.sorted_mergeSort games.keys).and hnodup
  · have hsome := AList.lookup_isSome.mpr ((hlisted k).mp hk)
    obtain ⟨state, hstate⟩ := Option.isSome_iff_exists.mp hsome
    refine ⟨state, hstate, fun newId => ?_⟩
    rw [h.load_eq hblank, hkeys k hk, hstate]

theorem Holds.lists (h : s.Holds made files games) : s.Lists files games := by
  cases h with
  | there _ hstores => exact hstores.lists
  | missing hmissing _ _ =>
      have hslots : s.slots files = [] := FileTree.documents_of_not_isDirectory hmissing
      constructor <;> simp [hslots]

/-- **A call for a blank slot changes no file.** -/
theorem sameFiles_of_blank {call : Call} (hcall : call.slot? = some slot)
    (hslot : Text.isBlank slot = true) (files : FileTree) :
    files.SameFiles (s.perform files call).2 := by
  cases call with
  | load newId slot => exact FileTree.sameFiles_refl files
  | slots => exact FileTree.sameFiles_refl files
  | delete slot' =>
      obtain rfl : slot' = slot := Option.some.inj hcall
      rw [perform, delete_of_blank hslot]
      exact FileTree.sameFiles_refl files
  | save slot' state =>
      obtain rfl : slot' = slot := Option.some.inj hcall
      unfold perform save
      cases hensured : files.ensureDirectory s.directory with
      | error f => exact FileTree.sameFiles_refl files
      | ok tree =>
          simp only [slotPath_of_blank hslot]
          exact (FileTree.grows_ensureDirectory hensured).sameFiles

/-- **A directory of saved games is a map.** Whatever calls are made, each is answered as a map of games
answers it; afterwards the keys of the saved games are listed, and a call for a blank slot leaves all
files as they are. The key of a slot without unpaired halves is its name without barred characters. -/
theorem calls_refine_map (s : SaveSlots) (start : FileTree) (calls : List Call)
    (hempty : s.StartsEmpty start)
    (hloads : ∀ slot state, Call.save slot state ∈ calls → LoadsBack state) :
    (s.performAll start calls).1 = (s.replies (s.made start) ∅ calls).1 ∧
      s.Lists (s.performAll start calls).2 (s.replies (s.made start) ∅ calls).2 ∧
      (∀ call slot, call.slot? = some slot → Text.isBlank slot = true →
        (s.performAll start calls).2.SameFiles (s.perform (s.performAll start calls).2 call).2) ∧
      ∀ slot, Text.hasHalf slot = false → key slot = withoutBarred slot := by
  have hstart := holds_start hempty
  obtain ⟨hreplies, hholds⟩ := hstart.performAll calls hloads
  refine ⟨hreplies, hholds.lists, ?_, fun slot => key_of_no_half⟩
  intro call slot hcall hslot
  exact sameFiles_of_blank hcall hslot _

/-! ## Slots that share a file -/

/-- A later state of the game. -/
def laterGame : GameState := { markedGame with sectionId := .str "2" }

/-- Four slots that are one, and a blank one. -/
def sharedCalls : List Call :=
  [.save "a/b" markedGame, .save "a:b" laterGame, .load "d" "a?b", .delete " ", .slots,
    .delete "a*b", .slots]

/-- A directory that is not in the working directory. -/
def distantSlots : SaveSlots where
  directory := Path.parse "/games/saves"

/-- The second game is saved over the first one, and it is listed and deleted. -/
theorem calls_refine_map_shared :
    distantSlots.StartsEmpty {} ∧
      (∀ slot state, Call.save slot state ∈ sharedCalls → LoadsBack state) ∧
      (distantSlots.performAll {} sharedCalls).1 =
        (distantSlots.replies (distantSlots.made {}) ∅ sharedCalls).1 ∧
      distantSlots.Lists (distantSlots.performAll {} sharedCalls).2
        (distantSlots.replies (distantSlots.made {}) ∅ sharedCalls).2 := by
  -- in the empty tree everything lies in directories, as there is nothing
  have hrooted : FileTree.Rooted {} := by
    intro place name node hnode
    unfold FileTree.node? at hnode
    rw [if_neg (by simp)] at hnode
    cases hnode
  have hempty : distantSlots.StartsEmpty {} :=
    startsEmpty_of_documents (FileTree.documents_of_not_isDirectory (by decide +kernel))
      (.inr ⟨hrooted, by decide +kernel⟩)
  have hmarked : LoadsBack markedGame :=
    loadsBack_of_storable (fun _ => rfl) (by decide +kernel)
  have hlater : LoadsBack laterGame := loadsBack_of_storable (fun _ => rfl) (by decide +kernel)
  have hloads : ∀ slot state, Call.save slot state ∈ sharedCalls → LoadsBack state := by
    intro slot state hmem
    simp only [sharedCalls, List.mem_cons, Call.save.injEq, reduceCtorEq, List.not_mem_nil,
      or_false] at hmem
    rcases hmem with ⟨-, rfl⟩ | ⟨-, rfl⟩
    · exact hmarked
    · exact hlater
  have hcalls := calls_refine_map distantSlots {} sharedCalls hempty hloads
  exact ⟨hempty, hloads, hcalls.1, hcalls.2.1⟩

/-! ### Halves that spell a character -/

/-- Two unpaired halves that stand for the bytes of a letter. -/
def spellingSlot : String := String.ofList [Text.ofHalf 0xDCC3, Text.ofHalf 0xDCA9]

/-- **A slot is not always listed under its name:** a game that is saved in a slot of unpaired halves
is listed under the letter that they spell. -/
theorem slots_of_spelling_slot :
    withoutBarred spellingSlot = spellingSlot ∧ spellingSlot ≠ "é" ∧
      (markedSlots.save {} (.str spellingSlot) markedGame).1.toBool = true ∧
      markedSlots.slots (markedSlots.save {} (.str spellingSlot) markedGame).2 = ["é"] := by
  refine ⟨by decide +kernel, by decide +kernel, by decide +kernel, ?_⟩
  have hplace : (markedSlots.save {} (.str spellingSlot) markedGame).2.resolve
      markedSlots.directory = .ok ["saves"] := by decide +kernel
  have hnode : (markedSlots.save {} (.str spellingSlot) markedGame).2.node? ["saves"] =
      some .directory := by decide +kernel
  have hnames : (markedSlots.save {} (.str spellingSlot) markedGame).2.documentNames ["saves"] =
      ["é.json"] := by decide +kernel
  have hstem : FileTree.stem "é.json" = "é" := by decide +kernel
  rw [slots, FileTree.documents_eq hplace hnode, hnames, List.map_singleton, hstem,
    List.mergeSort_singleton]

end Questbook.SaveSlots
