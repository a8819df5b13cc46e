import Questbook.Proofs.Files.Listing
import Questbook.Proofs.SaveSlots

set_option autoImplicit false

/-! # Keys of slots

Two slots share their game when their files are called the same, so what the file of a slot is called
without its ending is its `key`. For a slot without unpaired halves this is its name with underscores
for the characters that file names cannot have (`key_of_no_half`). A key is the slot of itself
(`key_key`), it is never empty, and it is what is listed for the file (`stem_fileName`).
-/

namespace Questbook.SaveSlots

/-- **What the games of a slot are saved under:** what its file is called, without the ending. -/
def key (slot : String) : String := Text.diskName (withoutBarred slot)

/-! ## Barred characters -/

theorem toNat_lt_of_isBarredChar {c : Char} (h : isBarredChar c = true) : c.toNat < 128 := by
  unfold isBarredChar at h
  rw [Bool.or_eq_true, decide_eq_true_eq, List.contains_iff_mem] at h
  rcases h with h | h
  · omega
  · have hall : (['<', '>', ':', '"', '/', '\\', '|', '?', '*'].all fun d => d.toNat < 128) = true := by
      decide
    exact of_decide_eq_true (List.all_eq_true.mp hall c h)

/-- A text without barred characters stays as it is. -/
theorem withoutBarred_of_forall {text : String}
    (h : ∀ c ∈ text.toList, isBarredChar c = false) : withoutBarred text = text := by
  have hkept : ∀ c ∈ text.toList, (if isBarredChar c then '_' else c) = id c := by
    intro c hc
    rw [h c hc]
    rfl
  unfold withoutBarred
  rw [List.map_congr_left hkept, List.map_id, String.ofList_toList]

theorem withoutBarred_ne_empty {text : String} (h : text ≠ "") : withoutBarred text ≠ "" := by
  intro hempty
  unfold withoutBarred at hempty
  rw [String.ofList_eq_empty_iff, List.map_eq_nil_iff] at hempty
  exact h (String.toList_eq_nil_iff.mp hempty)

theorem isEncodableName_withoutBarred (text : String) :
    Text.isEncodableName (withoutBarred text) = Text.isEncodableName text := by
  have hsame : ∀ c : Char,
      Text.isEncodableChar (if isBarredChar c then '_' else c) = Text.isEncodableChar c := by
    intro c
    by_cases hc : isBarredChar c = true
    · have hlow := Text.half?_of_ascii (toNat_lt_of_isBarredChar hc)
      rw [if_pos hc, Text.isEncodableChar_of_no_half hlow]
      decide
    · rw [if_neg hc]
  show (withoutBarred text).toList.all Text.isEncodableChar = text.toList.all Text.isEncodableChar
  unfold withoutBarred
  rw [String.toList_ofList, List.all_map]
  exact congrArg (List.all text.toList) (funext hsame)

/-! ## Keys -/

theorem key_of_no_half {slot : String} (h : Text.hasHalf slot = false) :
    key slot = withoutBarred slot := by
  refine Text.diskName_of_no_byte fun c hc => Text.byte?_of_no_half ?_
  unfold withoutBarred at hc
  rw [String.toList_ofList] at hc
  obtain ⟨d, hd, rfl⟩ := List.mem_map.mp hc
  split
  · exact Text.half?_of_ascii (by decide)
  · exact Text.half?_of_hasHalf h hd

/-- **A key is the slot of itself.** -/
theorem key_key (slot : String) : key (key slot) = key slot := by
  have hkept : withoutBarred (key slot) = key slot := by
    refine withoutBarred_of_forall fun c hc => ?_
    unfold key Text.diskName at hc
    rw [String.toList_ofList] at hc
    -- a character of the key is one of the name, or it was spelled and is no ASCII character
    rcases Text.mem_joinHalves hc with hc | hbeyond
    · exact isBarredChar_of_mem_withoutBarred hc
    · rw [← Bool.not_eq_true]
      intro hbarred
      have hlow := toNat_lt_of_isBarredChar hbarred
      omega
  calc key (key slot) = Text.diskName (key slot) := congrArg Text.diskName hkept
    _ = key slot := Text.diskName_diskName _

theorem isEncodableName_key (slot : String) :
    Text.isEncodableName (key slot) = Text.isEncodableName slot := by
  unfold key
  rw [Text.isEncodableName_diskName, isEncodableName_withoutBarred]

/-- **A key is not empty.** -/
theorem key_ne_empty {slot : String} (h : Text.isBlank slot = false) : key slot ≠ "" := by
  have hslot : slot ≠ "" := by
    rintro rfl
    cases h
  exact Text.diskName_ne_empty (withoutBarred_ne_empty hslot)

/-- Halves may spell a blank character. -/
example : key (String.ofList [Text.ofHalf 0xDCC2, Text.ofHalf 0xDCA0]) = "\u00a0" := by
  decide +kernel

/-! ## The file of a key -/

theorem fileName_injective {a b : String} (h : Document.fileName a = Document.fileName b) :
    a = b := by
  have hchars := congrArg String.toList h
  rw [fileName_toList, fileName_toList] at hchars
  exact String.toList_inj.mp (List.append_cancel_right hchars)

theorem isDocumentName_fileName (k : String) :
    FileTree.isDocumentName (Document.fileName k) = true := by
  unfold FileTree.isDocumentName
  rw [List.isSuffixOf_iff_suffix, fileName_toList]
  exact List.suffix_append _ _

/-- **What is listed for a file is its name without the ending.** -/
theorem stem_fileName {k : String} (h : k ≠ "") : FileTree.stem (Document.fileName k) = k := by
  have hlength : (Document.fileName k).toList.length - FileTree.documentEnd.length =
      k.toList.length := by
    rw [fileName_toList, List.length_append]
    rfl
  have hsome : k.toList.length ≠ 0 := by
    rw [Ne, List.length_eq_zero_iff, String.toList_eq_nil_iff]
    exact h
  unfold FileTree.stem
  simp only [hlength]
  rw [if_neg hsome, fileName_toList, List.take_left, String.ofList_toList]

theorem diskName_fileName (slot : String) :
    Text.diskName (Document.fileName (withoutBarred slot)) = Document.fileName (key slot) := by
  refine Text.diskName_append (fun c hc => Text.byte?_of_no_half (Text.half?_of_ascii ?_)) _
  have hall : (FileTree.documentEnd.toList.all fun d => d.toNat < 128) = true := by decide
  exact of_decide_eq_true (List.all_eq_true.mp hall c hc)

theorem isEncodableName_fileName (text : String) :
    Text.isEncodableName (Document.fileName text) = Text.isEncodableName text := by
  show (Document.fileName text).toList.all Text.isEncodableChar = text.toList.all Text.isEncodableChar
  have hending : ['.', 'j', 's', 'o', 'n'].all Text.isEncodableChar = true := by decide
  rw [fileName_toList, List.all_append, hending, Bool.and_true]

theorem nul_notMem_fileName (text : String) :
    (Document.fileName (withoutBarred text)).toList.contains '\x00' = false := by
  rw [← Bool.not_eq_true, List.contains_iff_mem, fileName_toList, List.mem_append, not_or]
  refine ⟨fun hmem => ?_, by decide⟩
  exact absurd (isBarredChar_of_mem_withoutBarred hmem) (by decide)

theorem fileName_ne_up (k : String) : Document.fileName k ≠ ".." := by
  intro hup
  have hlast := congrArg (fun name : String => name.toList.getLast?) hup
  simp only [fileName_toList, List.getLast?_append] at hlast
  cases hlast

variable {s : SaveSlots} {files : FileTree} {place : List String} {slot : String}

/-- **The file of a slot has the name of its key.** -/
theorem resolve_slot (hplace : files.resolve s.directory = .ok place)
    (hnode : files.node? place = some .directory) (h : Text.isEncodableName slot = true) :
    files.resolve (s.filePath slot) = .ok (place ++ [Document.fileName (key slot)]) := by
  have hencodable : Text.isEncodableName (Document.fileName (withoutBarred slot)) = true := by
    rw [isEncodableName_fileName, isEncodableName_withoutBarred, h]
  have hup : Text.diskName (Document.fileName (withoutBarred slot)) ≠ ".." := by
    rw [diskName_fileName]
    exact fileName_ne_up _
  rw [filePath, join_fileName, ← diskName_fileName]
  exact FileTree.resolve_child hplace hnode hencodable (nul_notMem_fileName slot) hup

theorem resolve_slot_of_not_encodable (h : Text.isEncodableName slot = false) :
    files.resolve (s.filePath slot) = .error .unencodable := by
  rw [filePath, join_fileName]
  refine FileTree.resolve_child_of_not_encodable ?_
  rw [isEncodableName_fileName, isEncodableName_withoutBarred, h]

end Questbook.SaveSlots
