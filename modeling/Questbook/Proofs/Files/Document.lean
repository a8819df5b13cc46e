import Questbook.Files.Document
import Questbook.Proofs.Json.Fields
import Questbook.Proofs.Json.LongNumeral

set_option autoImplicit false

/-! # What comes of a file that is to hold a record

A file that is there gives a record, or it is damaged, and then the fault names the file and says what is
wrong (`Damages`). Two kinds of bytes give neither (`Escapes`): those with a numeral that is too long, and
those of which a record is read up to an infinite number in the place of a whole one. Their faults are
passed on as they are.
-/

namespace Questbook.Document

open Json

variable {α : Type} {damaged : Damage → Fault} {ofJson : Json → Except Fault α}
  {overflows : Json → Prop} {files : FileTree} {p : Path} {bytes : ByteArray}

/-- **Whether bytes state a record.** -/
def States (ofJson : Json → Except Fault α) (bytes : ByteArray) (a : α) : Prop :=
  ∃ fs, readBytes bytes = .ok (.obj fs) ∧ ofJson (.obj fs) = .ok a

/-- **What is wrong with bytes** that are to state a record. -/
inductive Damages (ofJson : Json → Except Fault α) (bytes : ByteArray) : Damage → Prop
  | undecodable (h : readBytes bytes = .error .malformed) : Damages ofJson bytes .undecodable
  | notAnObject {j : Json} (h : readBytes bytes = .ok j) (hobj : ∀ fs, j ≠ .obj fs) :
      Damages ofJson bytes .notAnObject
  | malformed {fs : List (String × Json)} {f : Fault} (h : readBytes bytes = .ok (.obj fs))
      (hrecord : ofJson (.obj fs) = .error f) (hf : f.inDocument = true) :
      Damages ofJson bytes .malformed

/-- **The faults of bytes that are not reported as damage,** if a record `overflows` where an infinite
number stops its reading. -/
inductive Escapes (overflows : Json → Prop) (bytes : ByteArray) : Fault → Prop
  | longNumeral (h : readBytes bytes = .error .longNumeral) : Escapes overflows bytes .longNumeral
  | infinite {fs : List (String × Json)} (h : readBytes bytes = .ok (.obj fs))
      (hover : overflows (.obj fs)) : Escapes overflows bytes .infinite

theorem load_of_read (hread : files.read p = .ok bytes) :
    load damaged ofJson files p =
      (readObject damaged bytes >>= fun document => sound damaged (ofJson document)) := by
  unfold load
  rw [hread]
  rfl

theorem load_of_readBytes {fs : List (String × Json)} (hread : files.read p = .ok bytes)
    (hbytes : readBytes bytes = .ok (.obj fs)) :
    load damaged ofJson files p = sound damaged (ofJson (.obj fs)) := by
  rw [load_of_read hread, readObject, hbytes]
  rfl

/-- What a file gives whose bytes are no object. -/
theorem load_of_not_readBytes (hread : files.read p = .ok bytes)
    (hbytes : ∀ fs, readBytes bytes ≠ .ok (.obj fs)) :
    (∃ damage, load damaged ofJson files p = .error (damaged damage) ∧
        Damages ofJson bytes damage) ∨
      (load damaged ofJson files p = .error .longNumeral ∧
        readBytes bytes = .error .longNumeral) := by
  rw [load_of_read hread, readObject]
  cases hj : readBytes bytes with
  | error e =>
      cases e with
      | malformed => exact Or.inl ⟨_, rfl, .undecodable hj⟩
      | longNumeral => exact Or.inr ⟨rfl, rfl⟩
  | ok j =>
      have hobj : ∀ fs, j ≠ .obj fs := by
        rintro fs rfl
        exact hbytes fs hj
      refine Or.inl ⟨.notAnObject, ?_, .notAnObject hj hobj⟩
      cases j with
      | obj fs => exact absurd rfl (hobj fs)
      | _ => rfl

/-- **A file gives a record, is damaged, or has a fault that is passed on.** -/
theorem load_outcome (damaged : Damage → Fault) (hread : files.read p = .ok bytes)
    (honly : ∀ fs, readBytes bytes = .ok (.obj fs) →
      OverflowsIf Fault.inDocument (ofJson (.obj fs)) (overflows (.obj fs))) :
    (∃ a, load damaged ofJson files p = .ok a ∧ States ofJson bytes a) ∨
      (∃ damage, load damaged ofJson files p = .error (damaged damage) ∧
        Damages ofJson bytes damage) ∨
      ∃ f, load damaged ofJson files p = .error f ∧ Escapes overflows bytes f := by
  by_cases hbytes : ∃ fs, readBytes bytes = .ok (.obj fs)
  · obtain ⟨fs, hfs⟩ := hbytes
    rw [load_of_readBytes hread hfs]
    cases hrecord : ofJson (.obj fs) with
    | ok a => exact Or.inl ⟨a, rfl, fs, hfs, hrecord⟩
    | error f =>
        refine Or.inr ?_
        cases hf : f.inDocument with
        | true =>
            refine Or.inl ⟨.malformed, ?_, .malformed hfs hrecord hf⟩
            rw [sound, hf, if_pos rfl]
        | false =>
            obtain ⟨rfl, hover⟩ := (honly fs hfs f hf).mp hrecord
            exact Or.inr ⟨.infinite, rfl, .infinite hfs hover⟩
  · rcases load_of_not_readBytes hread (fun fs hfs => hbytes ⟨fs, hfs⟩) with h | ⟨h, hlong⟩
    · exact Or.inr (Or.inl h)
    · exact Or.inr (Or.inr ⟨_, h, .longNumeral hlong⟩)

/-- **The faults that are passed on** are those of the bytes. -/
theorem load_of_escapes (hread : files.read p = .ok bytes)
    (honly : ∀ fs, readBytes bytes = .ok (.obj fs) →
      OverflowsIf Fault.inDocument (ofJson (.obj fs)) (overflows (.obj fs)))
    {f : Fault} (h : Escapes overflows bytes f) : load damaged ofJson files p = .error f := by
  cases h with
  | longNumeral hlong =>
      rw [load_of_read hread, readObject, hlong]
      rfl
  | infinite hfs hover =>
      have hrecord := (honly _ hfs .infinite rfl).mpr ⟨rfl, hover⟩
      rw [load_of_readBytes hread hfs, hrecord]
      rfl

/-- A numeral that is too long stands in the text as a long run of digits. -/
theorem Escapes.exists_longRun (h : Escapes overflows bytes .longNumeral) :
    ∃ s, String.fromUTF8? bytes = some s ∧ HasLongRun s.toList := by
  cases h with
  | longNumeral hlong => exact exists_longRun_of_readBytes hlong

end Questbook.Document
