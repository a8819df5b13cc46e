import Questbook.Files.Name
import Questbook.Proofs.Text.Points

set_option autoImplicit false

/-! # What files are called

A file is called as it was named, but for the halves in its name that spell a character
(`joinHalves`). What is left of a name spells nothing more, so a file can be named by what it is
called (`diskName_diskName`). A name without halves for bytes stays as it is (`diskName_of_no_byte`),
and an ending without them stays at the end (`diskName_append`).

Names have a total order (`nameLe_total`, `nameLe_antisymm`), so that a listing has one order only.
-/

namespace Questbook.Text

/-! ## Halves that stand for bytes -/

/-- No ASCII character stands for a half. -/
theorem half?_of_ascii {c : Char} (h : c.toNat < 128) : half? c = none := by
  unfold half?
  rw [if_neg (by omega)]

theorem byte?_of_no_half {c : Char} (h : half? c = none) : byte? c = none := by
  unfold byte?
  rw [h]
  rfl

theorem exists_half_of_byte? {c : Char} {b : Nat} (h : byte? c = some b) :
    ∃ n, half? c = some n ∧ isByteHalf n = true := by
  obtain ⟨n, hn, -⟩ := Option.map_eq_some_iff.mp h
  exact ⟨n, Option.filter_eq_some_iff.mp hn⟩

theorem furtherBits?_of_no_byte {c : Char} (h : byte? c = none) : furtherBits? c = none := by
  unfold furtherBits?
  rw [h]
  rfl

theorem exists_byte_of_furtherBits? {c : Char} {more : Nat} (h : furtherBits? c = some more) :
    ∃ b, byte? c = some b ∧ b < 0xC0 := by
  obtain ⟨b, hb, -⟩ := Option.map_eq_some_iff.mp h
  obtain ⟨hbyte, hlow⟩ := Option.filter_eq_some_iff.mp hb
  exact ⟨b, hbyte, of_decide_eq_true hlow⟩

/-- **No byte both begins a character and goes on with one.** -/
theorem spelled?_of_furtherBits? {c : Char} {more : Nat} (h : furtherBits? c = some more)
    (cs : List Char) : spelled? (c :: cs) = none := by
  obtain ⟨b, hbyte, hlow⟩ := exists_byte_of_furtherBits? h
  have hleading : leadingByte? b = none := by
    unfold leadingByte?
    rw [if_pos hlow]
  rw [spelled?, hbyte, Option.bind_some, hleading]

/-- Only halves for bytes spell something. -/
theorem spelled?_of_no_byte {c : Char} (h : byte? c = none) (cs : List Char) :
    spelled? (c :: cs) = none := by
  rw [spelled?, h, Option.bind_none]

/-! ## Spelled characters -/

/-- **What is known of a spelled character.** It is no ASCII character; the character in front of the
text, and as many further ones as are taken, stand for bytes. -/
structure Spells (c : Char) (cs : List Char) (n count : Nat) : Prop where
  first : ∃ b, byte? c = some b
  length : count ≤ cs.length
  further : ∀ e ∈ cs.take count, ∃ b, byte? e = some b
  proper : isScalar n = true
  beyond : 128 ≤ n

theorem Spells.half?_of_mem {c d : Char} {cs : List Char} {n count : Nat} (h : Spells c cs n count)
    (hd : d ∈ kept n) : half? d = none :=
  half?_of_mem_kept h.proper hd

theorem Spells.no_byte {c d : Char} {cs : List Char} {n count : Nat} (h : Spells c cs n count)
    (hd : d ∈ kept n) : byte? d = none :=
  byte?_of_no_half (h.half?_of_mem hd)

theorem takeBits?_eq_some {count bits n : Nat} {cs : List Char}
    (h : takeBits? count bits cs = some n) :
    count ≤ cs.length ∧ ∀ e ∈ cs.take count, ∃ b, byte? e = some b := by
  induction count generalizing bits cs with
  | zero => exact ⟨Nat.zero_le _, by simp⟩
  | succ count ih =>
      cases cs with
      | nil => cases h
      | cons c cs =>
          rw [takeBits?] at h
          cases hmore : furtherBits? c with
          | none =>
              rw [hmore] at h
              cases h
          | some more =>
              rw [hmore] at h
              obtain ⟨hlength, hbytes⟩ := ih h
              obtain ⟨b, hb, -⟩ := exists_byte_of_furtherBits? hmore
              rw [List.take_succ_cons, List.forall_mem_cons]
              exact ⟨Nat.succ_le_succ hlength, ⟨b, hb⟩, hbytes⟩

/-- No ASCII character is written with several bytes. -/
theorem least_of_leadingByte? {b count bits least : Nat}
    (h : leadingByte? b = some (count, bits, least)) : 128 ≤ least := by
  unfold leadingByte? at h
  grind

theorem spells_of_spelled? {c : Char} {cs : List Char} {n count : Nat}
    (h : spelled? (c :: cs) = some (n, count)) : Spells c cs n count := by
  rw [spelled?] at h
  cases hleading : (byte? c).bind leadingByte? with
  | none =>
      rw [hleading] at h
      cases h
  | some r =>
      obtain ⟨taken, bits, least⟩ := r
      rw [hleading] at h
      dsimp only at h
      cases htaken : takeBits? taken bits cs with
      | none =>
          rw [htaken] at h
          cases h
      | some m =>
          rw [htaken] at h
          dsimp only at h
          split at h
          · next hproper =>
            cases h
            obtain ⟨b, hb, hleading⟩ := Option.bind_eq_some_iff.mp hleading
            obtain ⟨hlength, hfurther⟩ := takeBits?_eq_some htaken
            exact ⟨⟨b, hb⟩, hlength, hfurther, hproper.2,
              Nat.le_trans (least_of_leadingByte? hleading) hproper.1⟩
          · cases h

/-! ## Joining halves -/

/-- **Joining either replaces halves by a character they spell or keeps what is in front.** -/
theorem joinHalves_cons_cases (c : Char) (cs : List Char) :
    (∃ n count, Spells c cs n count ∧ joinHalves 0 (c :: cs) = kept n ++ joinHalves count cs) ∨
      spelled? (c :: cs) = none ∧ joinHalves 0 (c :: cs) = c :: joinHalves 0 cs := by
  rw [joinHalves]
  cases hspelled : spelled? (c :: cs) with
  | none => exact Or.inr ⟨rfl, rfl⟩
  | some r => exact Or.inl ⟨r.1, r.2, spells_of_spelled? hspelled, rfl⟩

theorem joinHalves_of_no_byte {cs : List Char} (h : ∀ c ∈ cs, byte? c = none) :
    joinHalves 0 cs = cs := by
  induction cs with
  | nil => rfl
  | cons c cs ih =>
      obtain ⟨hc, hcs⟩ := List.forall_mem_cons.mp h
      rw [joinHalves, spelled?_of_no_byte hc]
      exact congrArg (c :: ·) (ih hcs)

/-- What joining leaves has been there before, or it is a spelled character. -/
theorem mem_joinHalves {c : Char} {skip : Nat} {cs : List Char} (h : c ∈ joinHalves skip cs) :
    c ∈ cs ∨ 128 ≤ c.toNat := by
  induction cs generalizing skip with
  | nil => cases h
  | cons e cs ih =>
      cases skip with
      | succ skip => exact (ih h).imp_left (List.mem_cons_of_mem e)
      | zero =>
          rcases joinHalves_cons_cases e cs with ⟨n, count, hspells, heq⟩ | ⟨-, heq⟩
          · rw [heq, List.mem_append] at h
            rcases h with h | h
            · exact Or.inr (le_toNat_of_mem_kept hspells.proper hspells.beyond (by decide) h)
            · exact (ih h).imp_left (List.mem_cons_of_mem e)
          · rw [heq, List.mem_cons] at h
            rcases h with rfl | h
            · exact Or.inl (List.mem_cons_self ..)
            · exact (ih h).imp_left (List.mem_cons_of_mem e)

/-! ### Joining again -/

/-- The bits that are taken are not touched by joining: the halves that go on with a character begin
none themselves, and what is put in the place of others does not go on with one. -/
theorem takeBits?_joinHalves (count bits : Nat) (cs : List Char) :
    takeBits? count bits (joinHalves 0 cs) = takeBits? count bits cs := by
  induction count generalizing bits cs with
  | zero => rfl
  | succ count ih =>
      cases cs with
      | nil => rfl
      | cons c cs =>
          rcases joinHalves_cons_cases c cs with ⟨n, skipped, hspells, heq⟩ | ⟨-, heq⟩
          · -- a character was spelled here: neither it nor its first half goes on with another one
            obtain ⟨d, ds, hkept⟩ := List.exists_cons_of_ne_nil (kept_ne_nil n)
            have hproper : byte? d = none := hspells.no_byte (by rw [hkept]; exact List.mem_cons_self)
            have hc : furtherBits? c = none := by
              cases hmore : furtherBits? c with
              | none => rfl
              | some more =>
                  rw [joinHalves, spelled?_of_furtherBits? hmore cs, hkept] at heq
                  obtain ⟨b, hb⟩ := hspells.first
                  rw [← (List.cons.inj heq).1, hb] at hproper
                  cases hproper
            rw [heq, hkept, List.cons_append, takeBits?, takeBits?, furtherBits?_of_no_byte hproper, hc]
          · rw [heq, takeBits?, takeBits?]
            cases furtherBits? c with
            | none => rfl
            | some more => exact ih _ cs

theorem spelled?_joinHalves (c : Char) (cs : List Char) :
    spelled? (c :: joinHalves 0 cs) = spelled? (c :: cs) := by
  unfold spelled?
  simp only [takeBits?_joinHalves]

/-- What spells nothing stays in front of the text. -/
theorem joinHalves_append_left {ds : List Char} (h : ∀ d ∈ ds, byte? d = none) (cs : List Char) :
    joinHalves 0 (ds ++ cs) = ds ++ joinHalves 0 cs := by
  induction ds with
  | nil => rfl
  | cons d ds ih =>
      obtain ⟨hd, hds⟩ := List.forall_mem_cons.mp h
      rw [List.cons_append, joinHalves, spelled?_of_no_byte hd]
      exact congrArg (d :: ·) (ih hds)

theorem joinHalves_joinHalves (skip : Nat) (cs : List Char) :
    joinHalves 0 (joinHalves skip cs) = joinHalves skip cs := by
  induction cs generalizing skip with
  | nil => rfl
  | cons c cs ih =>
      cases skip with
      | succ skip => exact ih skip
      | zero =>
          rcases joinHalves_cons_cases c cs with ⟨n, count, hspells, heq⟩ | ⟨hkept, heq⟩
          · -- what was put in spells nothing
            rw [heq, joinHalves_append_left (fun d hd => hspells.no_byte hd), ih count]
          · -- what was kept spells no more than before
            rw [heq, joinHalves, spelled?_joinHalves, hkept]
            exact congrArg (c :: ·) (ih 0)

/-! ### Joining in front of an ending -/

/-- An ending that begins without a half for a byte gives no bits. -/
theorem takeBits?_append {ending : List Char} (h : ∀ c ∈ ending, byte? c = none)
    (count bits : Nat) (cs : List Char) :
    takeBits? count bits (cs ++ ending) = takeBits? count bits cs := by
  induction count generalizing bits cs with
  | zero => rfl
  | succ count ih =>
      cases cs with
      | nil =>
          cases ending with
          | nil => rfl
          | cons e ending =>
              have he := furtherBits?_of_no_byte (h e (List.mem_cons_self ..))
              rw [List.nil_append, takeBits?, takeBits?, he]
      | cons c cs =>
          rw [List.cons_append, takeBits?, takeBits?]
          cases furtherBits? c with
          | none => rfl
          | some more => exact ih _ cs

theorem joinHalves_append {ending : List Char} (h : ∀ c ∈ ending, byte? c = none) {skip : Nat}
    {cs : List Char} (hskip : skip ≤ cs.length) :
    joinHalves skip (cs ++ ending) = joinHalves skip cs ++ ending := by
  induction cs generalizing skip with
  | nil =>
      obtain rfl : skip = 0 := Nat.le_zero.mp hskip
      exact joinHalves_of_no_byte h
  | cons c cs ih =>
      cases skip with
      | succ skip => exact ih (Nat.le_of_succ_le_succ hskip)
      | zero =>
          -- the ending gives no bits, so the same is spelled with it as without it
          have hspelled : spelled? (c :: (cs ++ ending)) = spelled? (c :: cs) := by
            unfold spelled?
            simp only [takeBits?_append h]
          rw [List.cons_append, joinHalves, joinHalves, hspelled]
          cases hr : spelled? (c :: cs) with
          | none => exact congrArg (c :: ·) (ih (Nat.zero_le _))
          | some r =>
              dsimp only
              rw [ih (spells_of_spelled? hr).length, List.append_assoc]

/-! ### Halves that are no bytes -/

/-- Whether a character can be part of the name of a file as far as halves are concerned. -/
def isEncodableChar (c : Char) : Bool := (half? c).all isByteHalf

theorem isEncodableChar_of_byte {c : Char} (h : ∃ b, byte? c = some b) :
    isEncodableChar c = true := by
  obtain ⟨b, hb⟩ := h
  obtain ⟨n, hn, hbyte⟩ := exists_half_of_byte? hb
  unfold isEncodableChar
  rw [hn]
  exact hbyte

theorem isEncodableChar_of_no_half {c : Char} (h : half? c = none) :
    isEncodableChar c = true := by
  unfold isEncodableChar
  rw [h]
  rfl

/-- Joining loses no half that cannot be encoded. -/
theorem all_isEncodableChar_joinHalves {skip : Nat} {cs : List Char}
    (h : ∀ c ∈ cs.take skip, isEncodableChar c = true) :
    (joinHalves skip cs).all isEncodableChar = cs.all isEncodableChar := by
  induction cs generalizing skip with
  | nil => rfl
  | cons c cs ih =>
      cases skip with
      | succ skip =>
          rw [List.take_succ_cons, List.forall_mem_cons] at h
          rw [List.all_cons, h.1, Bool.true_and]
          exact ih h.2
      | zero =>
          rcases joinHalves_cons_cases c cs with ⟨n, count, hspells, heq⟩ | ⟨-, heq⟩
          · have hn : (kept n).all isEncodableChar = true :=
              List.all_eq_true.mpr fun d hd => isEncodableChar_of_no_half (hspells.half?_of_mem hd)
            have hc := isEncodableChar_of_byte hspells.first
            have hrest := ih fun e he => isEncodableChar_of_byte (hspells.further e he)
            rw [heq, List.all_append, List.all_cons, hn, hc, hrest]
          · rw [heq, List.all_cons, List.all_cons, ih (by simp)]

/-! ## Names on the disk -/

/-- **A file can be named by what it is called.** -/
theorem diskName_diskName (s : String) : diskName (diskName s) = diskName s := by
  unfold diskName
  rw [String.toList_ofList, joinHalves_joinHalves]

/-- A name without halves for bytes is what the file is called. -/
theorem diskName_of_no_byte {s : String} (h : ∀ c ∈ s.toList, byte? c = none) :
    diskName s = s := by
  unfold diskName
  rw [joinHalves_of_no_byte h, String.ofList_toList]

/-- **An ending without halves stays at the end.** -/
theorem diskName_append {ending : String} (h : ∀ c ∈ ending.toList, byte? c = none) (s : String) :
    diskName (s ++ ending) = diskName s ++ ending := by
  unfold diskName
  rw [String.toList_append, joinHalves_append h (Nat.zero_le _), String.ofList_append,
    String.ofList_toList]

theorem isEncodableName_diskName (s : String) :
    isEncodableName (diskName s) = isEncodableName s := by
  unfold diskName isEncodableName
  rw [String.toList_ofList]
  exact all_isEncodableChar_joinHalves (by simp)

theorem diskName_ne_empty {s : String} (h : s ≠ "") : diskName s ≠ "" := by
  intro hempty
  have hjoined : joinHalves 0 s.toList = [] := by
    rw [diskName, String.ofList_eq_empty_iff] at hempty
    exact hempty
  cases hcs : s.toList with
  | nil => exact h (String.toList_eq_nil_iff.mp hcs)
  | cons c cs =>
      rw [hcs] at hjoined
      rcases joinHalves_cons_cases c cs with ⟨n, count, -, heq⟩ | ⟨-, heq⟩
      · rw [heq, List.append_eq_nil_iff] at hjoined
        exact kept_ne_nil n hjoined.1
      · rw [heq] at hjoined
        cases hjoined

/-! ## The order of names -/

theorem rowLe_cons_iff {a b : Nat} {as bs : List Nat} :
    rowLe (a :: as) (b :: bs) = true ↔ a < b ∨ a = b ∧ rowLe as bs = true := by
  rw [rowLe, Bool.or_eq_true, Bool.and_eq_true, decide_eq_true_eq, beq_iff_eq]

theorem rowLe_total (as bs : List Nat) : rowLe as bs = true ∨ rowLe bs as = true := by
  induction as generalizing bs with
  | nil => exact Or.inl rfl
  | cons a as ih =>
      cases bs with
      | nil => exact Or.inr rfl
      | cons b bs =>
          rw [rowLe_cons_iff, rowLe_cons_iff]
          rcases Nat.lt_trichotomy a b with h | rfl | h
          · exact Or.inl (Or.inl h)
          · exact (ih bs).imp (fun hrest => Or.inr ⟨rfl, hrest⟩) fun hrest => Or.inr ⟨rfl, hrest⟩
          · exact Or.inr (Or.inl h)

theorem rowLe_trans {as bs cs : List Nat} (hab : rowLe as bs = true) (hbc : rowLe bs cs = true) :
    rowLe as cs = true := by
  induction as generalizing bs cs with
  | nil => rfl
  | cons a as ih =>
      cases bs with
      | nil => cases hab
      | cons b bs =>
          cases cs with
          | nil => cases hbc
          | cons c cs =>
              rw [rowLe_cons_iff] at hab hbc ⊢
              rcases hab with hab | ⟨rfl, hab⟩
              · exact Or.inl (by omega)
              · rcases hbc with hbc | ⟨rfl, hbc⟩
                · exact Or.inl hbc
                · exact Or.inr ⟨rfl, ih hab hbc⟩

theorem rowLe_antisymm {as bs : List Nat} (hab : rowLe as bs = true) (hba : rowLe bs as = true) :
    as = bs := by
  induction as generalizing bs with
  | nil =>
      cases bs with
      | nil => rfl
      | cons b bs => cases hba
  | cons a as ih =>
      cases bs with
      | nil => cases hab
      | cons b bs =>
          rw [rowLe_cons_iff] at hab hba
          rcases hab with hab | ⟨rfl, hab⟩
          · omega
          · rcases hba with hba | ⟨-, hba⟩
            · omega
            · rw [ih hab hba]

theorem nameLe_total (a b : String) : (nameLe a b || nameLe b a) = true := by
  rw [Bool.or_eq_true]
  exact rowLe_total _ _

theorem nameLe_trans {a b c : String} (hab : nameLe a b = true) (hbc : nameLe b c = true) :
    nameLe a c = true :=
  rowLe_trans hab hbc

theorem nameLe_antisymm {a b : String} (hab : nameLe a b = true) (hba : nameLe b a = true) :
    a = b := by
  have hpoints : points a.toList = points b.toList := rowLe_antisymm hab hba
  rw [← String.toList_inj, ← flatMap_kept_points a.toList, hpoints, flatMap_kept_points]

/-- **Names can be sorted.** -/
theorem sorted_mergeSort (names : List String) :
    (names.mergeSort nameLe).Pairwise fun a b => nameLe a b = true := by
  refine List.pairwise_mergeSort ?_ nameLe_total names
  intro a b c
  exact nameLe_trans

end Questbook.Text
