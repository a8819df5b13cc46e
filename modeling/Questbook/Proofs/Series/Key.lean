import Questbook.Proofs.Text.Lowercase
import Questbook.Series.Resource

set_option autoImplicit false

/-! # Normal forms of keys

The normal form of a key is a key of its own: it is not blank, and nothing is left to be trimmed off it
(`isBlank_normalKey`, `trim_normalKey`). It leads to the document that the key leads to: a key that
names a document keeps its spelling up to the blanks around it (`normalKey_of_namesDocument`), and a
key of a series stays one of the same series (`lookup_middles_normalKey`). The one key that turns into
something else is one that names a document only after its spaces are gone.
-/

namespace Questbook

namespace Text

/-- A text is blank when nothing is left of it. -/
theorem isBlank_iff_trim {s : String} : isBlank s = true ↔ trim s = "" := by
  have hlist : isBlank s = true ↔ trimChars s.toList = [] := trimChars_eq_nil_iff.symm
  rw [hlist, trim, ← String.toList_inj, String.toList_ofList]
  rfl

theorem trim_trim (s : String) : trim (trim s) = trim s := by
  unfold trim
  rw [String.toList_ofList, trimChars_trimChars]

theorem trim_of_trimmed {s : String} (h : Trimmed s.toList) : trim s = s := by
  rw [trim, h.trimChars_eq, String.ofList_toList]

/-- A trimmed text that is not empty is not blank. -/
theorem isBlank_of_trimmed {s : String} (h : Trimmed s.toList) (hs : s ≠ "") : isBlank s = false := by
  rw [← Bool.not_eq_true, isBlank_iff_trim, trim_of_trimmed h]
  exact hs

theorem isBlank_trim {s : String} (h : isBlank s = false) : isBlank (trim s) = false := by
  rw [← Bool.not_eq_true, isBlank_iff_trim] at h ⊢
  rwa [trim_trim]

theorem trimmed_trim (s : String) : Trimmed (trim s).toList := by
  rw [trim, String.toList_ofList]
  exact trimmed_trimChars s.toList

/-- A trimmed text stays trimmed when blanks are taken out of it. -/
theorem Trimmed.filter {cs : List Char} (h : Trimmed cs) {keep : Char → Bool}
    (hkeep : ∀ c, isBlankChar c = false → keep c = true) : Trimmed (cs.filter keep) := by
  refine ⟨fun d hd => ?_, fun d hd => ?_⟩
  · cases cs with
    | nil => cases hd
    | cons c cs =>
        have hc := h.head c rfl
        rw [List.filter_cons_of_pos (hkeep c hc)] at hd
        obtain rfl := Option.some.inj hd
        exact hc
  · cases List.eq_nil_or_concat cs with
    | inl hnil =>
        rw [hnil] at hd
        cases hd
    | inr hconcat =>
        obtain ⟨front, c, rfl⟩ := hconcat
        have hc := h.last c (by simp)
        rw [List.concat_eq_append, List.filter_append, List.filter_cons_of_pos (hkeep c hc),
          List.filter_nil, List.getLast?_concat] at hd
        obtain rfl := Option.some.inj hd
        exact hc

end Text

namespace Series

/-! ## Spaces -/

theorem toList_withoutSpaces (s : String) :
    (withoutSpaces s).toList = s.toList.filter fun c => c ≠ ' ' :=
  String.toList_ofList

/-- A text without spaces has none to take out. -/
theorem withoutSpaces_of_notMem {s : String} (h : ' ' ∉ s.toList) : withoutSpaces s = s := by
  rw [← String.toList_inj, toList_withoutSpaces, List.filter_eq_self]
  intro c hc
  refine decide_eq_true ?_
  rintro rfl
  exact h hc

theorem space_notMem_withoutSpaces (s : String) : ' ' ∉ (withoutSpaces s).toList := by
  rw [toList_withoutSpaces]
  intro hmem
  exact absurd rfl (of_decide_eq_true (List.mem_filter.mp hmem).2)

theorem trimmed_withoutSpaces_trim (s : String) :
    Text.Trimmed (withoutSpaces (Text.trim s)).toList := by
  rw [toList_withoutSpaces]
  refine (Text.trimmed_trim s).filter fun c hc => decide_eq_true ?_
  rintro rfl
  cases hc

theorem withoutSpaces_trim_ne_empty {s : String} (h : Text.isBlank s = false) :
    withoutSpaces (Text.trim s) ≠ "" := by
  intro hempty
  have hnone : ∀ c ∈ (Text.trim s).toList, c = ' ' := by
    have hfilter := congrArg String.toList hempty
    rw [toList_withoutSpaces] at hfilter
    intro c hc
    exact Classical.not_not.mp fun hne => List.filter_eq_nil_iff.mp hfilter c hc (decide_eq_true hne)
  -- what is left would have spaces only, and so be blank
  have hblank : Text.isBlank (Text.trim s) = true := by
    refine List.all_eq_true.mpr fun c hc => ?_
    rw [hnone c hc]
    rfl
  rw [Text.isBlank_trim h] at hblank
  cases hblank

/-! ## Lower case without spaces -/

/-- The lower case without spaces of a key, which is the normal form of a key that names no document. -/
def plainKey (s : String) : String := Text.lowercase (withoutSpaces (Text.trim s))

theorem toList_plainKey (s : String) :
    (plainKey s).toList = Text.lowerChars (withoutSpaces (Text.trim s)).toList :=
  String.toList_ofList

theorem trimmed_plainKey (s : String) : Text.Trimmed (plainKey s).toList := by
  rw [toList_plainKey]
  exact (trimmed_withoutSpaces_trim s).lowerChars

theorem plainKey_ne_empty {s : String} (h : Text.isBlank s = false) : plainKey s ≠ "" := by
  have hne : (withoutSpaces (Text.trim s)).toList ≠ [] := fun hnil =>
    withoutSpaces_trim_ne_empty h (String.toList_eq_nil_iff.mp hnil)
  intro hempty
  have hlist := toList_plainKey s
  rw [hempty, String.toList_empty] at hlist
  exact Text.lowerChars_ne_nil hne hlist.symm

theorem space_notMem_plainKey (s : String) : ' ' ∉ (plainKey s).toList := by
  rw [toList_plainKey]
  intro hmem
  exact space_notMem_withoutSpaces _ (Text.mem_of_mem_lowerChars_of_blank hmem rfl)

/-- Lower case leaves the keys of the series as they are, and they are ASCII. -/
theorem middles_plain : ∀ m ∈ middles,
    Text.lowercase m.1 = m.1 ∧ ∀ c ∈ m.1.toList, c.toNat < 128 := by
  have hall : (middles.all fun m =>
      Text.lowercase m.1 == m.1 && m.1.toList.all fun c => c.toNat < 128) = true := by
    decide +kernel
  intro m hm
  have hplain := List.all_eq_true.mp hall m hm
  rw [Bool.and_eq_true, beq_iff_eq, List.all_eq_true] at hplain
  exact ⟨hplain.1, fun c hc => of_decide_eq_true (hplain.2 c hc)⟩

theorem mem_of_lookup {α β : Type} [BEq α] [LawfulBEq α] {xs : List (α × β)} {a : α} {b : β}
    (h : xs.lookup a = some b) : (a, b) ∈ xs := by
  obtain ⟨front, rest, rfl, -⟩ := List.lookup_eq_some_iff.mp h
  simp

/-- **A key in lower case stands for the series that its lower case stands for.** Lower case is not
always reached in one step; it is where the series are concerned. -/
theorem lookup_middles_lowercase (s : String) :
    middles.lookup (Text.lowercase (plainKey s)) = middles.lookup (plainKey s) := by
  cases hlower : middles.lookup (Text.lowercase (plainKey s)) with
  | some m =>
      -- the key of a series is ASCII, which only a text that is lowered to itself becomes
      have hascii := (middles_plain _ (mem_of_lookup hlower)).2
      rw [Text.lowercase, String.toList_ofList] at hascii
      have hsettled : ∀ c ∈ (plainKey s).toList, Text.IsSettled c := by
        rw [toList_plainKey]
        exact fun c hc => Text.isSettled_of_mem_lowerChars hc
      have hsame : Text.lowercase (plainKey s) = plainKey s := by
        rw [Text.lowercase, Text.lowerChars_eq_self hsettled hascii, String.ofList_toList]
      rw [← hsame, hlower]
  | none =>
      cases hkey : middles.lookup (plainKey s) with
      | some m =>
          rw [(middles_plain _ (mem_of_lookup hkey)).1, hkey] at hlower
          cases hlower
      | none => rfl

/-! ## The normal form -/

theorem normalKey_of_blank {s : String} (h : Text.isBlank s = true) :
    normalKey (some s) = defaultKey := by
  simp only [normalKey, h, if_true]

/-- **A key that names a document keeps its spelling,** up to the blanks around it. -/
theorem normalKey_of_namesDocument {s : String} (h : Text.isBlank s = false)
    (hname : namesDocument (Text.trim s) = true) : normalKey (some s) = Text.trim s := by
  simp only [normalKey, h, hname, if_true, Bool.false_eq_true, if_false]

theorem normalKey_of_not_namesDocument {s : String} (h : Text.isBlank s = false)
    (hname : namesDocument (Text.trim s) = false) : normalKey (some s) = plainKey s := by
  simp only [normalKey, h, hname, Bool.false_eq_true, if_false, plainKey]

/-- What a normal form can be. -/
theorem normalKey_cases (key : Option String) :
    (normalKey key = defaultKey ∧ ∀ s, key = some s → Text.isBlank s = true) ∨
      ∃ s, key = some s ∧ Text.isBlank s = false ∧
        (namesDocument (Text.trim s) = true ∧ normalKey key = Text.trim s ∨
          namesDocument (Text.trim s) = false ∧ normalKey key = plainKey s) := by
  cases key with
  | none => exact Or.inl ⟨rfl, nofun⟩
  | some s =>
      cases hblank : Text.isBlank s with
      | true =>
          refine Or.inl ⟨normalKey_of_blank hblank, ?_⟩
          rintro _ ⟨⟩
          exact hblank
      | false =>
          refine Or.inr ⟨s, rfl, hblank, ?_⟩
          cases hname : namesDocument (Text.trim s) with
          | true => exact Or.inl ⟨rfl, normalKey_of_namesDocument hblank hname⟩
          | false => exact Or.inr ⟨rfl, normalKey_of_not_namesDocument hblank hname⟩

theorem trimmed_normalKey (key : Option String) : Text.Trimmed (normalKey key).toList := by
  rcases normalKey_cases key with ⟨hdefault, -⟩ | ⟨s, -, -, ⟨-, hkey⟩ | ⟨-, hkey⟩⟩
  · rw [hdefault]
    exact Text.trimmed_of_all (by decide)
  · rw [hkey]
    exact Text.trimmed_trim s
  · rw [hkey]
    exact trimmed_plainKey s

/-- **Nothing is left to be trimmed** off a normal form. -/
theorem trim_normalKey (key : Option String) : Text.trim (normalKey key) = normalKey key :=
  Text.trim_of_trimmed (trimmed_normalKey key)

/-- **A normal form is not blank.** -/
theorem isBlank_normalKey (key : Option String) : Text.isBlank (normalKey key) = false := by
  refine Text.isBlank_of_trimmed (trimmed_normalKey key) ?_
  rcases normalKey_cases key with ⟨hdefault, -⟩ | ⟨s, -, hblank, ⟨-, hkey⟩ | ⟨-, hkey⟩⟩
  · rw [hdefault]
    decide
  · rw [hkey]
    intro hempty
    rw [← Bool.not_eq_true, Text.isBlank_iff_trim] at hblank
    exact hblank hempty
  · rw [hkey]
    exact plainKey_ne_empty hblank

/-- **The normal form of a key stands for the series of the key,** if it names no document. -/
theorem lookup_middles_normalKey {s : String} (h : Text.isBlank s = false)
    (hname : namesDocument (plainKey s) = false) :
    middles.lookup (normalKey (some (plainKey s))) = middles.lookup (plainKey s) := by
  have htrim : Text.trim (plainKey s) = plainKey s := Text.trim_of_trimmed (trimmed_plainKey s)
  have hblank : Text.isBlank (plainKey s) = false :=
    Text.isBlank_of_trimmed (trimmed_plainKey s) (plainKey_ne_empty h)
  have hkey : normalKey (some (plainKey s)) = Text.lowercase (plainKey s) := by
    have hspelled : namesDocument (Text.trim (plainKey s)) = false := by
      rw [htrim]
      exact hname
    rw [normalKey_of_not_namesDocument hblank hspelled]
    show Text.lowercase (withoutSpaces (Text.trim (plainKey s))) = Text.lowercase (plainKey s)
    rw [htrim, withoutSpaces_of_notMem (space_notMem_plainKey s)]
  rw [hkey, lookup_middles_lowercase]

end Series

end Questbook
