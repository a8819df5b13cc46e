import Questbook.Text.Blank

set_option autoImplicit false

/-! # Trimmed and padded texts

A text is **trimmed** when it neither starts nor ends blank (`Trimmed`), and **padded** when blanks
are put around it (`Padded`). Trimming gives a trimmed text (`trimmed_trimChars`), of which the text
itself is a padded form (`padded_trimChars`), and it takes off nothing but the padding
(`trimChars_of_padded`).
-/

namespace Questbook.Text

/-- Whether a text has blank characters only. -/
def AllBlank (cs : List Char) : Prop := ∀ c ∈ cs, isBlankChar c = true

/-- **A text that neither starts nor ends blank.** -/
structure Trimmed (cs : List Char) : Prop where
  head : ∀ c, cs.head? = some c → isBlankChar c = false
  last : ∀ c, cs.getLast? = some c → isBlankChar c = false

/-- **A text with blanks around it.** -/
def Padded (cs w : List Char) : Prop :=
  ∃ a b, AllBlank a ∧ AllBlank b ∧ w = a ++ cs ++ b

theorem allBlank_nil : AllBlank [] := by
  intro c hc
  cases hc

theorem padded_self (cs : List Char) : Padded cs cs :=
  ⟨[], [], allBlank_nil, allBlank_nil, by simp⟩

/-- A character that is not blank stands in the padded text exactly when it stands in the text. -/
theorem mem_padded_iff {cs w : List Char} (h : Padded cs w) {c : Char}
    (hc : isBlankChar c = false) : c ∈ w ↔ c ∈ cs := by
  obtain ⟨a, b, ha, hb, rfl⟩ := h
  have hna : c ∉ a := fun hm => by simp [ha c hm] at hc
  have hnb : c ∉ b := fun hm => by simp [hb c hm] at hc
  simp [hna, hnb]

/-! ## Blanks at the two ends -/

theorem dropWhile_blank_append {a : List Char} (ha : AllBlank a) (cs : List Char) :
    (a ++ cs).dropWhile isBlankChar = cs.dropWhile isBlankChar :=
  List.dropWhile_append_of_pos ha

theorem trimEndChars_append_blank {b : List Char} (hb : AllBlank b) (cs : List Char) :
    trimEndChars (cs ++ b) = trimEndChars cs := by
  unfold trimEndChars
  rw [List.reverse_append, List.dropWhile_append_of_pos]
  intro c hc
  exact hb c (List.mem_reverse.mp hc)

theorem trimEndChars_of_allBlank {b : List Char} (hb : AllBlank b) : trimEndChars b = [] := by
  have h := trimEndChars_append_blank hb []
  rwa [List.nil_append, trimEndChars_nil] at h

theorem trimChars_blank_append {a : List Char} (ha : AllBlank a) (cs : List Char) :
    trimChars (a ++ cs) = trimChars cs := by
  unfold trimChars
  rw [dropWhile_blank_append ha]

theorem trimChars_append_blank {b : List Char} (hb : AllBlank b) (cs : List Char) :
    trimChars (cs ++ b) = trimChars cs := by
  unfold trimChars
  rw [List.dropWhile_append]
  split
  · next h =>
    -- nothing is left of the text, and nothing is left of the blanks behind it
    have hcs : cs.dropWhile isBlankChar = [] := by simpa using h
    have hb' : AllBlank (b.dropWhile isBlankChar) := fun c hc =>
      hb c (List.dropWhile_subset isBlankChar hc)
    rw [hcs, trimEndChars_of_allBlank hb', trimEndChars_nil]
  · exact trimEndChars_append_blank hb _

/-- Trimming takes the padding off. -/
theorem trimChars_of_padded {cs w : List Char} (h : Padded cs w) : trimChars w = trimChars cs := by
  obtain ⟨a, b, ha, hb, rfl⟩ := h
  rw [trimChars_append_blank hb, trimChars_blank_append ha]

/-! ## What trimming gives -/

theorem trimEndChars_append_trimmedPart (cs : List Char) :
    ∃ b, AllBlank b ∧ cs = trimEndChars cs ++ b := by
  refine ⟨(cs.reverse.takeWhile isBlankChar).reverse, ?_, ?_⟩
  · intro c hc
    exact List.all_eq_true.mp List.all_takeWhile c (List.mem_reverse.mp hc)
  · unfold trimEndChars
    rw [← List.reverse_append, List.takeWhile_append_dropWhile, List.reverse_reverse]

/-- Every text is a padded form of what trimming leaves of it. -/
theorem padded_trimChars (cs : List Char) : Padded (trimChars cs) cs := by
  obtain ⟨b, hb, h⟩ := trimEndChars_append_trimmedPart (cs.dropWhile isBlankChar)
  refine ⟨cs.takeWhile isBlankChar, b, ?_, hb, ?_⟩
  · intro c hc
    exact List.all_eq_true.mp List.all_takeWhile c hc
  · rw [List.append_assoc]
    show cs = cs.takeWhile isBlankChar ++ (trimEndChars (cs.dropWhile isBlankChar) ++ b)
    rw [← h, List.takeWhile_append_dropWhile]

theorem mem_of_mem_trimChars {cs : List Char} {c : Char} (h : c ∈ trimChars cs) : c ∈ cs := by
  obtain ⟨a, b, -, -, hcs⟩ := padded_trimChars cs
  rw [hcs]
  simp [h]

theorem getLast?_trimEndChars {cs : List Char} {c : Char}
    (h : (trimEndChars cs).getLast? = some c) : isBlankChar c = false := by
  unfold trimEndChars at h
  rw [List.getLast?_reverse] at h
  have hd := List.head?_dropWhile_not isBlankChar cs.reverse
  rw [h] at hd
  simpa using hd

/-- What is trimmed neither starts nor ends blank. -/
theorem trimmed_trimChars (cs : List Char) : Trimmed (trimChars cs) := by
  refine ⟨?_, fun c hc => getLast?_trimEndChars hc⟩
  intro c hc
  obtain ⟨b, -, hb⟩ := trimEndChars_append_trimmedPart (cs.dropWhile isBlankChar)
  have hhead : (cs.dropWhile isBlankChar).head? = some c := by
    rw [hb, List.head?_append]
    show (trimChars cs).head?.or b.head? = some c
    rw [hc]
    rfl
  have hd := List.head?_dropWhile_not isBlankChar cs
  rw [hhead] at hd
  simpa using hd

/-- A trimmed text is left as it is. -/
theorem Trimmed.trimChars_eq {cs : List Char} (h : Trimmed cs) : trimChars cs = cs := by
  have hd : cs.dropWhile isBlankChar = cs := by
    cases cs with
    | nil => rfl
    | cons c cs => exact List.dropWhile_cons_of_neg (by simp [h.head c rfl])
  have hr : cs.reverse.dropWhile isBlankChar = cs.reverse := by
    cases hcs : cs.reverse with
    | nil => rfl
    | cons c rest =>
        have hlast : cs.getLast? = some c := by
          rw [← List.reverse_reverse cs, List.getLast?_reverse, hcs]
          rfl
        exact List.dropWhile_cons_of_neg (by simp [h.last c hlast])
  unfold trimChars trimEndChars
  rw [hd, hr, List.reverse_reverse]

theorem trimChars_trimChars (cs : List Char) : trimChars (trimChars cs) = trimChars cs :=
  (trimmed_trimChars cs).trimChars_eq

/-- Trimming takes a trimmed text out of its padding. -/
theorem Trimmed.trimChars_of_padded {cs w : List Char} (hcs : Trimmed cs) (h : Padded cs w) :
    trimChars w = cs := by
  rw [Text.trimChars_of_padded h, hcs.trimChars_eq]

/-- A text without blank characters is trimmed. -/
theorem trimmed_of_forall_not_blank {cs : List Char} (h : ∀ c ∈ cs, isBlankChar c = false) :
    Trimmed cs :=
  ⟨fun c hc => h c (List.mem_of_head? hc), fun c hc => h c (List.mem_of_getLast? hc)⟩

theorem trimmed_of_all {cs : List Char} (h : (cs.all fun c => !isBlankChar c) = true) :
    Trimmed cs := by
  refine trimmed_of_forall_not_blank fun c hc => ?_
  have hnot := List.all_eq_true.mp h c hc
  simpa using hnot

end Questbook.Text
