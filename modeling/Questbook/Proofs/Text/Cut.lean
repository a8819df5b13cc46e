import Questbook.Proofs.Text.Trim
import Questbook.Text.Cut

set_option autoImplicit false

/-! # Pieces of texts

Where `cutAt`, `splitAt` and `splitAtLeast` cut a text that is put together from pieces: at the
separators between them, and nowhere else. Blanks around a text change none of its trimmed pieces
(`map_trimChars_splitAt_of_padded`, `map_trimChars_splitAtLeast_of_padded`).
-/

namespace Questbook.Text

/-! ## Cutting at the first separator -/

theorem cutAt_of_notMem {sep : Char} {cs : List Char} (h : sep ∉ cs) : cutAt sep cs = (cs, none) := by
  induction cs with
  | nil => rfl
  | cons c cs ih =>
      have hc : c ≠ sep := fun x => h (by simp [x])
      have hcs : sep ∉ cs := fun x => h (by simp [x])
      rw [cutAt, if_neg hc, ih hcs]

theorem cutAt_append {sep : Char} {a : List Char} (h : sep ∉ a) (b : List Char) :
    cutAt sep (a ++ sep :: b) = (a, some b) := by
  induction a with
  | nil => simp [cutAt]
  | cons c a ih =>
      have hc : c ≠ sep := fun x => h (by simp [x])
      have ha : sep ∉ a := fun x => h (by simp [x])
      rw [List.cons_append, cutAt, if_neg hc, ih ha]

/-! ## Splitting at every separator -/

theorem splitAt_of_notMem {sep : Char} {cs : List Char} (h : sep ∉ cs) : splitAt sep cs = [cs] := by
  induction cs with
  | nil => rfl
  | cons c cs ih =>
      have hc : c ≠ sep := fun x => h (by simp [x])
      have hcs : sep ∉ cs := fun x => h (by simp [x])
      rw [splitAt, if_neg hc, ih hcs]

theorem splitAt_append {sep : Char} {a : List Char} (h : sep ∉ a) (b : List Char) :
    splitAt sep (a ++ sep :: b) = a :: splitAt sep b := by
  induction a with
  | nil => simp [splitAt]
  | cons c a ih =>
      have hc : c ≠ sep := fun x => h (by simp [x])
      have ha : sep ∉ a := fun x => h (by simp [x])
      rw [List.cons_append, splitAt, if_neg hc, ih ha]

theorem notMem_of_mem_splitAt {sep : Char} {cs p : List Char} (h : p ∈ splitAt sep cs) :
    sep ∉ p := by
  induction cs generalizing p with
  | nil =>
      have hp : p = [] := by simpa [splitAt] using h
      simp [hp]
  | cons c cs ih =>
      rw [splitAt] at h
      split at h
      · rcases List.mem_cons.mp h with rfl | hp
        · simp
        · exact ih hp
      · next hc =>
        split at h
        · next hs => exact absurd hs (splitAt_ne_nil sep cs)
        · next q qs hs =>
          rcases List.mem_cons.mp h with rfl | hp
          · have hq : sep ∉ q := ih (by simp [hs])
            simp [hq, Ne.symm hc]
          · exact ih (by simp [hs, hp])

/-! ## Splitting at every `>=` -/

/-- Whether `>=` stands in a text. -/
def HoldsAtLeast (cs : List Char) : Prop := ['>', '='] <:+: cs

instance (cs : List Char) : Decidable (HoldsAtLeast cs) :=
  inferInstanceAs (Decidable (['>', '='] <:+: cs))

theorem splitAtLeast_cons {c : Char} {cs : List Char} (h : ¬ (c = '>' ∧ cs.head? = some '=')) :
    splitAtLeast (c :: cs) = match splitAtLeast cs with
      | [] => [[c]]
      | p :: ps => (c :: p) :: ps := by
  rw [splitAtLeast.eq_def]
  split
  · next rest heq =>
    cases heq
    exact absurd ⟨rfl, rfl⟩ h
  · next heq => cases heq
  · next heq => cases heq; rfl

/-- A text that starts with a character holds `>=` there or further on. -/
theorem holdsAtLeast_cons {c : Char} {cs : List Char} :
    HoldsAtLeast (c :: cs) ↔ (c = '>' ∧ cs.head? = some '=') ∨ HoldsAtLeast cs := by
  unfold HoldsAtLeast
  rw [List.infix_cons_iff]
  apply or_congr_left
  cases cs with
  | nil => simp
  | cons d cs => simp [List.cons_prefix_cons, eq_comm]

theorem splitAtLeast_of_not_holds {cs : List Char} (h : ¬ HoldsAtLeast cs) :
    splitAtLeast cs = [cs] := by
  induction cs with
  | nil => rfl
  | cons c cs ih =>
      rw [holdsAtLeast_cons, not_or] at h
      rw [splitAtLeast_cons h.1, ih h.2]

theorem splitAtLeast_append {a : List Char} (h : ¬ HoldsAtLeast a) (b : List Char) :
    splitAtLeast (a ++ '>' :: '=' :: b) = a :: splitAtLeast b := by
  induction a with
  | nil => rw [List.nil_append, splitAtLeast]
  | cons c a ih =>
      rw [holdsAtLeast_cons, not_or] at h
      -- the sign in front of the separator is no part of it
      have hc : ¬ (c = '>' ∧ (a ++ '>' :: '=' :: b).head? = some '=') := by
        cases a with
        | nil => simp
        | cons d a => simpa using h.1
      rw [List.cons_append, splitAtLeast_cons hc, ih h.2]

theorem not_holds_of_mem_splitAtLeast {cs p : List Char} (h : p ∈ splitAtLeast cs) :
    ¬ HoldsAtLeast p := by
  fun_induction splitAtLeast cs generalizing p with
  | case1 cs ih =>
      rcases List.mem_cons.mp h with rfl | hp
      · decide
      · exact ih hp
  | case2 =>
      have hp : p = [] := by simpa using h
      subst hp
      decide
  | case3 c cs _ hs _ => exact absurd hs (splitAtLeast_ne_nil cs)
  | case4 c cs hcs q qs hs ih =>
      rcases List.mem_cons.mp h with rfl | hp
      · rw [holdsAtLeast_cons, not_or]
        refine ⟨?_, ih (by simp [hs])⟩
        rintro ⟨rfl, hq⟩
        -- the first piece starts the text, so `>=` would stand at its head
        have hj := joinWith_splitAtLeast cs
        rw [hs] at hj
        obtain ⟨r, rfl⟩ : ∃ r, q = '=' :: r := by
          cases q with
          | nil => simp at hq
          | cons d r => exact ⟨r, by simpa using hq⟩
        cases qs with
        | nil => exact hcs _ rfl hj.symm
        | cons q' qs => exact hcs _ rfl hj.symm
      · exact ih (by simp [hs, hp])

/-- A text is a single piece exactly when it does not hold `>=`. -/
theorem length_splitAtLeast_eq_one_iff (cs : List Char) :
    (splitAtLeast cs).length = 1 ↔ ¬ HoldsAtLeast cs := by
  constructor
  · intro h
    obtain ⟨p, hp⟩ := List.length_eq_one_iff.mp h
    have hj := joinWith_splitAtLeast cs
    rw [hp] at hj
    have hcs : p = cs := hj
    exact hcs ▸ @not_holds_of_mem_splitAtLeast cs _ (by simp [hp])
  · intro h
    rw [splitAtLeast_of_not_holds h]
    rfl

/-- The two pieces of a text that is cut at its only `>=`. -/
theorem splitAtLeast_eq_pair_iff {cs a b : List Char} :
    splitAtLeast cs = [a, b] ↔
      cs = a ++ '>' :: '=' :: b ∧ ¬ HoldsAtLeast a ∧ ¬ HoldsAtLeast b := by
  constructor
  · intro h
    have hj := joinWith_splitAtLeast cs
    rw [h] at hj
    refine ⟨by simpa [joinWith] using hj.symm, ?_, ?_⟩
    · exact @not_holds_of_mem_splitAtLeast cs _ (by simp [h])
    · exact @not_holds_of_mem_splitAtLeast cs _ (by simp [h])
  · rintro ⟨rfl, ha, hb⟩
    rw [splitAtLeast_append ha, splitAtLeast_of_not_holds hb]

/-- The two pieces of a text that is cut at its only separator. -/
theorem splitAt_eq_pair_iff {sep : Char} {cs a b : List Char} :
    splitAt sep cs = [a, b] ↔ cs = a ++ sep :: b ∧ sep ∉ a ∧ sep ∉ b := by
  constructor
  · intro h
    have hj := joinWith_splitAt sep cs
    rw [h] at hj
    refine ⟨by simpa [joinWith] using hj.symm, ?_, ?_⟩
    · exact @notMem_of_mem_splitAt sep cs _ (by simp [h])
    · exact @notMem_of_mem_splitAt sep cs _ (by simp [h])
  · rintro ⟨rfl, ha, hb⟩
    rw [splitAt_append ha, splitAt_of_notMem hb]

/-! ## Blanks around a text -/

theorem trimChars_trimEndChars (cs : List Char) : trimChars (trimEndChars cs) = trimChars cs := by
  obtain ⟨b, hb, h⟩ := trimEndChars_append_trimmedPart cs
  calc trimChars (trimEndChars cs)
      = trimChars (trimEndChars cs ++ b) := (trimChars_append_blank hb _).symm
    _ = trimChars cs := by rw [← h]

theorem trimEndChars_cons_congr {p q : List Char} (h : trimEndChars p = trimEndChars q) (c : Char) :
    trimEndChars (c :: p) = trimEndChars (c :: q) := by
  have key : ∀ r : List Char, trimEndChars (c :: r) = trimEndChars (c :: trimEndChars r) := by
    intro r
    obtain ⟨b, hb, hr⟩ := trimEndChars_append_trimmedPart r
    calc trimEndChars (c :: r)
        = trimEndChars ((c :: trimEndChars r) ++ b) := by rw [List.cons_append, ← hr]
      _ = trimEndChars (c :: trimEndChars r) := trimEndChars_append_blank hb _
  rw [key p, key q, h]

theorem trimChars_cons_blank {c : Char} (hc : isBlankChar c = true) (cs : List Char) :
    trimChars (c :: cs) = trimChars cs :=
  trimChars_blank_append (a := [c]) (by simpa [AllBlank] using hc) cs

/-- Pieces that are the same up to blanks at their ends are the same trimmed. -/
theorem map_trimChars_congr {ps qs : List (List Char)}
    (h : ps.map trimEndChars = qs.map trimEndChars) : ps.map trimChars = qs.map trimChars := by
  have key : ∀ rs : List (List Char), rs.map trimChars = (rs.map trimEndChars).map trimChars := by
    intro rs
    rw [List.map_map]
    exact List.map_congr_left fun r _ => (trimChars_trimEndChars r).symm
  rw [key ps, key qs, h]

theorem map_trimChars_splitAt_blank_append {sep : Char} (hs : isBlankChar sep = false)
    {a : List Char} (ha : AllBlank a) (cs : List Char) :
    (splitAt sep (a ++ cs)).map trimChars = (splitAt sep cs).map trimChars := by
  induction a with
  | nil => rfl
  | cons c a ih =>
      have hb : isBlankChar c = true := ha c (by simp)
      have hc : c ≠ sep := fun x => by simp [← x, hb] at hs
      rw [← ih fun d hd => ha d (by simp [hd]), List.cons_append, splitAt, if_neg hc]
      cases h : splitAt sep (a ++ cs) with
      | nil => exact absurd h (splitAt_ne_nil sep _)
      | cons p ps => simp [trimChars_cons_blank hb]

theorem map_trimEndChars_splitAt_append_blank {sep : Char} (hs : isBlankChar sep = false)
    {b : List Char} (hb : AllBlank b) (cs : List Char) :
    (splitAt sep (cs ++ b)).map trimEndChars = (splitAt sep cs).map trimEndChars := by
  induction cs with
  | nil =>
      have hsb : sep ∉ b := fun h => by simp [hb sep h] at hs
      simp [splitAt_of_notMem hsb, splitAt, trimEndChars_of_allBlank hb, trimEndChars_nil]
  | cons c cs ih =>
      rw [List.cons_append, splitAt, splitAt]
      split
      · simp [ih]
      · cases h : splitAt sep (cs ++ b) with
        | nil => exact absurd h (splitAt_ne_nil sep _)
        | cons p ps =>
            cases h' : splitAt sep cs with
            | nil => exact absurd h' (splitAt_ne_nil sep _)
            | cons q qs =>
                rw [h, h'] at ih
                simp only [List.map_cons, List.cons.injEq] at ih ⊢
                exact ⟨trimEndChars_cons_congr ih.1 c, ih.2⟩

/-- Blanks around a text change none of its trimmed pieces. -/
theorem map_trimChars_splitAt_of_padded {sep : Char} (hs : isBlankChar sep = false)
    {cs w : List Char} (h : Padded cs w) :
    (splitAt sep w).map trimChars = (splitAt sep cs).map trimChars := by
  obtain ⟨a, b, ha, hb, rfl⟩ := h
  rw [map_trimChars_congr (map_trimEndChars_splitAt_append_blank hs hb (a ++ cs)),
    map_trimChars_splitAt_blank_append hs ha]

theorem map_trimChars_splitAtLeast_blank_append {a : List Char} (ha : AllBlank a)
    (cs : List Char) :
    (splitAtLeast (a ++ cs)).map trimChars = (splitAtLeast cs).map trimChars := by
  induction a with
  | nil => rfl
  | cons c a ih =>
      have hb : isBlankChar c = true := ha c (by simp)
      have hc : ¬ (c = '>' ∧ (a ++ cs).head? = some '=') := by
        rintro ⟨rfl, -⟩
        exact absurd hb (by decide)
      rw [← ih fun d hd => ha d (by simp [hd]), List.cons_append, splitAtLeast_cons hc]
      cases h : splitAtLeast (a ++ cs) with
      | nil => exact absurd h (splitAtLeast_ne_nil _)
      | cons p ps => simp [trimChars_cons_blank hb]

theorem not_holdsAtLeast_of_allBlank {b : List Char} (hb : AllBlank b) : ¬ HoldsAtLeast b := by
  intro h
  have hm : '>' ∈ b := h.subset (by simp)
  exact absurd (hb '>' hm) (by decide)

theorem map_trimEndChars_splitAtLeast_append_blank {b : List Char} (hb : AllBlank b)
    (cs : List Char) :
    (splitAtLeast (cs ++ b)).map trimEndChars = (splitAtLeast cs).map trimEndChars := by
  fun_induction splitAtLeast cs with
  | case1 cs ih =>
      rw [List.cons_append, List.cons_append, splitAtLeast]
      simp [ih]
  | case2 =>
      rw [List.nil_append, splitAtLeast_of_not_holds (not_holdsAtLeast_of_allBlank hb)]
      simp [trimEndChars_of_allBlank hb, trimEndChars_nil]
  | case3 c cs _ hs _ => exact absurd hs (splitAtLeast_ne_nil cs)
  | case4 c cs hcs q qs hs ih =>
      have hc : ¬ (c = '>' ∧ (cs ++ b).head? = some '=') := by
        rintro ⟨rfl, hd⟩
        cases cs with
        | nil =>
            -- no blank is the second half of `>=`
            have hm : '=' ∈ b := List.mem_of_head? hd
            exact absurd (hb '=' hm) (by decide)
        | cons d cs => exact hcs cs rfl (by simpa using hd)
      rw [List.cons_append, splitAtLeast_cons hc]
      cases h : splitAtLeast (cs ++ b) with
      | nil => exact absurd h (splitAtLeast_ne_nil _)
      | cons p ps =>
          rw [h, hs] at ih
          simp only [List.map_cons, List.cons.injEq] at ih ⊢
          exact ⟨trimEndChars_cons_congr ih.1 c, ih.2⟩

/-- Blanks around a text change none of its trimmed pieces between `>=`. -/
theorem map_trimChars_splitAtLeast_of_padded {cs w : List Char} (h : Padded cs w) :
    (splitAtLeast w).map trimChars = (splitAtLeast cs).map trimChars := by
  obtain ⟨a, b, ha, hb, rfl⟩ := h
  rw [map_trimChars_congr (map_trimEndChars_splitAtLeast_append_blank hb (a ++ cs)),
    map_trimChars_splitAtLeast_blank_append ha]

end Questbook.Text
