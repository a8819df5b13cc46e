import Questbook.Proofs.Outcome
import Questbook.Token.Application

set_option autoImplicit false

/-! # What is written into maps of names

What is written under a name is found under every spelling of the name and under no other one
(`get?_set`). Writing into a map puts one new value among the old ones, and under a known name it adds
no name. A map of whole numbers stays one when a whole number is added under a name, and the addition
does not fail.
-/

namespace Questbook

namespace NameMap

variable {α : Type}

/-! ## Looking up -/

theorem lookup?_congr (es : List (String × α)) {a b : String} (h : Text.fold a = Text.fold b) :
    lookup? es a = lookup? es b := by
  induction es with
  | nil => rfl
  | cons e es ih => rw [lookup?, lookup?, h, ih]

theorem lookup?_put (es : List (String × α)) (a b : String) (v : α) :
    lookup? (put es a v) b = if Text.fold a = Text.fold b then some v else lookup? es b := by
  induction es with
  | nil => rfl
  | cons e es ih =>
      by_cases hea : Text.fold e.1 = Text.fold a
      · rw [put, if_pos hea, lookup?, lookup?, hea]
        by_cases hab : Text.fold a = Text.fold b
        · rw [if_pos hab, if_pos hab]
        · rw [if_neg hab, if_neg hab, if_neg hab]
      · rw [put, if_neg hea, lookup?, lookup?, ih]
        by_cases heb : Text.fold e.1 = Text.fold b
        · have hab : Text.fold a ≠ Text.fold b := fun hab => hea (heb.trans hab.symm)
          rw [if_pos heb, if_pos heb, if_neg hab]
        · rw [if_neg heb, if_neg heb]

theorem lookup?_append (es es' : List (String × α)) (name : String) :
    lookup? (es ++ es') name = (lookup? es name).or (lookup? es' name) := by
  induction es with
  | nil => rfl
  | cons e es ih =>
      rw [List.cons_append, lookup?, lookup?, ih]
      split <;> rfl

theorem lookup?_erase (es : List (String × α)) (a b : String) :
    lookup? (erase es a) b = if Text.fold a = Text.fold b then none else lookup? es b := by
  induction es with
  | nil => simp [erase, lookup?]
  | cons e es ih =>
      unfold erase at ih ⊢
      by_cases hea : Text.fold e.1 = Text.fold a
      · rw [List.filter_cons_of_neg (by simp [hea]), ih, lookup?, hea]
        by_cases hab : Text.fold a = Text.fold b
        · rw [if_pos hab, if_pos hab]
        · rw [if_neg hab, if_neg hab, if_neg hab]
      · rw [List.filter_cons_of_pos (by simp [hea]), lookup?, lookup?, ih]
        by_cases heb : Text.fold e.1 = Text.fold b
        · have hab : Text.fold a ≠ Text.fold b := fun hab => hea (heb.trans hab.symm)
          rw [if_pos heb, if_neg hab, if_pos heb]
        · rw [if_neg heb, if_neg heb]

/-- A value is found under the name of its entry, however this is spelled. -/
theorem lookup?_of_mem {es : List (String × α)} (hdistinct : (keysOf es).Nodup) {e : String × α}
    (he : e ∈ es) {name : String} (hname : Text.fold e.1 = Text.fold name) :
    lookup? es name = some e.2 := by
  induction es with
  | nil => cases he
  | cons e' es ih =>
      obtain ⟨hnew, hrest⟩ := List.nodup_cons.mp hdistinct
      rcases List.mem_cons.mp he with rfl | he
      · rw [lookup?, if_pos hname]
      · have hother : Text.fold e'.1 ≠ Text.fold name := fun hsame =>
          hnew (List.mem_map.mpr ⟨e, he, hname.trans hsame.symm⟩)
        rw [lookup?, if_neg hother, ih hrest he]

/-- What is found under a name stands in an entry of that name. -/
theorem entry_of_lookup? {es : List (String × α)} {name : String} {v : α}
    (h : lookup? es name = some v) : ∃ e ∈ es, Text.fold e.1 = Text.fold name ∧ e.2 = v := by
  induction es with
  | nil => cases h
  | cons e es ih =>
      unfold lookup? at h
      split at h
      · next hname => exact ⟨e, by simp, hname, Option.some.inj h⟩
      · obtain ⟨e', he', hname, hv⟩ := ih h
        exact ⟨e', by simp [he'], hname, hv⟩

theorem isSome_lookup? {es : List (String × α)} {name : String} :
    (lookup? es name).isSome = true ↔ Text.fold name ∈ keysOf es := by
  induction es with
  | nil => exact ⟨nofun, nofun⟩
  | cons e es ih =>
      have hkeys : keysOf (e :: es) = Text.fold e.1 :: keysOf es := rfl
      rw [lookup?, hkeys, List.mem_cons, ← ih]
      by_cases hname : Text.fold e.1 = Text.fold name
      · rw [if_pos hname]
        exact ⟨fun _ => Or.inl hname.symm, fun _ => rfl⟩
      · rw [if_neg hname]
        exact ⟨Or.inr, fun h => h.resolve_left fun hsame => hname hsame.symm⟩

/-- Spellings of one name find the same value. -/
theorem get?_congr (m : NameMap α) {a b : String} (h : Text.fold a = Text.fold b) :
    m.get? a = m.get? b :=
  lookup?_congr m.entries h

/-- **What is found after writing under a name.** -/
theorem get?_set (m : NameMap α) (a b : String) (v : α) :
    (m.set a v).get? b = if Text.fold a = Text.fold b then some v else m.get? b :=
  lookup?_put m.entries a b v

theorem get?_remove (m : NameMap α) (a b : String) :
    (m.remove a).get? b = if Text.fold a = Text.fold b then none else m.get? b :=
  lookup?_erase m.entries a b

/-- **The last value written under a name is found,** or else what was there before. -/
theorem get?_setAll (m : NameMap α) (ps : List (String × α)) (name : String) :
    (m.setAll ps).get? name = (lookup? ps.reverse name).or (m.get? name) := by
  induction ps generalizing m with
  | nil => rfl
  | cons p ps ih =>
      have hstep : m.setAll (p :: ps) = (m.set p.1 p.2).setAll ps := rfl
      rw [hstep, ih, List.reverse_cons, lookup?_append, get?_set, lookup?, lookup?]
      split
      · simp
      · simp

theorem get?_ofEntries (ps : List (String × α)) (name : String) :
    (ofEntries ps).get? name = lookup? ps.reverse name := by
  rw [ofEntries, get?_setAll]
  exact Option.or_none

theorem get?_of_mem (m : NameMap α) {e : String × α} (he : e ∈ m.entries) :
    m.get? e.1 = some e.2 :=
  lookup?_of_mem m.distinct he rfl

theorem contains_iff (m : NameMap α) (name : String) :
    m.contains name = true ↔ Text.fold name ∈ keysOf m.entries :=
  isSome_lookup?

/-! ## Writing -/

theorem mem_of_lookup? {es : List (String × α)} {name : String} {v : α}
    (h : lookup? es name = some v) : ∃ e ∈ es, e.2 = v := by
  obtain ⟨e, he, -, hv⟩ := entry_of_lookup? h
  exact ⟨e, he, hv⟩

theorem mem_put {es : List (String × α)} {name : String} {v : α} {e : String × α}
    (h : e ∈ put es name v) : e.2 = v ∨ e ∈ es := by
  induction es with
  | nil =>
      rw [put, List.mem_singleton] at h
      exact Or.inl (by rw [h])
  | cons e' es ih =>
      unfold put at h
      split at h
      · rcases List.mem_cons.mp h with rfl | h
        · exact Or.inl rfl
        · exact Or.inr (by simp [h])
      · rcases List.mem_cons.mp h with rfl | h
        · exact Or.inr (by simp)
        · rcases ih h with hv | hm
          · exact Or.inl hv
          · exact Or.inr (by simp [hm])

/-- The spellings of the names of a map, in the order of its entries. -/
def names (m : NameMap α) : List String :=
  m.entries.map Prod.fst

theorem map_fst_put {es : List (String × α)} {name : String} {v w : α}
    (h : lookup? es name = some w) : (put es name v).map Prod.fst = es.map Prod.fst := by
  induction es with
  | nil => cases h
  | cons e es ih =>
      unfold lookup? at h
      unfold put
      split at h
      · next hfold => rw [if_pos hfold, List.map_cons, List.map_cons]
      · next hfold => rw [if_neg hfold, List.map_cons, List.map_cons, ih h]

/-- Writing under a known name adds no name. -/
theorem names_set {m : NameMap α} {name : String} (h : m.contains name = true) (v : α) :
    (m.set name v).names = m.names := by
  obtain ⟨w, hw⟩ := Option.isSome_iff_exists.mp h
  exact map_fst_put hw

theorem put_of_not_mem {es : List (String × α)} {name : String} (h : Text.fold name ∉ keysOf es)
    (v : α) : put es name v = es ++ [(name, v)] := by
  induction es with
  | nil => rfl
  | cons e es ih =>
      unfold keysOf at h
      rw [List.map_cons, List.mem_cons] at h
      unfold put
      rw [if_neg fun heq => h (Or.inl heq.symm), ih fun hm => h (Or.inr hm)]
      rfl

/-- Entries with new names are added at the end. -/
theorem entries_setAll {m : NameMap α} {es : List (String × α)}
    (h : (keysOf (m.entries ++ es)).Nodup) : (m.setAll es).entries = m.entries ++ es := by
  induction es generalizing m with
  | nil => rw [List.append_nil]; rfl
  | cons e es ih =>
      have hnew : Text.fold e.1 ∉ keysOf m.entries := by
        intro hmem
        unfold keysOf at h hmem
        rw [List.map_append, List.nodup_append] at h
        exact h.2.2 _ hmem _ (by simp) rfl
      have hput : (m.set e.1 e.2).entries = m.entries ++ [e] := put_of_not_mem hnew e.2
      have hstep : (m.setAll (e :: es)) = (m.set e.1 e.2).setAll es := rfl
      rw [hstep, ih]
      · rw [hput, List.append_assoc]
        rfl
      · rw [hput, List.append_assoc]
        exact h

/-! ## Whole numbers -/

/-- **Whether all values are whole numbers.** -/
def Whole (m : NameMap Json) : Prop :=
  ∀ e ∈ m.entries, ∃ n, e.2 = .int n

theorem whole_empty : (empty : NameMap Json).Whole := by
  intro e he
  cases he

theorem Whole.set {m : NameMap Json} (h : m.Whole) (name : String) (n : Int) :
    (m.set name (.int n)).Whole := by
  intro e he
  rcases mem_put he with hv | hm
  · exact ⟨n, hv⟩
  · exact h e hm

/-- The whole number under a name. -/
def whole? (m : NameMap Json) (name : String) : Option Int :=
  match m.get? name with
  | some (.int n) => some n
  | _ => none

theorem Whole.get?_eq {m : NameMap Json} (h : m.Whole) (name : String) :
    m.get? name = (m.whole? name).map .int := by
  unfold whole?
  cases hv : m.get? name with
  | none => rfl
  | some v =>
      obtain ⟨e, he, rfl⟩ := mem_of_lookup? hv
      obtain ⟨n, hn⟩ := h e he
      rw [hn]
      rfl

theorem whole?_congr (m : NameMap Json) {a b : String} (h : Text.fold a = Text.fold b) :
    m.whole? a = m.whole? b := by
  unfold whole?
  rw [m.get?_congr h]

theorem whole?_set (m : NameMap Json) (a b : String) (n : Int) :
    (m.set a (.int n)).whole? b = if Text.fold a = Text.fold b then some n else m.whole? b := by
  unfold whole?
  rw [get?_set]
  by_cases h : Text.fold a = Text.fold b
  · rw [if_pos h, if_pos h]
  · rw [if_neg h, if_neg h]

theorem Whole.contains_eq {m : NameMap Json} (h : m.Whole) (name : String) :
    m.contains name = (m.whole? name).isSome := by
  unfold contains
  rw [h.get?_eq, Option.isSome_map]

end NameMap

/-- Adding under a name writes the sum there. -/
theorem eq_set_of_addUnder {m m' : NameMap Json} {name : String} {delta : Int}
    (h : addUnder m name delta = .ok m') : ∃ v, m' = m.set name v := by
  obtain ⟨v, -, hset⟩ := bind_eq_ok_iff.mp h
  cases hset
  exact ⟨v, rfl⟩

/-- **Whole numbers can be added to.** -/
theorem NameMap.Whole.addUnder_eq {m : NameMap Json} (h : m.Whole) (name : String) (delta : Int) :
    Questbook.addUnder m name delta = .ok (m.set name (.int ((m.whole? name).getD 0 + delta))) := by
  unfold Questbook.addUnder
  rw [h.get?_eq]
  cases m.whole? name <;> rfl

theorem NameMap.Whole.addUnder {m : NameMap Json} (h : m.Whole) (name : String) (delta : Int) :
    ∃ m', Questbook.addUnder m name delta = .ok m' ∧ m'.Whole :=
  ⟨_, h.addUnder_eq name delta, h.set name _⟩

theorem NameMap.Whole.updateUnder {m : NameMap Json} (h : m.Whole) (name : String) (u : Update) :
    ∃ m', Questbook.updateUnder m name u = .ok m' ∧ m'.Whole := by
  cases u with
  | set value => exact ⟨_, rfl, h.set name value⟩
  | shift delta => exact h.addUnder name delta

end Questbook
