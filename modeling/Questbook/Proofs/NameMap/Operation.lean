import Questbook.NameMap.Operation
import Questbook.Proofs.NameMap

set_option autoImplicit false

/-! # Maps of names as lists of spellings

What a map of names does is said here without a map, by relations on lists of spellings and values.
A value is written in the place of the entry of its name, under the spelling that stands there, or else
at the end (`Write`); what is taken out leaves the entries before and after it (`Find`). An operation is
a step that is put together from these (`Step`), and several operations are a run (`Run`).

The relations ask for an entry of the name, not for the first one. It is because a map has no two
entries of one name that they leave no choice: each step and each run has exactly one outcome, the one
that the map gives (`step_iff`, `run_iff`).
-/

namespace Questbook

namespace NameMap

variable {α : Type}

/-! ## Entries -/

/-- Whether no entry has a name. -/
def Lacks (es : List (String × α)) (name : String) : Prop :=
  ∀ e ∈ es, Text.fold e.1 ≠ Text.fold name

/-- **A value is written under a name.** -/
inductive Write (name : String) (v : α) : List (String × α) → List (String × α) → Prop
  /-- An entry of the name keeps its place and its spelling. -/
  | known {a b : List (String × α)} {spelling : String} {old : α}
      (same : Text.fold spelling = Text.fold name) :
      Write name v (a ++ (spelling, old) :: b) (a ++ (spelling, v) :: b)
  /-- A new name comes last. -/
  | new {es : List (String × α)} (lacks : Lacks es name) : Write name v es (es ++ [(name, v)])

/-- Values are written one after the other. -/
inductive Writes : List (String × α) → List (String × α) → List (String × α) → Prop
  | nil (es : List (String × α)) : Writes [] es es
  | cons {name : String} {v : α} {rest es es' es'' : List (String × α)} (first : Write name v es es')
      (others : Writes rest es' es'') : Writes ((name, v) :: rest) es es''

/-- **What is found under a name,** together with the other entries. -/
inductive Find (name : String) : List (String × α) → Option (α × List (String × α)) → Prop
  | known {a b : List (String × α)} {spelling : String} {v : α}
      (same : Text.fold spelling = Text.fold name) :
      Find name (a ++ (spelling, v) :: b) (some (v, a ++ b))
  | absent {es : List (String × α)} (lacks : Lacks es name) : Find name es none

theorem Lacks.cons_iff {e : String × α} {es : List (String × α)} {name : String} :
    Lacks (e :: es) name ↔ Text.fold e.1 ≠ Text.fold name ∧ Lacks es name :=
  List.forall_mem_cons

/-- Either some entry has the name, or none has it. -/
theorem known_or_lacks (es : List (String × α)) (name : String) :
    (∃ a spelling v b, es = a ++ (spelling, v) :: b ∧ Text.fold spelling = Text.fold name) ∨
      Lacks es name := by
  by_cases h : ∃ e ∈ es, Text.fold e.1 = Text.fold name
  · obtain ⟨e, he, hname⟩ := h
    obtain ⟨a, b, rfl⟩ := List.append_of_mem he
    exact Or.inl ⟨a, e.1, e.2, b, rfl, hname⟩
  · exact Or.inr fun e he hname => h ⟨e, he, hname⟩

/-- Among entries of different names, those around an entry have other names. -/
theorem lacks_around {a b : List (String × α)} {spelling name : String} {v : α}
    (hdistinct : (keysOf (a ++ (spelling, v) :: b)).Nodup)
    (hname : Text.fold spelling = Text.fold name) : Lacks a name ∧ Lacks b name := by
  have hkeys : keysOf (a ++ (spelling, v) :: b) = keysOf a ++ Text.fold spelling :: keysOf b := by
    rw [keysOf, List.map_append]
    rfl
  rw [hkeys, List.nodup_append] at hdistinct
  obtain ⟨-, hrest, hapart⟩ := hdistinct
  obtain ⟨hnew, -⟩ := List.nodup_cons.mp hrest
  refine ⟨fun e he hsame => ?_, fun e he hsame => ?_⟩
  · exact hapart _ (List.mem_map_of_mem he) _ (List.mem_cons_self ..) (hsame.trans hname.symm)
  · exact hnew (List.mem_map.mpr ⟨e, he, hsame.trans hname.symm⟩)

/-! ## What the functions on entries do -/

section

variable {a b es : List (String × α)} {spelling name : String} {v w : α}

theorem put_of_known (ha : Lacks a name) (hname : Text.fold spelling = Text.fold name) :
    put (a ++ (spelling, v) :: b) name w = a ++ (spelling, w) :: b := by
  induction a with
  | nil => exact if_pos hname
  | cons e a ih =>
      obtain ⟨he, ha⟩ := Lacks.cons_iff.mp ha
      rw [List.cons_append, put, if_neg he, ih ha, List.cons_append]

theorem Lacks.notMem_keysOf (h : Lacks es name) : Text.fold name ∉ keysOf es := by
  intro hmem
  obtain ⟨e, he, hsame⟩ := List.mem_map.mp hmem
  exact h e he hsame

theorem put_of_lacks (h : Lacks es name) : put es name w = es ++ [(name, w)] :=
  put_of_not_mem h.notMem_keysOf w

theorem lookup?_of_lacks (h : Lacks es name) : lookup? es name = none := by
  rw [← Option.not_isSome_iff_eq_none, isSome_lookup?]
  exact h.notMem_keysOf

theorem erase_of_lacks (h : Lacks es name) : erase es name = es :=
  List.filter_eq_self.mpr fun e he => decide_eq_true (h e he)

theorem erase_of_known (ha : Lacks a name) (hb : Lacks b name)
    (hname : Text.fold spelling = Text.fold name) :
    erase (a ++ (spelling, v) :: b) name = a ++ b := by
  have hleft : erase a name = a := erase_of_lacks ha
  have hright : erase b name = b := erase_of_lacks hb
  unfold erase at hleft hright ⊢
  rw [List.filter_append, List.filter_cons_of_neg (by simp [hname]), hleft, hright]

end

/-- **The two ways in which a map stands to a name,** and what is done under the name in each of them. -/
theorem under_cases (m : NameMap α) (name : String) :
    (∃ a spelling v b, m.entries = a ++ (spelling, v) :: b ∧ Text.fold spelling = Text.fold name ∧
      m.get? name = some v ∧ (m.remove name).entries = a ++ b ∧
      ∀ w, (m.set name w).entries = a ++ (spelling, w) :: b) ∨
    (Lacks m.entries name ∧ m.get? name = none ∧
      ∀ w, (m.set name w).entries = m.entries ++ [(name, w)]) := by
  rcases known_or_lacks m.entries name with ⟨a, spelling, v, b, hentries, hname⟩ | hlacks
  · have hdistinct := m.distinct
    rw [hentries] at hdistinct
    obtain ⟨ha, hb⟩ := lacks_around hdistinct hname
    refine Or.inl ⟨a, spelling, v, b, hentries, hname, ?_, ?_, fun w => ?_⟩
    · exact lookup?_of_mem m.distinct (e := (spelling, v)) (by simp [hentries]) hname
    · rw [entries_remove, hentries, erase_of_known ha hb hname]
    · rw [entries_set, hentries, put_of_known ha hname]
  · exact Or.inr ⟨hlacks, lookup?_of_lacks hlacks, fun w => put_of_lacks hlacks⟩

section

variable {m : NameMap α} {name : String} {v : α} {es rest : List (String × α)}

/-- **Writing has one outcome.** -/
theorem write_iff : Write name v m.entries es ↔ es = (m.set name v).entries := by
  constructor
  · intro h
    have hdistinct := m.distinct
    rw [entries_set]
    generalize m.entries = start at h hdistinct
    cases h with
    | known hname => rw [put_of_known (lacks_around hdistinct hname).1 hname]
    | new hlacks => rw [put_of_lacks hlacks]
  · rintro rfl
    rcases under_cases m name with ⟨a, spelling, old, b, hentries, hname, -, -, hset⟩ |
      ⟨hlacks, -, hset⟩
    · rw [hset, hentries]
      exact .known hname
    · rw [hset]
      exact .new hlacks

theorem find_some_iff :
    Find name m.entries (some (v, rest)) ↔ m.get? name = some v ∧ rest = (m.remove name).entries := by
  constructor
  · intro h
    have hdistinct := m.distinct
    rw [entries_remove, get?]
    generalize m.entries = start at h hdistinct
    cases h with
    | @known a b spelling _ hname =>
        obtain ⟨ha, hb⟩ := lacks_around hdistinct hname
        exact ⟨lookup?_of_mem hdistinct (e := (spelling, v)) (by simp) hname,
          (erase_of_known ha hb hname).symm⟩
  · rintro ⟨hget, rfl⟩
    rcases under_cases m name with ⟨a, spelling, old, b, hentries, hname, hold, hremove, -⟩ |
      ⟨-, hnone, -⟩
    · rw [hold] at hget
      cases hget
      rw [hremove, hentries]
      exact .known hname
    · rw [hnone] at hget
      cases hget

theorem find_none_iff : Find name m.entries none ↔ m.get? name = none := by
  constructor
  · intro h
    rw [get?]
    generalize m.entries = start at h
    cases h with
    | absent hlacks => exact lookup?_of_lacks hlacks
  · intro hget
    rcases under_cases m name with ⟨a, spelling, old, b, -, -, hold, -⟩ | ⟨hlacks, -⟩
    · rw [hold] at hget
      cases hget
    · exact .absent hlacks

theorem writes_iff {pairs : List (String × α)} :
    Writes pairs m.entries es ↔ es = (m.setAll pairs).entries := by
  induction pairs generalizing m with
  | nil =>
      constructor
      · intro h
        cases h
        rfl
      · rintro rfl
        exact .nil _
  | cons p pairs ih =>
      constructor
      · rintro (_ | ⟨hfirst, hrest⟩)
        rw [write_iff] at hfirst
        rw [hfirst, ih] at hrest
        exact hrest
      · rintro rfl
        exact .cons (write_iff.mpr rfl) (ih.mpr rfl)

end

/-! ## Steps and runs -/

/-- The pairs that the items of a list state, up to the first item that states none. -/
def pairsOf : List Json → List (String × Json) × Option Fault
  | [] => ([], none)
  | x :: xs =>
    match pairOf x with
    | .ok p => (p :: (pairsOf xs).1, (pairsOf xs).2)
    | .error f => ([], some f)

/-- **The pairs that a value states:** the fields of an object, or the items of another value. -/
def stated : Json → List (String × Json) × Option Fault
  | .obj fs => (fs, none)
  | j =>
    match j.items with
    | .ok xs => pairsOf xs
    | .error f => ([], some f)

/-- The name under which an operation does something, for operations that need one. -/
def Operation.name? : Operation → Option Json
  | .set name _ | .get name | .getOr name _ | .remove name | .pop name | .popOr name _
  | .setDefault name _ => some name
  | .contains _ | .update _ _ | .clear | .copy | .size => none

/-- **An operation on a list of entries,** with its result and the entries after it. -/
inductive Step : Operation → List (String × Json) → Except Fault Json → List (String × Json) → Prop
  | set {name : String} {v : Json} {es es' : List (String × Json)} (write : Write name v es es') :
      Step (.set (.str name) v) es (.ok .null) es'
  | get {name : String} {v : Json} {es rest : List (String × Json)}
      (found : Find name es (some (v, rest))) : Step (.get (.str name)) es (.ok v) es
  | getAbsent {name : String} {es : List (String × Json)} (absent : Find name es none) :
      Step (.get (.str name)) es (.error .absentKey) es
  | getOr {name : String} {v d : Json} {es rest : List (String × Json)}
      (found : Find name es (some (v, rest))) : Step (.getOr (.str name) d) es (.ok v) es
  | getOrAbsent {name : String} {d : Json} {es : List (String × Json)} (absent : Find name es none) :
      Step (.getOr (.str name) d) es (.ok d) es
  | remove {name : String} {v : Json} {es rest : List (String × Json)}
      (found : Find name es (some (v, rest))) : Step (.remove (.str name)) es (.ok .null) rest
  | removeAbsent {name : String} {es : List (String × Json)} (absent : Find name es none) :
      Step (.remove (.str name)) es (.error .absentKey) es
  | contains {name : String} {v : Json} {es rest : List (String × Json)}
      (found : Find name es (some (v, rest))) :
      Step (.contains (.str name)) es (.ok (.bool true)) es
  | containsAbsent {name : String} {es : List (String × Json)} (absent : Find name es none) :
      Step (.contains (.str name)) es (.ok (.bool false)) es
  | containsOther {name : Json} {es : List (String × Json)} (other : ∀ s, name ≠ .str s) :
      Step (.contains name) es (.ok (.bool false)) es
  | update {data : Json} {named ps es es' : List (String × Json)} (states : stated data = (ps, none))
      (writes : Writes (ps ++ named) es es') : Step (.update data named) es (.ok .null) es'
  /-- What has been written before a fault stays, and what comes after it is not written. -/
  | updateFault {data : Json} {named ps es es' : List (String × Json)} {f : Fault}
      (states : stated data = (ps, some f)) (writes : Writes ps es es') :
      Step (.update data named) es (.error f) es'
  | pop {name : String} {v : Json} {es rest : List (String × Json)}
      (found : Find name es (some (v, rest))) : Step (.pop (.str name)) es (.ok v) rest
  | popAbsent {name : String} {es : List (String × Json)} (absent : Find name es none) :
      Step (.pop (.str name)) es (.error .absentKey) es
  | popOr {name : String} {v d : Json} {es rest : List (String × Json)}
      (found : Find name es (some (v, rest))) : Step (.popOr (.str name) d) es (.ok v) rest
  | popOrAbsent {name : String} {d : Json} {es : List (String × Json)} (absent : Find name es none) :
      Step (.popOr (.str name) d) es (.ok d) es
  | setDefault {name : String} {v d : Json} {es rest : List (String × Json)}
      (found : Find name es (some (v, rest))) : Step (.setDefault (.str name) d) es (.ok v) es
  | setDefaultAbsent {name : String} {d : Json} {es es' : List (String × Json)}
      (absent : Find name es none) (write : Write name d es es') :
      Step (.setDefault (.str name) d) es (.ok d) es'
  | clear {es : List (String × Json)} : Step .clear es (.ok .null) []
  | copy {es : List (String × Json)} : Step .copy es (.ok .null) es
  | size {es : List (String × Json)} : Step .size es (.ok (.int es.length)) es
  | notText {op : Operation} {name : Json} {es : List (String × Json)} (names : op.name? = some name)
      (other : ∀ s, name ≠ .str s) : Step op es (.error .notText) es

/-- **Several operations on a list of entries,** with all results. -/
inductive Run : List Operation → List (String × Json) → List (Except Fault Json) →
    List (String × Json) → Prop
  | nil (es : List (String × Json)) : Run [] es [] es
  | cons {op : Operation} {ops : List Operation} {r : Except Fault Json}
      {rs : List (Except Fault Json)} {es es' es'' : List (String × Json)} (step : Step op es r es')
      (run : Run ops es' rs es'') : Run (op :: ops) es (r :: rs) es''

/-- **The entries that a value and named values give.** -/
inductive Built : Json → List (String × Json) → Except Fault (List (String × Json)) → Prop
  | nothing {named es : List (String × Json)} (writes : Writes named [] es) : Built .null named (.ok es)
  | values {data : Json} {named ps es : List (String × Json)} (given : data ≠ .null)
      (states : stated data = (ps, none)) (writes : Writes (ps ++ named) [] es) :
      Built data named (.ok es)
  | fault {data : Json} {named ps : List (String × Json)} {f : Fault} (given : data ≠ .null)
      (states : stated data = (ps, some f)) : Built data named (.error f)

/-! ## What the operations of a map do -/

theorem setAll_append (m : NameMap α) (ps qs : List (String × α)) :
    m.setAll (ps ++ qs) = (m.setAll ps).setAll qs :=
  List.foldl_append

theorem fillPairs_eq (m : NameMap Json) (xs : List Json) :
    m.fillPairs xs = (m.setAll (pairsOf xs).1, (pairsOf xs).2) := by
  induction xs generalizing m with
  | nil => rfl
  | cons x xs ih =>
      rw [fillPairs, pairsOf]
      cases pairOf x with
      | ok p => exact ih (m.set p.1 p.2)
      | error f => rfl

/-- A value is written as the pairs that it states. -/
theorem fill_eq (m : NameMap Json) (data : Json) :
    m.fill data = (m.setAll (stated data).1, (stated data).2) := by
  cases data with
  | obj fs => rfl
  | arr items => exact fillPairs_eq m items
  | str s => exact fillPairs_eq m _
  | null | bool b | int n | float x => rfl

/-- **A copy has the same entries.** -/
theorem copy_eq (m : NameMap α) : m.copy = m :=
  ext_entries (entries_setAll (m := empty) m.distinct)

/-- **A map is cleared** by taking out its first entry as long as there is one. -/
theorem clear_eq (m : NameMap α) : m.clear = empty := by
  induction m using clear.induct with
  | case1 m hnone =>
      rw [clear]
      split
      · cases hentries : m.entries with
        | nil => exact ext_entries hentries
        | cons e rest =>
            rw [popFirst?_of_entries hentries] at hnone
            cases hnone
      · next hsome =>
        rw [hnone] at hsome
        cases hsome
  | case2 m e m' hsome ih =>
      rw [clear]
      split
      · next hnone =>
        rw [hnone] at hsome
        cases hsome
      · next hsome' =>
        rw [hsome] at hsome'
        cases hsome'
        exact ih

theorem asText_cases (j : Json) :
    (∃ s, j = .str s) ∨ (∀ s, j ≠ .str s) ∧ j.asText = .error .notText := by
  cases j with
  | str s => exact Or.inl ⟨s, rfl⟩
  | _ => exact Or.inr ⟨nofun, rfl⟩

theorem under_of_not_text {m : NameMap Json} {name : Json}
    {f : String → Except Fault Json × NameMap Json} (h : ∀ s, name ≠ .str s) :
    m.under name f = (.error .notText, m) := by
  rcases asText_cases name with ⟨s, rfl⟩ | ⟨-, htext⟩
  · exact absurd rfl (h s)
  · rw [under, htext]

/-- An operation that needs a name fails on anything that is no text. -/
theorem perform_of_not_text {m : NameMap Json} {op : Operation} {name : Json}
    (hname : op.name? = some name) (h : ∀ s, name ≠ .str s) :
    m.perform op = (.error .notText, m) := by
  cases op with
  | set | get | getOr | remove | pop | popOr | setDefault =>
      cases hname
      exact under_of_not_text h
  | contains | update | clear | copy | size => cases hname

theorem containsJson_of_not_text {m : NameMap Json} {name : Json} (h : ∀ s, name ≠ .str s) :
    m.containsJson name = false := by
  cases name with
  | str s => exact absurd rfl (h s)
  | _ => rfl

theorem fillNamed_eq (m : NameMap Json) {data : Json} {ps : List (String × Json)} {f : Option Fault}
    (named : List (String × Json)) (h : stated data = (ps, f)) :
    m.fillNamed data named = (if f.isNone then m.setAll (ps ++ named) else m.setAll ps, f) := by
  rw [fillNamed, fill_eq, h]
  cases f with
  | none => rw [setAll_append]; rfl
  | some f => rfl

/-! ## One outcome -/

section

variable {m : NameMap Json} {op : Operation} {r : Except Fault Json} {es : List (String × Json)}

/-- **The outcome of a step is that of the map.** -/
theorem Step.eq_perform (h : Step op m.entries r es) :
    r = (m.perform op).1 ∧ es = (m.perform op).2.entries := by
  generalize hstart : m.entries = start at h
  cases h with
  | set write =>
      rw [← hstart, write_iff] at write
      exact ⟨rfl, write⟩
  | @get name v _ rest found =>
      rw [← hstart, find_some_iff] at found
      simp [perform, under, Json.asText, found.1, hstart]
  | @getAbsent name _ absent =>
      rw [← hstart, find_none_iff] at absent
      simp [perform, under, Json.asText, absent, hstart]
  | @getOr name v d _ rest found =>
      rw [← hstart, find_some_iff] at found
      simp [perform, under, Json.asText, found.1, hstart]
  | @getOrAbsent name d _ absent =>
      rw [← hstart, find_none_iff] at absent
      simp [perform, under, Json.asText, absent, hstart]
  | @remove name v _ rest found =>
      rw [← hstart, find_some_iff] at found
      simp [perform, under, Json.asText, take?, found.1, found.2]
  | @removeAbsent name _ absent =>
      rw [← hstart, find_none_iff] at absent
      simp [perform, under, Json.asText, take?, absent, hstart]
  | @contains name v _ rest found =>
      rw [← hstart, find_some_iff] at found
      simp [perform, containsJson, NameMap.contains, found.1, hstart]
  | @containsAbsent name _ absent =>
      rw [← hstart, find_none_iff] at absent
      simp [perform, containsJson, NameMap.contains, absent, hstart]
  | containsOther other =>
      simp [perform, containsJson_of_not_text other, hstart]
  | @update data named ps _ _ states writes =>
      rw [← hstart, writes_iff] at writes
      simp [perform, fillNamed_eq m named states, writes]
  | @updateFault data named ps _ _ f states writes =>
      rw [← hstart, writes_iff] at writes
      simp [perform, fillNamed_eq m named states, writes]
  | @pop name v _ rest found =>
      rw [← hstart, find_some_iff] at found
      simp [perform, under, Json.asText, take?, found.1, found.2]
  | @popAbsent name _ absent =>
      rw [← hstart, find_none_iff] at absent
      simp [perform, under, Json.asText, take?, absent, hstart]
  | @popOr name v d _ rest found =>
      rw [← hstart, find_some_iff] at found
      simp [perform, under, Json.asText, take?, found.1, found.2]
  | @popOrAbsent name d _ absent =>
      rw [← hstart, find_none_iff] at absent
      simp [perform, under, Json.asText, take?, absent, hstart]
  | @setDefault name v d _ rest found =>
      rw [← hstart, find_some_iff] at found
      simp [perform, under, Json.asText, getOrSet, found.1, hstart]
  | @setDefaultAbsent name d _ _ absent write =>
      rw [← hstart, find_none_iff] at absent
      rw [← hstart, write_iff] at write
      simp [perform, under, Json.asText, getOrSet, absent, write]
  | clear => simp [perform, clear_eq]
  | copy => simp [perform, copy_eq, hstart]
  | size => simp [perform, NameMap.size, hstart]
  | notText names other => simp [perform_of_not_text names other, hstart]

theorem find_cases (m : NameMap α) (name : String) :
    (∃ v, m.get? name = some v ∧ Find name m.entries (some (v, (m.remove name).entries))) ∨
      m.get? name = none ∧ Find name m.entries none := by
  cases hget : m.get? name with
  | some v => exact Or.inl ⟨v, rfl, find_some_iff.mpr ⟨hget, rfl⟩⟩
  | none => exact Or.inr ⟨rfl, find_none_iff.mpr hget⟩

/-- **Every operation has an outcome.** -/
theorem step_perform (m : NameMap Json) (op : Operation) :
    Step op m.entries (m.perform op).1 (m.perform op).2.entries := by
  -- the operation names nothing, names something that is no text, or names a text
  by_cases hother : ∃ name, op.name? = some name ∧ ∀ s, name ≠ .str s
  · obtain ⟨name, hname, hother⟩ := hother
    rw [perform_of_not_text hname hother]
    exact .notText hname hother
  have htext : ∀ {name : Json}, op.name? = some name → ∃ s, name = .str s := by
    intro name hname
    exact (asText_cases name).resolve_right fun h => hother ⟨name, hname, h.1⟩
  cases op with
  | set name v =>
      obtain ⟨s, rfl⟩ := htext rfl
      exact .set (write_iff.mpr rfl)
  | get name =>
      obtain ⟨s, rfl⟩ := htext rfl
      rcases find_cases m s with ⟨v, hget, hfind⟩ | ⟨hget, hfind⟩
      · simpa [perform, under, Json.asText, hget] using Step.get hfind
      · simpa [perform, under, Json.asText, hget] using Step.getAbsent hfind
  | getOr name d =>
      obtain ⟨s, rfl⟩ := htext rfl
      rcases find_cases m s with ⟨v, hget, hfind⟩ | ⟨hget, hfind⟩
      · simpa [perform, under, Json.asText, hget] using Step.getOr hfind
      · simpa [perform, under, Json.asText, hget] using Step.getOrAbsent hfind
  | remove name =>
      obtain ⟨s, rfl⟩ := htext rfl
      rcases find_cases m s with ⟨v, hget, hfind⟩ | ⟨hget, hfind⟩
      · simpa [perform, under, Json.asText, take?, hget] using Step.remove hfind
      · simpa [perform, under, Json.asText, take?, hget] using Step.removeAbsent hfind
  | contains name =>
      rcases asText_cases name with ⟨s, rfl⟩ | ⟨hname, -⟩
      · rcases find_cases m s with ⟨v, hget, hfind⟩ | ⟨hget, hfind⟩
        · simpa [perform, containsJson, NameMap.contains, hget] using Step.contains hfind
        · simpa [perform, containsJson, NameMap.contains, hget] using Step.containsAbsent hfind
      · simpa [perform, containsJson_of_not_text hname] using Step.containsOther hname
  | update data named =>
      rcases hstates : stated data with ⟨ps, _ | f⟩
      · simpa [perform, fillNamed_eq m named hstates] using Step.update hstates (writes_iff.mpr rfl)
      · simpa [perform, fillNamed_eq m named hstates] using
          Step.updateFault hstates (writes_iff.mpr rfl)
  | pop name =>
      obtain ⟨s, rfl⟩ := htext rfl
      rcases find_cases m s with ⟨v, hget, hfind⟩ | ⟨hget, hfind⟩
      · simpa [perform, under, Json.asText, take?, hget] using Step.pop hfind
      · simpa [perform, under, Json.asText, take?, hget] using Step.popAbsent hfind
  | popOr name d =>
      obtain ⟨s, rfl⟩ := htext rfl
      rcases find_cases m s with ⟨v, hget, hfind⟩ | ⟨hget, hfind⟩
      · simpa [perform, under, Json.asText, take?, hget] using Step.popOr hfind
      · simpa [perform, under, Json.asText, take?, hget] using Step.popOrAbsent hfind
  | setDefault name d =>
      obtain ⟨s, rfl⟩ := htext rfl
      rcases find_cases m s with ⟨v, hget, hfind⟩ | ⟨hget, hfind⟩
      · simpa [perform, under, Json.asText, getOrSet, hget] using Step.setDefault hfind
      · simpa [perform, under, Json.asText, getOrSet, hget] using
          Step.setDefaultAbsent hfind (write_iff.mpr rfl)
  | clear => simpa [perform, clear_eq] using Step.clear
  | copy => simpa [perform, copy_eq] using Step.copy
  | size => exact .size

/-- **A step has exactly one outcome,** that of the map. -/
theorem step_iff :
    Step op m.entries r es ↔ r = (m.perform op).1 ∧ es = (m.perform op).2.entries := by
  constructor
  · exact Step.eq_perform
  · rintro ⟨rfl, rfl⟩
    exact step_perform m op

/-- **A run has exactly one outcome,** that of the map. -/
theorem run_iff {ops : List Operation} {rs : List (Except Fault Json)} :
    Run ops m.entries rs es ↔ rs = (m.performAll ops).1 ∧ es = (m.performAll ops).2.entries := by
  induction ops generalizing m rs with
  | nil =>
      constructor
      · intro h
        cases h
        exact ⟨rfl, rfl⟩
      · rintro ⟨rfl, rfl⟩
        exact .nil _
  | cons op ops ih =>
      constructor
      · rintro (_ | ⟨hstep, hrun⟩)
        obtain ⟨rfl, rfl⟩ := step_iff.mp hstep
        obtain ⟨rfl, rfl⟩ := ih.mp hrun
        exact ⟨rfl, rfl⟩
      · rintro ⟨rfl, rfl⟩
        exact .cons (step_perform m op) (ih.mpr ⟨rfl, rfl⟩)

/-- **What is built has exactly one outcome.** -/
theorem built_iff {data : Json} {named : List (String × Json)}
    {r : Except Fault (List (String × Json))} :
    Built data named r ↔ r = (build data named).map entries := by
  have hwrites : ∀ {ps es : List (String × Json)},
      Writes ps [] es ↔ es = (empty.setAll ps).entries := writes_iff (m := empty)
  have hbuild : ∀ {ps : List (String × Json)} {f : Option Fault}, data ≠ .null →
      stated data = (ps, f) →
      build data named = f.elim (.ok (empty.setAll (ps ++ named))) .error := by
    intro ps f hdata hstates
    have hfill := fillNamed_eq empty named hstates
    cases f with
    | none => cases data <;> first | exact absurd rfl hdata | simp [build, hfill]
    | some f => cases data <;> first | exact absurd rfl hdata | simp [build, hfill]
  constructor
  · rintro (hnamed | ⟨hdata, hstates, hnamed⟩ | ⟨hdata, hstates⟩)
    · rw [hwrites.mp hnamed]
      rfl
    · rw [hbuild hdata hstates, hwrites.mp hnamed]
      rfl
    · rw [hbuild hdata hstates]
      rfl
  · rintro rfl
    by_cases hdata : data = .null
    · subst hdata
      exact .nothing (hwrites.mpr rfl)
    rcases hstates : stated data with ⟨ps, _ | f⟩
    · rw [hbuild hdata hstates]
      exact .values hdata hstates (hwrites.mpr rfl)
    · rw [hbuild hdata hstates]
      exact .fault hdata hstates

end

/-! ## Missing names -/

/-- A pair that a value does not state is no missing name. -/
theorem pairOf_ne_absentKey (j : Json) : pairOf j ≠ .error .absentKey := by
  intro h
  unfold pairOf at h
  cases hlist : j.items with
  | error f =>
      rw [hlist] at h
      cases h
      cases j <;> cases hlist
  | ok xs =>
      rw [hlist] at h
      dsimp only [bind, Except.bind] at h
      split at h
      · next name value =>
        rcases asText_cases name with ⟨s, rfl⟩ | ⟨-, htext⟩
        · cases h
        · rw [htext] at h
          cases h
      · cases h

theorem pairsOf_ne_absentKey (xs : List Json) : (pairsOf xs).2 ≠ some .absentKey := by
  induction xs with
  | nil => exact nofun
  | cons x xs ih =>
      rw [pairsOf]
      cases hpair : pairOf x with
      | ok p => exact ih
      | error f =>
          intro h
          exact pairOf_ne_absentKey x (by rw [hpair, Option.some.inj h])

theorem stated_ne_absentKey (data : Json) : (stated data).2 ≠ some .absentKey := by
  cases data with
  | arr items => exact pairsOf_ne_absentKey items
  | str s => exact pairsOf_ne_absentKey _
  | null | bool b | int n | float x | obj fs => exact nofun

/-- **An operation that misses a name changes nothing.** -/
theorem perform_absentKey {m : NameMap Json} {op : Operation}
    (h : (m.perform op).1 = .error .absentKey) : (m.perform op).2 = m := by
  have hstep := step_perform m op
  rw [h] at hstep
  refine ext_entries ?_
  generalize (m.perform op).2.entries = es at hstep
  cases hstep with
  | getAbsent | removeAbsent | popAbsent => rfl
  | updateFault states writes =>
      exact absurd (congrArg Prod.snd states) (stated_ne_absentKey _)

/-! ## All operations -/

/-- **A map of names is a list of spellings and values.** What is built from any values, and what any
operations do afterwards, has one outcome by the rules for lists of entries, and this is what the map
gives. No two entries have the same name; every spelling that is listed leads to its value; and an
operation that misses a name changes nothing. -/
theorem operations_refine (data : Json) (named : List (String × Json)) (ops : List Operation) :
    (∀ r, Built data named r ↔ r = (build data named).map entries) ∧
      ∀ m, build data named = .ok m →
        (∀ rs es, Run ops m.entries rs es ↔
          rs = (m.performAll ops).1 ∧ es = (m.performAll ops).2.entries) ∧
        (keysOf (m.performAll ops).2.entries).Nodup ∧
        (∀ e ∈ (m.performAll ops).2.entries, (m.performAll ops).2.get? e.1 = some e.2) ∧
        ∀ op, ((m.performAll ops).2.perform op).1 = .error .absentKey →
          ((m.performAll ops).2.perform op).2 = (m.performAll ops).2 := by
  refine ⟨fun _ => built_iff, fun m _ => ⟨fun _ _ => run_iff, ?_, ?_, ?_⟩⟩
  · exact (m.performAll ops).2.distinct
  · exact fun e he => get?_of_mem _ he
  · exact fun op hmissed => perform_absentKey hmissed

/-- A name is written in another spelling, taken out, missed, and put in again. -/
theorem operations_refine_strasse :
    let data : Json := .arr [.arr [.str "Straße", .int 1], .arr [.str "Gold", .int 2]]
    let ops : List Operation :=
      [.set (.str "STRASSE") (.int 3), .remove (.str "strasse"), .get (.str "Straße"),
        .setDefault (.str "STRASSE") (.int 4)]
    ∃ m, build data [("gold", .int 5)] = .ok m ∧
      (m.performAll ops).1 = [.ok .null, .ok .null, .error .absentKey, .ok (.int 4)] ∧
      (m.performAll ops).2.entries = [("Gold", .int 5), ("STRASSE", .int 4)] := by
  intro data ops
  have hrefine := operations_refine data [("gold", .int 5)] ops
  have hlacks : ∀ {name : String} {es : List (String × Json)},
      (es.all fun e => decide (Text.fold e.1 ≠ Text.fold name)) = true → Lacks es name :=
    fun h e he => of_decide_eq_true (List.all_eq_true.mp h e he)
  have hgold : Text.fold "Gold" = Text.fold "gold" := by decide +kernel
  have hstrasse : Text.fold "Straße" = Text.fold "STRASSE" := by decide +kernel
  have hbuilt : Built data [("gold", .int 5)] (.ok [("Straße", .int 1), ("Gold", .int 5)]) := by
    refine .values nofun rfl (.cons (.new (hlacks rfl)) ?_)
    refine .cons (.new (hlacks (by decide +kernel))) ?_
    exact .cons (.known (a := [("Straße", Json.int 1)]) hgold) (.nil _)
  obtain ⟨m, hm, hentries⟩ := map_eq_ok_iff.mp ((hrefine.1 _).mp hbuilt).symm
  have hrun : Run ops m.entries [.ok .null, .ok .null, .error .absentKey, .ok (.int 4)]
      [("Gold", .int 5), ("STRASSE", .int 4)] := by
    have hmissed : Lacks [("Gold", Json.int 5)] "Straße" := hlacks (by decide +kernel)
    have hnew : Lacks [("Gold", Json.int 5)] "STRASSE" := hlacks (by decide +kernel)
    rw [hentries]
    refine .cons (.set (.known (a := []) hstrasse)) ?_
    refine .cons (.remove (.known (a := []) (by decide +kernel))) ?_
    refine .cons (.getAbsent (.absent hmissed)) ?_
    exact .cons (.setDefaultAbsent (.absent hnew) (.new hnew)) (.nil _)
  exact ⟨m, hm, ((hrefine.2 m hm).1 _ _).mp hrun |>.imp Eq.symm Eq.symm⟩

end NameMap

end Questbook
