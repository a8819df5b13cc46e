import Questbook.Proofs.GameState
import Questbook.Proofs.Json.Equality
import Questbook.Proofs.NameMap.Operation
import Questbook.Proofs.NameMap.Same

set_option autoImplicit false

/-! # Comparing and rebuilding maps of names

Two maps are the same if what is found in them is the same under every name (`same_iff`). If no object
in their values names a field twice, this is an equivalence, which neither the order of the entries nor
their spellings count for (`same_of_perm`). Operations that are alike (`Operation.Alike`), one after the
other, give the same results on maps that are the same, and leave maps that are the same
(`performAll_alike`).
-/

namespace Questbook

namespace NameMap

open Text

variable {m n k : NameMap Json}

/-! ## Maps that are the same -/

theorem SameUnder.congr {a b : String} (h : SameUnder m n a) (hname : fold a = fold b) :
    Option.Rel (fun v w => Json.same v w = true) (m.get? a) (n.get? b) := by
  rw [n.get?_congr hname.symm]
  exact h

/-- Under a name of both, two maps that are the same have the same value, or none. -/
theorem found_cases (h : m.same n = true) {a b : String} (hname : fold a = fold b) :
    (∃ v w, m.get? a = some v ∧ n.get? b = some w ∧ Json.same v w = true) ∨
      m.get? a = none ∧ n.get? b = none := by
  have hrel := (same_iff.mp h a).congr hname
  generalize m.get? a = found at hrel ⊢
  generalize n.get? b = found' at hrel ⊢
  cases hrel with
  | some hsame => exact Or.inl ⟨_, _, rfl, rfl, hsame⟩
  | none => exact Or.inr ⟨rfl, rfl⟩

/-- **Whether no object in the values of a map names a field twice.** -/
def HasProperValues (m : NameMap Json) : Prop :=
  ∀ e ∈ m.entries, e.2.Proper

theorem HasProperValues.of_get? (hm : m.HasProperValues) {name : String} {v : Json}
    (hv : m.get? name = some v) : v.Proper := by
  obtain ⟨e, he, rfl⟩ := mem_of_lookup? hv
  exact hm e he

/-- **A map is the same as itself.** -/
theorem HasProperValues.same_refl (hm : m.HasProperValues) : m.same m = true := by
  refine same_iff.mpr fun name => ?_
  unfold SameUnder
  cases hv : m.get? name with
  | none => exact .none
  | some v => exact .some (hm.of_get? hv).same_refl

theorem HasProperValues.same_symm (hm : m.HasProperValues) (h : m.same n = true) :
    n.same m = true := by
  refine same_iff.mpr fun name => ?_
  unfold SameUnder
  rcases found_cases h (rfl : fold name = fold name) with ⟨v, w, hv, hw, hsame⟩ | ⟨hv, hw⟩
  · rw [hv, hw]
    exact .some ((hm.of_get? hv).same_symm hsame)
  · rw [hv, hw]
    exact .none

theorem HasProperValues.same_trans (hm : m.HasProperValues) (hmn : m.same n = true)
    (hnk : n.same k = true) : m.same k = true := by
  refine same_iff.mpr fun name => ?_
  unfold SameUnder
  rcases found_cases hmn (rfl : fold name = fold name) with ⟨v, w, hv, hw, hvw⟩ | ⟨hv, hw⟩
  · rcases found_cases hnk (rfl : fold name = fold name) with ⟨w', u, hw', hu, hwu⟩ | ⟨hw', -⟩
    · cases hw.symm.trans hw'
      rw [hv, hu]
      exact .some ((hm.of_get? hv).same_trans hvw hwu)
    · cases hw.symm.trans hw'
  · rcases found_cases hnk (rfl : fold name = fold name) with ⟨w', u, hw', -⟩ | ⟨-, hu⟩
    · cases hw.symm.trans hw'
    · rw [hv, hu]
      exact .none

theorem get?_eq_some_iff {α : Type} {m : NameMap α} {name : String} {v : α} :
    m.get? name = some v ↔ (fold name, v) ∈ m.foldedEntries := by
  constructor
  · intro hv
    obtain ⟨e, he, hname, rfl⟩ := entry_of_lookup? hv
    exact List.mem_map.mpr ⟨e, he, by rw [hname]⟩
  · intro hmem
    obtain ⟨e, he, hpair⟩ := List.mem_map.mp hmem
    obtain ⟨hname, rfl⟩ := Prod.mk.inj hpair
    exact lookup?_of_mem m.distinct he hname

/-- **Neither the order of the entries nor their spelling counts.** -/
theorem HasProperValues.same_of_perm (hm : m.HasProperValues)
    (h : m.foldedEntries.Perm n.foldedEntries) : m.same n = true := by
  have hfound : ∀ name, n.get? name = m.get? name := by
    intro name
    refine Option.ext fun v => ?_
    rw [get?_eq_some_iff, get?_eq_some_iff, h.mem_iff]
  refine same_iff.mpr fun name => ?_
  unfold SameUnder
  rw [hfound]
  exact same_iff.mp hm.same_refl name

/-! ## Comparing with plain maps -/

theorem sameAsJson_toJson : m.sameAsJson n.toJson = m.same n := by
  show m.same (ofEntries n.entries) = m.same n
  rw [ofEntries_entries]

/-- A map is the same as an object if it has what the object states last under each name. -/
theorem sameAsJson_obj_iff {fs : List (String × Json)} : m.sameAsJson (.obj fs) = true ↔
    ∀ name, Option.Rel (fun v w => Json.same v w = true) (m.get? name) (lookup? fs.reverse name) := by
  show m.same (ofEntries fs) = true ↔ _
  rw [same_iff]
  simp only [SameUnder, get?_ofEntries]

/-! ## Operations that are alike -/

/-- The pairs that an update writes: what the value states, up to the first item that states none, and
after all of it what is named. -/
def written (data : Json) (named : List (String × Json)) : List (String × Json) :=
  if (stated data).2.isNone then (stated data).1 ++ named else (stated data).1

/-- **Whether two operations are alike:** of one kind, under the same names, with the same values.
Updates are alike if the maps of what they write are the same, and if they stop at the same fault. -/
inductive Operation.Alike : Operation → Operation → Prop
  | set {a b : String} {v w : Json} (name : fold a = fold b) (value : Json.same v w = true) :
      Alike (.set (.str a) v) (.set (.str b) w)
  | get {a b : String} (name : fold a = fold b) : Alike (.get (.str a)) (.get (.str b))
  | getOr {a b : String} {v w : Json} (name : fold a = fold b) (value : Json.same v w = true) :
      Alike (.getOr (.str a) v) (.getOr (.str b) w)
  | remove {a b : String} (name : fold a = fold b) : Alike (.remove (.str a)) (.remove (.str b))
  | contains {a b : String} (name : fold a = fold b) :
      Alike (.contains (.str a)) (.contains (.str b))
  | update {data data' : Json} {named named' : List (String × Json)}
      (values : (ofEntries (written data named)).same (ofEntries (written data' named')) = true)
      (fault : (stated data).2 = (stated data').2) : Alike (.update data named) (.update data' named')
  | pop {a b : String} (name : fold a = fold b) : Alike (.pop (.str a)) (.pop (.str b))
  | popOr {a b : String} {v w : Json} (name : fold a = fold b) (value : Json.same v w = true) :
      Alike (.popOr (.str a) v) (.popOr (.str b) w)
  | setDefault {a b : String} {v w : Json} (name : fold a = fold b) (value : Json.same v w = true) :
      Alike (.setDefault (.str a) v) (.setDefault (.str b) w)
  | clear : Alike .clear .clear
  | copy : Alike .copy .copy
  | size : Alike .size .size

/-- Whether two results are the same value, or the same fault. -/
inductive SameResult : Except Fault Json → Except Fault Json → Prop
  | ok {v w : Json} (same : Json.same v w = true) : SameResult (.ok v) (.ok w)
  | error (f : Fault) : SameResult (.error f) (.error f)

theorem same_set (h : m.same n = true) {a b : String} (hname : fold a = fold b) {v w : Json}
    (hvalue : Json.same v w = true) : (m.set a v).same (n.set b w) = true := by
  refine same_iff.mpr fun name => ?_
  unfold SameUnder
  rw [get?_set, get?_set, hname]
  split
  · exact .some hvalue
  · exact same_iff.mp h name

theorem same_remove (h : m.same n = true) {a b : String} (hname : fold a = fold b) :
    (m.remove a).same (n.remove b) = true := by
  refine same_iff.mpr fun name => ?_
  unfold SameUnder
  rw [get?_remove, get?_remove, hname]
  split
  · exact .none
  · exact same_iff.mp h name

theorem same_setAll (h : m.same n = true) {ps qs : List (String × Json)}
    (hpairs : (ofEntries ps).same (ofEntries qs) = true) : (m.setAll ps).same (n.setAll qs) = true := by
  refine same_iff.mpr fun name => ?_
  unfold SameUnder
  rw [get?_setAll, get?_setAll, ← get?_ofEntries, ← get?_ofEntries]
  rcases found_cases hpairs (rfl : fold name = fold name) with ⟨v, w, hv, hw, hsame⟩ | ⟨hv, hw⟩
  · rw [hv, hw]
    exact .some hsame
  · rw [hv, hw]
    exact same_iff.mp h name

theorem size_eq_of_same (h : m.same n = true) : m.size = n.size := by
  unfold same at h
  exact of_decide_eq_true (Bool.and_eq_true_iff.mp h).1

theorem fillNamed_written (m : NameMap Json) (data : Json) (named : List (String × Json)) :
    m.fillNamed data named = (m.setAll (written data named), (stated data).2) := by
  rcases hstates : stated data with ⟨ps, _ | f⟩
  · rw [fillNamed_eq m named hstates, written, hstates]
    rfl
  · rw [fillNamed_eq m named hstates, written, hstates]
    rfl

theorem perform_update (m : NameMap Json) (data : Json) (named : List (String × Json)) :
    m.perform (.update data named) =
      ((stated data).2.elim (.ok .null) .error, m.setAll (written data named)) := by
  rw [perform, fillNamed_written]
  cases (stated data).2 <;> rfl

/-- **Alike operations on maps that are the same** have the same result and leave maps that are the
same. -/
theorem perform_alike (h : m.same n = true) {op op' : Operation} (hop : op.Alike op') :
    SameResult (m.perform op).1 (n.perform op').1 ∧ (m.perform op).2.same (n.perform op').2 = true := by
  cases hop with
  | set hname hvalue => exact ⟨.ok rfl, same_set h hname hvalue⟩
  | get hname =>
      refine ⟨?_, h⟩
      rcases found_cases h hname with ⟨v, w, hv, hw, hsame⟩ | ⟨hv, hw⟩
      · simpa [perform, under, Json.asText, hv, hw] using SameResult.ok hsame
      · simpa [perform, under, Json.asText, hv, hw] using SameResult.error _
  | getOr hname hvalue =>
      refine ⟨?_, h⟩
      rcases found_cases h hname with ⟨v, w, hv, hw, hsame⟩ | ⟨hv, hw⟩
      · simpa [perform, under, Json.asText, hv, hw] using SameResult.ok hsame
      · simpa [perform, under, Json.asText, hv, hw] using SameResult.ok hvalue
  | remove hname =>
      rcases found_cases h hname with ⟨v, w, hv, hw, -⟩ | ⟨hv, hw⟩
      · simpa [perform, under, Json.asText, take?, hv, hw] using
          And.intro (SameResult.ok (v := .null) rfl) (same_remove h hname)
      · simpa [perform, under, Json.asText, take?, hv, hw] using And.intro (SameResult.error _) h
  | @contains a b hname =>
      refine ⟨.ok ?_, h⟩
      have hknown : m.contains a = n.contains b := by
        unfold NameMap.contains
        rcases found_cases h hname with ⟨v, w, hv, hw, -⟩ | ⟨hv, hw⟩
        · rw [hv, hw]
          rfl
        · rw [hv, hw]
      show Json.same (.bool (m.contains a)) (.bool (n.contains b)) = true
      rw [hknown]
      exact (Json.Proper.number (j := .bool _) rfl).same_refl
  | @update data data' named named' hvalues hfault =>
      rw [perform_update, perform_update]
      refine ⟨?_, same_setAll h hvalues⟩
      rw [← hfault]
      cases (stated data).2 with
      | none => exact .ok rfl
      | some f => exact .error f
  | pop hname =>
      rcases found_cases h hname with ⟨v, w, hv, hw, hsame⟩ | ⟨hv, hw⟩
      · simpa [perform, under, Json.asText, take?, hv, hw] using
          And.intro (SameResult.ok hsame) (same_remove h hname)
      · simpa [perform, under, Json.asText, take?, hv, hw] using And.intro (SameResult.error _) h
  | popOr hname hvalue =>
      rcases found_cases h hname with ⟨v, w, hv, hw, hsame⟩ | ⟨hv, hw⟩
      · simpa [perform, under, Json.asText, take?, hv, hw] using
          And.intro (SameResult.ok hsame) (same_remove h hname)
      · simpa [perform, under, Json.asText, take?, hv, hw] using And.intro (SameResult.ok hvalue) h
  | setDefault hname hvalue =>
      rcases found_cases h hname with ⟨v, w, hv, hw, hsame⟩ | ⟨hv, hw⟩
      · simpa [perform, under, Json.asText, getOrSet, hv, hw] using And.intro (SameResult.ok hsame) h
      · simpa [perform, under, Json.asText, getOrSet, hv, hw] using
          And.intro (SameResult.ok hvalue) (same_set h hname hvalue)
  | clear =>
      refine ⟨.ok rfl, ?_⟩
      show m.clear.same n.clear = true
      rw [clear_eq, clear_eq]
      rfl
  | copy =>
      refine ⟨.ok rfl, ?_⟩
      show m.copy.same n.copy = true
      rw [copy_eq, copy_eq]
      exact h
  | size =>
      refine ⟨.ok ?_, h⟩
      rw [size_eq_of_same h]
      exact Json.same_int.mpr rfl

/-- **Alike operations one after the other** on maps that are the same. -/
theorem performAll_alike (h : m.same n = true) {ops ops' : List Operation}
    (hops : List.Forall₂ Operation.Alike ops ops') :
    List.Forall₂ SameResult (m.performAll ops).1 (n.performAll ops').1 ∧
      (m.performAll ops).2.same (n.performAll ops').2 = true := by
  induction hops generalizing m n with
  | nil => exact ⟨.nil, h⟩
  | cons hop _ ih =>
      obtain ⟨hresult, hsame⟩ := perform_alike h hop
      obtain ⟨hresults, hsameAll⟩ := ih hsame
      exact ⟨.cons hresult hresults, hsameAll⟩

/-- Whether two pairs write the same value under the same name. -/
def AlikePairs (p q : String × Json) : Prop :=
  fold p.1 = fold q.1 ∧ Json.same p.2 q.2 = true

/-- Pairs that are alike one by one make maps that are the same. -/
theorem same_ofEntries {ps qs : List (String × Json)} (h : List.Forall₂ AlikePairs ps qs) :
    (ofEntries ps).same (ofEntries qs) = true := by
  have hfrom : ∀ m n : NameMap Json, m.same n = true → (m.setAll ps).same (n.setAll qs) = true := by
    induction h with
    | nil => exact fun _ _ hsame => hsame
    | cons hpq _ ih => exact fun m n hsame => ih _ _ (same_set hsame hpq.1 hpq.2)
  exact hfrom empty empty rfl

/-- Updates with pairs that are alike one by one are alike. -/
theorem Operation.alike_update {fs gs named named' : List (String × Json)}
    (hfields : List.Forall₂ AlikePairs fs gs) (hnamed : List.Forall₂ AlikePairs named named') :
    Operation.Alike (.update (.obj fs) named) (.update (.obj gs) named') :=
  .update (same_ofEntries (List.rel_append hfields hnamed)) rfl

/-! ## Values stay proper -/

/-- Whether what an operation may write names no field twice. -/
def Operation.IsProper : Operation → Prop
  | .set _ v | .setDefault _ v => v.Proper
  | .update data named => data.Proper ∧ ∀ p ∈ named, p.2.Proper
  | _ => True

theorem hasProperValues_empty : (empty : NameMap Json).HasProperValues := nofun

theorem HasProperValues.set (hm : m.HasProperValues) (name : String) {v : Json} (hv : v.Proper) :
    (m.set name v).HasProperValues := by
  intro e he
  rcases mem_put he with hnew | hold
  · rw [hnew]
    exact hv
  · exact hm e hold

theorem HasProperValues.remove (hm : m.HasProperValues) (name : String) :
    (m.remove name).HasProperValues :=
  fun e he => hm e (List.mem_filter.mp he).1

theorem HasProperValues.setAll (hm : m.HasProperValues) {ps : List (String × Json)}
    (hps : ∀ p ∈ ps, p.2.Proper) : (m.setAll ps).HasProperValues := by
  induction ps generalizing m with
  | nil => exact hm
  | cons p ps ih =>
      obtain ⟨hp, hps⟩ := List.forall_mem_cons.mp hps
      exact ih (hm.set p.1 hp) hps

theorem proper_of_pairOf {j : Json} (hj : j.Proper) {p : String × Json} (h : pairOf j = .ok p) :
    p.2.Proper := by
  obtain ⟨xs, hxs, h⟩ := bind_eq_ok_iff.mp h
  have hitems := Json.handsDown_proper.of_items hj hxs
  split at h
  · obtain ⟨name, -, h⟩ := bind_eq_ok_iff.mp h
    cases h
    exact hitems _ (by simp)
  · cases h

theorem proper_of_pairsOf {xs : List Json} (hxs : ∀ x ∈ xs, x.Proper) :
    ∀ p ∈ (pairsOf xs).1, p.2.Proper := by
  induction xs with
  | nil => exact List.forall_mem_nil _
  | cons x xs ih =>
      obtain ⟨hx, hxs⟩ := List.forall_mem_cons.mp hxs
      rw [pairsOf]
      split
      · next p hp => exact List.forall_mem_cons.mpr ⟨proper_of_pairOf hx hp, ih hxs⟩
      · exact List.forall_mem_nil _

theorem proper_of_stated {data : Json} (hdata : data.Proper) : ∀ p ∈ (stated data).1, p.2.Proper := by
  unfold stated
  split
  · exact Json.handsDown_proper.fields hdata
  · split
    · next xs hxs => exact proper_of_pairsOf (Json.handsDown_proper.of_items hdata hxs)
    · exact List.forall_mem_nil _

theorem proper_of_written {data : Json} {named : List (String × Json)} (hdata : data.Proper)
    (hnamed : ∀ p ∈ named, p.2.Proper) : ∀ p ∈ written data named, p.2.Proper := by
  unfold written
  split
  · exact List.forall_mem_append.mpr ⟨proper_of_stated hdata, hnamed⟩
  · exact proper_of_stated hdata

/-- What is done under a name is nothing, or what is done under a text. -/
theorem under_snd_cases (m : NameMap Json) (name : Json) (f : String → Except Fault Json × NameMap Json) :
    (m.under name f).2 = m ∨ ∃ s, (m.under name f).2 = (f s).2 := by
  rcases asText_cases name with ⟨s, rfl⟩ | ⟨hother, -⟩
  · exact Or.inr ⟨s, rfl⟩
  · rw [under_of_not_text hother]
    exact Or.inl rfl

/-- **An operation leaves proper values,** if it is given such. -/
theorem HasProperValues.perform (hm : m.HasProperValues) {op : Operation} (hop : op.IsProper) :
    (m.perform op).2.HasProperValues := by
  have hunder : ∀ {name : Json} {f : String → Except Fault Json × NameMap Json},
      (∀ s, (f s).2.HasProperValues) → (m.under name f).2.HasProperValues := by
    intro name f hf
    rcases under_snd_cases m name f with hsame | ⟨s, hdone⟩
    · rw [hsame]
      exact hm
    · rw [hdone]
      exact hf s
  have htake : ∀ {s : String} {r : Except Fault Json} {f : Json × NameMap Json → Except Fault Json},
      ((m.take? s).elim (r, m) fun p => (f p, p.2)).2.HasProperValues := by
    intro s r f
    unfold take?
    cases m.get? s with
    | none => exact hm
    | some v => exact hm.remove s
  cases op with
  | set name v => exact hunder fun s => hm.set s hop
  | get | getOr => exact hunder fun _ => hm
  | remove | pop | popOr => exact hunder fun _ => htake
  | contains | size => exact hm
  | update data named =>
      rw [perform_update]
      exact hm.setAll (proper_of_written hop.1 hop.2)
  | setDefault name v =>
      refine hunder fun s => ?_
      unfold getOrSet
      cases m.get? s with
      | none => exact hm.set s hop
      | some w => exact hm
  | clear =>
      show m.clear.HasProperValues
      rw [clear_eq]
      exact hasProperValues_empty
  | copy =>
      show m.copy.HasProperValues
      rw [copy_eq]
      exact hm

theorem HasProperValues.performAll (hm : m.HasProperValues) {ops : List Operation}
    (hops : ∀ op ∈ ops, op.IsProper) : (m.performAll ops).2.HasProperValues := by
  induction ops generalizing m with
  | nil => exact hm
  | cons op ops ih =>
      obtain ⟨hop, hops⟩ := List.forall_mem_cons.mp hops
      exact ih (hm.perform hop) hops

theorem hasProperValues_of_build {data : Json} {named : List (String × Json)} (hdata : data.Proper)
    (hnamed : ∀ p ∈ named, p.2.Proper) (h : build data named = .ok m) : m.HasProperValues := by
  have hupdate : m = empty.setAll named ∨ m = empty.setAll (written data named) := by
    unfold build at h
    split at h
    · exact Or.inl (Except.ok.inj h).symm
    · rw [fillNamed_written] at h
      split at h
      · next hfilled =>
        cases h
        exact Or.inr (Prod.mk.inj hfilled).1.symm
      · cases h
  rcases hupdate with rfl | rfl
  · exact hasProperValues_empty.setAll hnamed
  · exact hasProperValues_empty.setAll (proper_of_written hdata hnamed)

/-! ## All maps -/

theorem build_toJson (m : NameMap Json) : build m.toJson [] = .ok m := by
  show Except.ok (ofEntries m.entries) = .ok m
  rw [ofEntries_entries]

/-- **Maps can be rebuilt and compared.** The spellings in a map are different, and a copy of it, or
what is built from the object of its entries, is the map itself. Two maps are the same exactly if under
every name they have the same value or none, and so is a map compared with an object, of which the last
value under a name counts. Among maps of proper values this is an equivalence, for which neither the
order of the entries nor their spelling counts. Operations that are alike give the same results on maps
that are the same, and leave maps that are the same; updates with pairs that are alike one by one are of
this kind. What is built from proper values, and what operations do to it with proper values, has proper
values. -/
theorem equality_of_maps {m n : NameMap Json} (hm : m.HasProperValues) (hn : n.HasProperValues) :
    (m.names.Nodup ∧ m.copy = m ∧ build m.toJson [] = .ok m) ∧
    (m.same n = true ↔ ∀ name, SameUnder m n name) ∧
    m.sameAsJson n.toJson = m.same n ∧
    (∀ fs, m.sameAsJson (.obj fs) = true ↔ ∀ name,
      Option.Rel (fun v w => Json.same v w = true) (m.get? name) (lookup? fs.reverse name)) ∧
    m.same m = true ∧
    (m.same n = true ↔ n.same m = true) ∧
    (∀ k, m.same n = true → n.same k = true → m.same k = true) ∧
    (m.foldedEntries.Perm n.foldedEntries → m.same n = true) ∧
    (∀ ops ops', m.same n = true → List.Forall₂ Operation.Alike ops ops' →
      List.Forall₂ SameResult (m.performAll ops).1 (n.performAll ops').1 ∧
        (m.performAll ops).2.same (n.performAll ops').2 = true) ∧
    (∀ fs gs named named', List.Forall₂ AlikePairs fs gs → List.Forall₂ AlikePairs named named' →
      Operation.Alike (.update (.obj fs) named) (.update (.obj gs) named')) ∧
    ∀ data named ops start, data.Proper → (∀ p ∈ named, p.2.Proper) → (∀ op ∈ ops, op.IsProper) →
      build data named = .ok start → (start.performAll ops).2.HasProperValues := by
  refine ⟨⟨m.nodup_names, m.copy_eq, m.build_toJson⟩, same_iff, sameAsJson_toJson,
    fun _ => sameAsJson_obj_iff, hm.same_refl, ⟨hm.same_symm, hn.same_symm⟩, fun _ => hm.same_trans,
    hm.same_of_perm, fun _ _ hsame => performAll_alike hsame, fun _ _ _ _ => Operation.alike_update, ?_⟩
  intro data named ops start hdata hnamed hops hstart
  exact (hasProperValues_of_build hdata hnamed hstart).performAll hops

/-- Two maps of a street and a purse, in another order and spelling, with 1 in one of them and true in
the other. -/
theorem equality_of_maps_strasse :
    let m : NameMap Json :=
      .ofEntries [("Straße", .int 1), ("Purse", .obj [("a", .int 2), ("b", .null)])]
    let n : NameMap Json :=
      .ofEntries [("PURSE", .obj [("b", .null), ("a", .int 2)]), ("STRASSE", .bool true)]
    let ops : List Operation :=
      [.setDefault (.str "straße") (.int 5), .pop (.str "purse"), .update (.obj [("Map", .int 0)]) []]
    let ops' : List Operation :=
      [.setDefault (.str "STRASSE") (.int 5), .pop (.str "PURSE"), .update (.obj [("MAP", .bool false)]) []]
    m.HasProperValues ∧ n.HasProperValues ∧ m.copy = m ∧ m.same n = true ∧ n.same m = true ∧
      List.Forall₂ Operation.Alike ops ops' ∧
      (m.performAll ops).2.same (n.performAll ops').2 = true ∧
      (m.performAll ops).2.names = ["Straße", "Map"] := by
  intro m n ops ops'
  have hpurse : (Json.obj [("a", .int 2), ("b", .null)]).Proper :=
    .obj (by decide) (by simp [Json.Proper.null, Json.Proper.number (j := .int 2) rfl])
  have hpurse' : (Json.obj [("b", .null), ("a", .int 2)]).Proper :=
    .obj (by decide) (by simp [Json.Proper.null, Json.Proper.number (j := .int 2) rfl])
  have hm : m.HasProperValues := hasProperValues_empty.setAll
    (by simp [hpurse, Json.Proper.number (j := .int 1) rfl])
  have hn : n.HasProperValues := hasProperValues_empty.setAll
    (by simp [hpurse', Json.Proper.number (j := .bool true) rfl])
  obtain ⟨⟨-, hcopy, -⟩, -, -, -, -, hsymm, -, -, halike, hupdate, -⟩ := equality_of_maps hm hn
  have hsame : m.same n = true := by decide +kernel
  have hops : List.Forall₂ Operation.Alike ops ops' := by
    refine .cons (.setDefault (by decide +kernel) rfl) (.cons (.pop (by decide +kernel)) (.cons ?_ .nil))
    exact hupdate _ _ _ _ (.cons ⟨by decide +kernel, by decide +kernel⟩ .nil) .nil
  exact ⟨hm, hn, hcopy, hsame, hsymm.mp hsame, hops, (halike ops ops' hsame hops).2, by decide +kernel⟩

end NameMap

end Questbook
