import Mathlib.Data.Finset.Card
import Questbook.Series.Cache

set_option autoImplicit false

/-! # What a cache has loaded

A cache is asked by keys that may have the same normal form, with loaders that may fail. What it
answers to a call can be told from the calls before (`replyAfter`): the first value that was loaded for
a normal form is its value from then on (`firstLoaded`).

One call keeps this (`Reflects.perform`), hence any number of calls does (`Reflects.performAll`).
Of the requests in one normal form, those before the first that succeeds ask their loaders in vain, and
those after it ask no loader (`answersFor_repliesAfter`).
-/

namespace Questbook.SeriesCache

variable {α ε : Type} {c : SeriesCache α} {key : Option String} {load : String → Except ε α}

/-! ## Requests -/

theorem find?_insert (c : SeriesCache α) (key other : String) (value : α) :
    (c.insert key value).find? other =
      (c.find? other).or (if other = key then some value else none) := by
  unfold find? insert
  rw [List.lookup_append, List.lookup_cons, List.lookup_nil]
  by_cases h : other = key
  · rw [if_pos h, beq_iff_eq.mpr h]
  · rw [if_neg h, beq_eq_false_iff_ne.mpr h]

/-- What has been loaded is given, and no loader is asked. -/
theorem getOrLoad_of_found {v : α} (h : c.find? (Series.normalKey key) = some v) :
    c.getOrLoad key load = ⟨.ok v, c, none⟩ := by
  simp only [getOrLoad, h]

/-- What is loaded for the first time is kept. -/
theorem getOrLoad_of_loaded {v : α} (h : c.find? (Series.normalKey key) = none)
    (hload : load (Series.normalKey key) = .ok v) :
    c.getOrLoad key load =
      ⟨.ok v, c.insert (Series.normalKey key) v, some (Series.normalKey key)⟩ := by
  simp only [getOrLoad, h, hload]

/-- A load that fails changes nothing. -/
theorem getOrLoad_of_failed {f : ε} (h : c.find? (Series.normalKey key) = none)
    (hload : load (Series.normalKey key) = .error f) :
    c.getOrLoad key load = ⟨.error f, c, some (Series.normalKey key)⟩ := by
  simp only [getOrLoad, h, hload]

/-- What a request gives: what has been loaded, or else what is loaded now. -/
theorem result_getOrLoad (c : SeriesCache α) (key : Option String) :
    (c.getOrLoad key load).result =
      ((c.find? (Series.normalKey key)).map Except.ok).getD (load (Series.normalKey key)) := by
  cases hfound : c.find? (Series.normalKey key) with
  | some v => rw [getOrLoad_of_found hfound, Option.map_some, Option.getD_some]
  | none =>
      rw [Option.map_none, Option.getD_none]
      cases hload : load (Series.normalKey key) with
      | error f => rw [getOrLoad_of_failed hfound hload]
      | ok v => rw [getOrLoad_of_loaded hfound hload]

/-- What is found after a request: what was found before, or what the request has loaded. -/
theorem find?_getOrLoad (c : SeriesCache α) (key : Option String) (other : String) :
    (c.getOrLoad key load).cache.find? other = c.find? other ∨
      c.find? other = none ∧ other = Series.normalKey key ∧
        ∃ v, load other = .ok v ∧ (c.getOrLoad key load).cache.find? other = some v := by
  cases hfound : c.find? (Series.normalKey key) with
  | some v => exact Or.inl (by rw [getOrLoad_of_found hfound])
  | none =>
      cases hload : load (Series.normalKey key) with
      | error f => exact Or.inl (by rw [getOrLoad_of_failed hfound hload])
      | ok v =>
          rw [getOrLoad_of_loaded hfound hload, find?_insert]
          by_cases hother : other = Series.normalKey key
          · subst hother
            exact Or.inr ⟨hfound, rfl, v, hload, by rw [hfound, if_pos rfl]; rfl⟩
          · exact Or.inl (by rw [if_neg hother, Option.or_none])

/-- **A request changes no answer,** neither to the same request nor to another one. -/
theorem result_getOrLoad_after (c : SeriesCache α) (key other : Option String) :
    ((c.getOrLoad key load).cache.getOrLoad other load).result = (c.getOrLoad other load).result := by
  rw [result_getOrLoad, result_getOrLoad]
  rcases c.find?_getOrLoad key (Series.normalKey other) with hsame | ⟨hnone, -, v, hload, hfound⟩
  · rw [hsame]
  · rw [hfound, hnone, hload]
    rfl

/-- What has been loaded is not loaded again, and what could not be loaded is tried again. -/
theorem result_getOrLoad_again (c : SeriesCache α) (key : Option String)
    {load load' : String → Except ε α}
    (h : (c.getOrLoad key load').result = (c.getOrLoad key load).result) :
    ((c.getOrLoad key load).cache.getOrLoad key load').result = (c.getOrLoad key load).result := by
  cases hfound : c.find? (Series.normalKey key) with
  | some v => rw [getOrLoad_of_found hfound, getOrLoad_of_found hfound]
  | none =>
      cases hload : load (Series.normalKey key) with
      | ok v => rw [getOrLoad_of_loaded hfound hload, getOrLoad_of_found (c.find?_insert_self hfound v)]
      | error f =>
          rw [getOrLoad_of_failed hfound hload] at h ⊢
          exact h

/-! ## Calls -/

/-- **What a cache can be asked for.** Each request comes with a loader of its own. -/
inductive Call (α ε : Type)
  | get (key : Option String) (load : String → Except ε α)
  | contains (key : Option String)

/-- The answer to a call. That to a request tells which key the loader was asked for. -/
inductive Reply (α ε : Type)
  | got (result : Except ε α) (request : Option String)
  | contained (found : Bool)

/-- **Makes a call.** -/
def perform (c : SeriesCache α) : Call α ε → Reply α ε × SeriesCache α
  | .get key load =>
    let answer := c.getOrLoad key load
    (.got answer.result answer.request, answer.cache)
  | .contains key => (.contained (c.contains key), c)

/-- **Makes calls** one after the other. A load that fails does not end the list. -/
def performAll (c : SeriesCache α) : List (Call α ε) → List (Reply α ε) × SeriesCache α
  | [] => ([], c)
  | call :: calls =>
    let (r, c) := c.perform call
    let (rs, c) := c.performAll calls
    (r :: rs, c)

/-! ## Answers by history -/

/-- What the loader of a call would load under a normal form, if the call is a request in it. -/
def Call.loaded? (k : String) : Call α ε → Option α
  | .get key load => if Series.normalKey key = k then (load k).toOption else none
  | .contains _ => none

/-- **The first value that any of the calls can load** under a normal form. -/
def firstLoaded (k : String) (calls : List (Call α ε)) : Option α :=
  calls.findSome? (Call.loaded? k)

/-- **The answer to a call after other calls.** -/
def replyAfter (earlier : List (Call α ε)) : Call α ε → Reply α ε
  | .get key load =>
    match firstLoaded (Series.normalKey key) earlier with
    | some v => .got (.ok v) none
    | none => .got (load (Series.normalKey key)) (some (Series.normalKey key))
  | .contains key => .contained (firstLoaded (Series.normalKey key) earlier).isSome

/-- The answers to calls made one after the other, after other calls. -/
def repliesAfter (earlier : List (Call α ε)) : List (Call α ε) → List (Reply α ε)
  | [] => []
  | call :: calls => replyAfter earlier call :: repliesAfter (earlier ++ [call]) calls

/-- The answer that a reply gives to a request in a normal form. -/
def answerFor? (k : String) : Call α ε × Reply α ε → Option (Except ε α × Option String)
  | (.get key _, .got result request) =>
    if Series.normalKey key = k then some (result, request) else none
  | _ => none

/-- **The answers to the requests in one normal form,** each with the key its loader was asked for. -/
def answersFor (k : String) (calls : List (Call α ε)) (replies : List (Reply α ε)) :
    List (Except ε α × Option String) :=
  (calls.zip replies).filterMap (answerFor? k)

/-- **Whether a cache holds what calls have loaded,** under each normal form what was first. -/
structure Reflects (c : SeriesCache α) (calls : List (Call α ε)) : Prop where
  find : ∀ k, c.find? k = firstLoaded k calls
  size : ∃ forms : Finset String,
    (∀ k, k ∈ forms ↔ (firstLoaded k calls).isSome) ∧ c.size = forms.card

variable {earlier calls : List (Call α ε)} {k : String}

theorem firstLoaded_append_singleton (call : Call α ε) :
    firstLoaded k (earlier ++ [call]) = (firstLoaded k earlier).or (call.loaded? k) := by
  unfold firstLoaded
  rw [List.findSome?_append, List.findSome?_singleton]

theorem loaded?_get (key : Option String) (load : String → Except ε α) :
    (Call.get key load).loaded? k = if Series.normalKey key = k then (load k).toOption else none :=
  rfl

theorem replyAfter_get_of_loaded {v : α} (h : firstLoaded (Series.normalKey key) earlier = some v) :
    replyAfter earlier (.get key load) = .got (.ok v) none := by
  simp only [replyAfter, h]

theorem replyAfter_get_of_new (h : firstLoaded (Series.normalKey key) earlier = none) :
    replyAfter earlier (.get key load) =
      .got (load (Series.normalKey key)) (some (Series.normalKey key)) := by
  simp only [replyAfter, h]

theorem Reflects.of_same {later : List (Call α ε)} (h : c.Reflects earlier)
    (hsame : ∀ k, firstLoaded k later = firstLoaded k earlier) : c.Reflects later := by
  obtain ⟨forms, hforms, hsize⟩ := h.size
  exact ⟨fun k => (h.find k).trans (hsame k).symm, forms,
    fun k => (hforms k).trans (by rw [hsame k]), hsize⟩

/-- A request that loads nothing, or what is there, leaves all values as they are. -/
theorem Reflects.append_get (h : c.Reflects earlier)
    (hload : firstLoaded (Series.normalKey key) earlier = none →
      ∃ f, load (Series.normalKey key) = .error f) :
    c.Reflects (earlier ++ [.get key load]) := by
  refine h.of_same fun k => ?_
  rw [firstLoaded_append_singleton, loaded?_get]
  by_cases hk : Series.normalKey key = k
  · subst hk
    cases hfirst : firstLoaded (Series.normalKey key) earlier with
    | some v => rfl
    | none =>
        obtain ⟨f, hf⟩ := hload hfirst
        rw [if_pos rfl, hf]
        rfl
  · rw [if_neg hk, Option.or_none]

/-- The first load under a normal form adds its value. -/
theorem Reflects.insert {v : α} (h : c.Reflects earlier)
    (hfirst : firstLoaded (Series.normalKey key) earlier = none)
    (hload : load (Series.normalKey key) = .ok v) :
    (c.insert (Series.normalKey key) v).Reflects (earlier ++ [.get key load]) := by
  have hfind : ∀ k, (c.insert (Series.normalKey key) v).find? k =
      firstLoaded k (earlier ++ [.get key load]) := by
    intro k
    rw [find?_insert, firstLoaded_append_singleton, loaded?_get, h.find k]
    by_cases hk : k = Series.normalKey key
    · rw [if_pos hk, if_pos hk.symm, hk, hload]
      rfl
    · rw [if_neg hk, if_neg (Ne.symm hk)]
  obtain ⟨forms, hforms, hsize⟩ := h.size
  have hnew : Series.normalKey key ∉ forms := by
    rw [hforms, hfirst]
    exact Bool.false_ne_true
  refine ⟨hfind, Insert.insert (Series.normalKey key) forms, fun k => ?_, ?_⟩
  · rw [← hfind, find?_insert, Finset.mem_insert, hforms, h.find k]
    by_cases hk : k = Series.normalKey key
    · simp [hk]
    · simp [hk]
  · rw [Finset.card_insert_of_notMem hnew, ← hsize]
    exact List.length_append

/-! ## Steps and runs -/

/-- **A call is answered from the calls before,** and its load is added to theirs. -/
theorem Reflects.perform (h : c.Reflects earlier) (call : Call α ε) :
    (c.perform call).1 = replyAfter earlier call ∧
      (c.perform call).2.Reflects (earlier ++ [call]) := by
  cases call with
  | contains key =>
      refine ⟨?_, h.of_same fun k => ?_⟩
      · show Reply.contained (c.find? (Series.normalKey key)).isSome = _
        rw [h.find]
        rfl
      · rw [firstLoaded_append_singleton]
        exact Option.or_none
  | get key load =>
      show Reply.got (c.getOrLoad key load).result (c.getOrLoad key load).request = _ ∧
        (c.getOrLoad key load).cache.Reflects _
      have hfind := h.find (Series.normalKey key)
      cases hfirst : firstLoaded (Series.normalKey key) earlier with
      | some v =>
          rw [hfirst] at hfind
          rw [getOrLoad_of_found hfind, replyAfter_get_of_loaded hfirst]
          exact ⟨rfl, h.append_get fun hnone => absurd (hfirst.symm.trans hnone) (by simp)⟩
      | none =>
          rw [hfirst] at hfind
          rw [replyAfter_get_of_new hfirst]
          cases hload : load (Series.normalKey key) with
          | error f =>
              rw [getOrLoad_of_failed hfind hload]
              exact ⟨rfl, h.append_get fun _ => ⟨f, hload⟩⟩
          | ok v =>
              rw [getOrLoad_of_loaded hfind hload]
              exact ⟨rfl, h.insert hfirst hload⟩

/-- **Any calls are answered from the calls before them.** -/
theorem Reflects.performAll (h : c.Reflects earlier) (calls : List (Call α ε)) :
    (c.performAll calls).1 = repliesAfter earlier calls ∧
      (c.performAll calls).2.Reflects (earlier ++ calls) := by
  induction calls generalizing c earlier with
  | nil => exact ⟨rfl, by rwa [List.append_nil]⟩
  | cons call calls ih =>
      obtain ⟨hreply, hnext⟩ := h.perform call
      obtain ⟨hreplies, hlast⟩ := ih hnext
      rw [List.append_assoc, List.singleton_append] at hlast
      exact ⟨congr (congrArg List.cons hreply) hreplies, hlast⟩

theorem reflects_empty : ({} : SeriesCache α).Reflects ([] : List (Call α ε)) :=
  ⟨fun _ => rfl, ∅, fun _ => by simp [firstLoaded], rfl⟩

/-! ## Requests in one normal form -/

theorem answersFor_cons (call : Call α ε) (r : Reply α ε) (replies : List (Reply α ε)) :
    answersFor k (call :: calls) (r :: replies) =
      (answerFor? k (call, r)).toList ++ answersFor k calls replies := by
  unfold answersFor
  rw [List.zip_cons_cons, List.filterMap_cons]
  cases answerFor? k (call, r) <;> rfl

theorem answerFor?_got (result : Except ε α) (request : Option String) :
    answerFor? (Series.normalKey key) (Call.get key load, Reply.got result request) =
      some (result, request) :=
  if_pos rfl

theorem answerFor?_get_of_ne (h : Series.normalKey key ≠ k) (r : Reply α ε) :
    answerFor? k (Call.get key load, r) = none := by
  cases r with
  | got result request => exact if_neg h
  | contained found => rfl

/-- Requests for what has been loaded are answered with it, and ask no loader. -/
theorem answersFor_repliesAfter_of_loaded {v : α} (h : firstLoaded k earlier = some v)
    (calls : List (Call α ε)) :
    ∃ hits, answersFor k calls (repliesAfter earlier calls) =
      List.replicate hits (.ok v, none) := by
  induction calls generalizing earlier with
  | nil => exact ⟨0, rfl⟩
  | cons call calls ih =>
      have hnext : firstLoaded k (earlier ++ [call]) = some v := by
        rw [firstLoaded_append_singleton, h, Option.some_or]
      obtain ⟨hits, hrest⟩ := ih hnext
      rw [repliesAfter, answersFor_cons, hrest]
      cases call with
      | contains key => exact ⟨hits, rfl⟩
      | get key load =>
          by_cases hk : Series.normalKey key = k
          · subst hk
            rw [replyAfter_get_of_loaded h, answerFor?_got]
            exact ⟨hits + 1, rfl⟩
          · rw [answerFor?_get_of_ne hk]
            exact ⟨hits, rfl⟩

/-- The request that loads the first value is answered with it. -/
theorem answerFor?_replyAfter_of_loaded {call : Call α ε} {v : α} (h : firstLoaded k earlier = none)
    (hload : call.loaded? k = some v) :
    answerFor? k (call, replyAfter earlier call) = some (.ok v, some k) := by
  cases call with
  | contains key => cases hload
  | get key load =>
      rw [loaded?_get] at hload
      by_cases hk : Series.normalKey key = k
      · subst hk
        rw [if_pos rfl] at hload
        rw [replyAfter_get_of_new h, answerFor?_got]
        cases hresult : load (Series.normalKey key) with
        | error f =>
            rw [hresult] at hload
            cases hload
        | ok w =>
            rw [hresult] at hload
            cases hload
            rfl
      · rw [if_neg hk] at hload
        cases hload

/-- A request before the first value has failed. -/
theorem answerFor?_replyAfter_of_failed {call : Call α ε} (h : firstLoaded k earlier = none)
    (hload : call.loaded? k = none) :
    ∃ failed : Option ε, answerFor? k (call, replyAfter earlier call) =
      failed.map fun f => (.error f, some k) := by
  cases call with
  | contains key => exact ⟨none, rfl⟩
  | get key load =>
      by_cases hk : Series.normalKey key = k
      · subst hk
        rw [loaded?_get, if_pos rfl] at hload
        rw [replyAfter_get_of_new h, answerFor?_got]
        cases hresult : load (Series.normalKey key) with
        | error f => exact ⟨some f, rfl⟩
        | ok w =>
            rw [hresult] at hload
            cases hload
      · exact ⟨none, answerFor?_get_of_ne hk _⟩

/-- **Loaders are asked until one gives a value,** among the requests in one normal form. -/
theorem answersFor_repliesAfter (h : firstLoaded k earlier = none) (calls : List (Call α ε)) :
    ∃ (failures : List ε) (hits : Nat), answersFor k calls (repliesAfter earlier calls) =
      failures.map (fun f => (.error f, some k)) ++
        match firstLoaded k calls with
        | some v => (.ok v, some k) :: List.replicate hits (.ok v, none)
        | none => [] := by
  induction calls generalizing earlier with
  | nil => exact ⟨[], 0, rfl⟩
  | cons call calls ih =>
      rw [repliesAfter, answersFor_cons, firstLoaded, List.findSome?_cons, ← firstLoaded]
      cases hloaded : call.loaded? k with
      | some v =>
          have hnext : firstLoaded k (earlier ++ [call]) = some v := by
            rw [firstLoaded_append_singleton, h, hloaded, Option.none_or]
          obtain ⟨hits, hrest⟩ := answersFor_repliesAfter_of_loaded hnext calls
          rw [answerFor?_replyAfter_of_loaded h hloaded, hrest]
          exact ⟨[], hits, rfl⟩
      | none =>
          have hnext : firstLoaded k (earlier ++ [call]) = none := by
            rw [firstLoaded_append_singleton, h, hloaded, Option.none_or]
          obtain ⟨failures, hits, hrest⟩ := ih hnext
          obtain ⟨failed, hfailed⟩ := answerFor?_replyAfter_of_failed h hloaded
          rw [hfailed, hrest]
          refine ⟨failed.toList ++ failures, hits, ?_⟩
          rw [List.map_append, List.append_assoc]
          cases failed <;> rfl

/-- **Each series is loaded once.** After any calls on a new cache:

* every reply is the one that the calls before it determine;
* the requests in one normal form have asked their loaders for it, in vain until the first value, and
  are all answered with this value, without a loader, from then on;
* known are the keys in whose normal forms something was loaded, and these normal forms are counted;
* a request that fails leaves everything as it is. -/
theorem loads_each_series_once (calls : List (Call α ε)) :
    let replies := (performAll ({} : SeriesCache α) calls).1
    let c := (performAll ({} : SeriesCache α) calls).2
    replies = repliesAfter [] calls ∧
      (∀ k, ∃ (failures : List ε) (hits : Nat), answersFor k calls replies =
        failures.map (fun f => (.error f, some k)) ++
          match firstLoaded k calls with
          | some v => (.ok v, some k) :: List.replicate hits (.ok v, none)
          | none => []) ∧
      (∀ key, c.contains key = (firstLoaded (Series.normalKey key) calls).isSome) ∧
      (∃ forms : Finset String,
        (∀ k, k ∈ forms ↔ (firstLoaded k calls).isSome) ∧ c.size = forms.card) ∧
      ∀ (key : Option String) (load : String → Except ε α) (f : ε),
        (c.getOrLoad key load).result = .error f → (c.getOrLoad key load).cache = c := by
  intro replies c
  obtain ⟨hreplies, hc⟩ := reflects_empty.performAll calls
  refine ⟨hreplies, fun k => ?_, fun key => ?_, hc.size, fun key load f hfailed => ?_⟩
  · rw [show replies = repliesAfter [] calls from hreplies]
    exact answersFor_repliesAfter rfl calls
  · exact congrArg Option.isSome (hc.find _)
  · cases hfound : c.find? (Series.normalKey key) with
    | some v => rw [getOrLoad_of_found hfound]
    | none =>
        cases hload : load (Series.normalKey key) with
        | error f' => rw [getOrLoad_of_failed hfound hload]
        | ok v =>
            rw [getOrLoad_of_loaded hfound hload] at hfailed
            cases hfailed

/-- What could not be loaded is loaded by the next request, under another spelling of the key. -/
theorem loads_each_series_once_lone_wolf :
    let calls : List (Call String String) :=
      [.get (some " Lone Wolf ") fun _ => .error "gone", .contains (some "lonewolf"),
        .get (some "LoneWolf") .ok, .get none fun _ => .error "gone", .get (some "LONE wolf") .ok]
    let replies := (performAll ({} : SeriesCache String) calls).1
    let c := (performAll ({} : SeriesCache String) calls).2
    answersFor "lonewolf" calls replies =
        [(.error "gone", some "lonewolf"), (.ok "lonewolf", some "lonewolf"),
          (.ok "lonewolf", none)] ∧
      c.size = 1 ∧
      (c.getOrLoad none fun _ => Except.error "gone").result = .error "gone" ∧
      (c.getOrLoad none fun _ => Except.error "gone").cache = c := by
  intro calls replies c
  have hfailed : (c.getOrLoad none fun _ => Except.error "gone").result = .error "gone" := by
    decide +kernel
  exact ⟨by decide +kernel, by decide +kernel, hfailed,
    (loads_each_series_once calls).2.2.2.2 none _ "gone" hfailed⟩

end Questbook.SeriesCache
