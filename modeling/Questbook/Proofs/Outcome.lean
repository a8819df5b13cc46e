import Questbook.Play

set_option autoImplicit false

/-! # Results that may be faults

When the steps of a computation give a value: each of them gives one, and the last one gives the
value of the whole. `FailsOnlyBy` says of a result which faults it can be, and `PassesOn` says exactly
which of them get past a caller that catches the others. `Both` says of two results that they are
values that a relation ties together, and it is kept by steps that keep relations. A computation of the
play that gives a fault has met it in one of its steps, and leaves the state that this step left.

`Play.Within` says of a computation that it moves the state only as far as a relation allows. It is
put together from the steps when the relation is transitive. `Play.Agree` says of two computations
that they give the same result on states that a relation ties together. `Play.Meets` says what a
computation does under an invariant.
-/

namespace Questbook

variable {ε α β : Type}

theorem map_eq_ok_iff {r : Except ε α} {f : α → β} {b : β} :
    r.map f = .ok b ↔ ∃ a, r = .ok a ∧ f a = b := by
  cases r with
  | error e =>
      constructor
      · intro h
        cases h
      · rintro ⟨a, h, -⟩
        cases h
  | ok a =>
      constructor
      · intro h
        cases h
        exact ⟨a, rfl, rfl⟩
      · rintro ⟨a', h, rfl⟩
        cases h
        rfl

theorem bind_eq_ok_iff {r : Except ε α} {f : α → Except ε β} {b : β} :
    r >>= f = .ok b ↔ ∃ a, r = .ok a ∧ f a = .ok b := by
  cases r with
  | error e =>
      constructor
      · intro h
        cases h
      · rintro ⟨a, h, -⟩
        cases h
  | ok a =>
      constructor
      · intro h
        exact ⟨a, rfl, h⟩
      · rintro ⟨a', h, hf⟩
        cases h
        exact hf

theorem map_eq_error_iff {r : Except ε α} {f : α → β} {e : ε} :
    r.map f = .error e ↔ r = .error e := by
  cases r with
  | error e' => exact ⟨fun h => congrArg Except.error (Except.error.inj h),
      fun h => congrArg Except.error (Except.error.inj h)⟩
  | ok a => exact ⟨nofun, nofun⟩

theorem bind_eq_error_iff {r : Except ε α} {f : α → Except ε β} {e : ε} :
    r >>= f = .error e ↔ r = .error e ∨ ∃ a, r = .ok a ∧ f a = .error e := by
  cases r with
  | error e' =>
      constructor
      · intro h
        cases h
        exact Or.inl rfl
      · rintro (h | ⟨a, h, -⟩)
        · cases h
          rfl
        · cases h
  | ok a =>
      constructor
      · exact fun h => Or.inr ⟨a, rfl, h⟩
      · rintro (h | ⟨a', h, hf⟩)
        · cases h
        · cases h
          exact hf

theorem exists_of_toBool {r : Except ε α} (h : r.toBool = true) : ∃ a, r = .ok a := by
  cases r with
  | error e => cases h
  | ok a => exact ⟨a, rfl⟩

theorem eq_ok_of_toOption {r : Except ε α} {a : α} (h : r.toOption = some a) : r = .ok a := by
  cases r with
  | error e => cases h
  | ok b => exact congrArg Except.ok (Option.some.inj h)

/-- What is said of the value of a result, if there is one, can be decided. This is no instance, since it
would be tried for every bounded statement. -/
def decidableForallOk (r : Except ε α) (P : α → Prop) [DecidablePred P] :
    Decidable (∀ a, r = .ok a → P a) :=
  match r with
  | .ok a => decidable_of_iff (P a) ⟨fun h _ hr => by cases hr; exact h, fun h => h a rfl⟩
  | .error _ => .isTrue nofun

/-- What a list of results holds comes from the list that was gone through. -/
theorem mem_of_mapM {f : α → Except ε β} {xs : List α} {ys : List β}
    (h : xs.mapM f = .ok ys) : ∀ y ∈ ys, ∃ x ∈ xs, f x = .ok y := by
  induction xs generalizing ys with
  | nil =>
      cases h
      intro y hy
      cases hy
  | cons x xs ih =>
      rw [List.mapM_cons] at h
      obtain ⟨z, hz, h⟩ := bind_eq_ok_iff.mp h
      obtain ⟨zs, hzs, h⟩ := bind_eq_ok_iff.mp h
      cases h
      intro y hy
      rcases List.mem_cons.mp hy with rfl | hy
      · exact ⟨x, by simp, hz⟩
      · obtain ⟨w, hw, hf⟩ := ih hzs y hy
        exact ⟨w, by simp [hw], hf⟩

/-- Each element of a list that was gone through has its result in what it holds. -/
theorem exists_of_mem_of_mapM {f : α → Except ε β} {xs : List α} {ys : List β}
    (h : xs.mapM f = .ok ys) : ∀ x ∈ xs, ∃ y ∈ ys, f x = .ok y := by
  induction xs generalizing ys with
  | nil =>
      intro x hx
      cases hx
  | cons z xs ih =>
      rw [List.mapM_cons] at h
      obtain ⟨y, hy, h⟩ := bind_eq_ok_iff.mp h
      obtain ⟨rest, hrest, h⟩ := bind_eq_ok_iff.mp h
      cases h
      intro x hx
      rcases List.mem_cons.mp hx with rfl | hx
      · exact ⟨y, by simp, hy⟩
      · obtain ⟨w, hw, hf⟩ := ih hrest x hx
        exact ⟨w, by simp [hw], hf⟩

/-- A list can be gone through if each of its elements has a result. -/
theorem exists_mapM {f : α → Except ε β} {xs : List α} (h : ∀ x ∈ xs, ∃ y, f x = .ok y) :
    ∃ ys, xs.mapM f = .ok ys := by
  induction xs with
  | nil => exact ⟨[], rfl⟩
  | cons x xs ih =>
      obtain ⟨y, hy⟩ := h x (by simp)
      obtain ⟨ys, hys⟩ := ih fun z hz => h z (by simp [hz])
      refine ⟨y :: ys, ?_⟩
      rw [List.mapM_cons, hy, hys]
      rfl

/-- Going through a list stops at the first element that has no result. -/
theorem mapM_eq_error_iff {f : α → Except ε β} {xs : List α} {e : ε} :
    xs.mapM f = .error e ↔ ∃ before x after, xs = before ++ x :: after ∧
      (∀ y ∈ before, ∃ z, f y = .ok z) ∧ f x = .error e := by
  induction xs with
  | nil =>
      constructor
      · exact nofun
      · rintro ⟨before, x, after, hsplit, -⟩
        simp at hsplit
  | cons w xs ih =>
      rw [List.mapM_cons, bind_eq_error_iff]
      constructor
      · rintro (hw | ⟨z, hz, h⟩)
        · exact ⟨[], w, xs, rfl, nofun, hw⟩
        · rcases bind_eq_error_iff.mp h with h | ⟨_, -, h⟩
          · obtain ⟨before, x, after, rfl, hbefore, hx⟩ := ih.mp h
            exact ⟨w :: before, x, after, rfl, List.forall_mem_cons.mpr ⟨⟨z, hz⟩, hbefore⟩, hx⟩
          · cases h
      · rintro ⟨before, x, after, hsplit, hbefore, hx⟩
        cases before with
        | nil =>
            obtain ⟨rfl, rfl⟩ := List.cons.inj hsplit
            exact Or.inl hx
        | cons y before =>
            obtain ⟨rfl, rfl⟩ := List.cons.inj hsplit
            obtain ⟨⟨z, hz⟩, hbefore⟩ := List.forall_mem_cons.mp hbefore
            have hrest := ih.mpr ⟨before, x, after, rfl, hbefore, hx⟩
            exact Or.inr ⟨z, hz, bind_eq_error_iff.mpr (Or.inl hrest)⟩

/-- Elements that have results can be left out before a list is gone through, or their results
after it. -/
theorem mapM_filter {f : α → Except ε β} {p : α → Bool} {q : β → Bool}
    (hok : ∀ x y, f x = .ok y → p x = q y) (herror : ∀ x e, f x = .error e → p x = true)
    (xs : List α) : (xs.filter p).mapM f = (xs.mapM f).map fun ys => ys.filter q := by
  induction xs with
  | nil => rfl
  | cons x xs ih =>
      cases hx : f x with
      | error e =>
          rw [List.filter_cons_of_pos (herror x e hx), List.mapM_cons, List.mapM_cons, hx]
          rfl
      | ok y =>
          have hsame := hok x y hx
          cases hp : p x with
          | true =>
              rw [List.filter_cons_of_pos hp, List.mapM_cons, List.mapM_cons, hx, ih]
              cases xs.mapM f with
              | error e => rfl
              | ok ys => exact congrArg Except.ok (List.filter_cons_of_pos (hsame ▸ hp)).symm
          | false =>
              have hq : ¬ q y = true := by rw [← hsame, hp]; exact nofun
              rw [List.filter_cons_of_neg (Bool.eq_false_iff.mp hp), List.mapM_cons, hx, ih]
              cases xs.mapM f with
              | error e => rfl
              | ok ys => exact congrArg Except.ok (List.filter_cons_of_neg hq).symm

/-- **Whether a result is a value or one of certain faults.** -/
def FailsOnlyBy (P : ε → Prop) (r : Except ε α) : Prop :=
  ∀ e, r = .error e → P e

section

variable {P : ε → Prop} {r : Except ε α}

theorem failsOnlyBy_ok (a : α) : FailsOnlyBy P (.ok a : Except ε α) := nofun

theorem failsOnlyBy_error {e : ε} (h : P e) : FailsOnlyBy P (.error e : Except ε α) := by
  intro e' he
  cases he
  exact h

theorem FailsOnlyBy.bind {f : α → Except ε β} (hr : FailsOnlyBy P r)
    (hf : ∀ a, FailsOnlyBy P (f a)) : FailsOnlyBy P (r >>= f) := by
  intro e he
  rcases bind_eq_error_iff.mp he with he | ⟨a, -, he⟩
  · exact hr e he
  · exact hf a e he

theorem FailsOnlyBy.map {f : α → β} (hr : FailsOnlyBy P r) : FailsOnlyBy P (r.map f) :=
  fun e he => hr e (map_eq_error_iff.mp he)

theorem failsOnlyBy_mapM {f : α → Except ε β} (hf : ∀ a, FailsOnlyBy P (f a)) (xs : List α) :
    FailsOnlyBy P (xs.mapM f) := by
  intro e he
  obtain ⟨-, x, -, -, -, hx⟩ := mapM_eq_error_iff.mp he
  exact hf x e hx

end

/-- **Which faults get past a caller** that catches some of them: exactly those of a kind. -/
def PassesOn (caught : ε → Bool) (r : Except ε α) (kind : ε → Prop) : Prop :=
  ∀ e, caught e = false → (r = .error e ↔ kind e)

section

variable {caught : ε → Bool} {r : Except ε α} {kind kind' : ε → Prop}

theorem PassesOn.congr (h : PassesOn caught r kind) (hkind : ∀ e, kind e ↔ kind' e) :
    PassesOn caught r kind' :=
  fun e he => (h e he).trans (hkind e)

/-- No fault gets past a caller that catches all that there can be. -/
theorem FailsOnlyBy.passesOn (h : FailsOnlyBy (fun e => caught e = true) r) :
    PassesOn caught r fun _ => False := by
  intro e he
  refine ⟨fun hr => ?_, False.elim⟩
  have hcaught : caught e = true := h e hr
  exact Bool.false_ne_true (he.symm.trans hcaught)

/-- A fault of the second step is met if the first step gives a value. -/
theorem PassesOn.bind {f : α → Except ε β} {kinds : α → ε → Prop} (hr : PassesOn caught r kind)
    (hf : ∀ a, PassesOn caught (f a) (kinds a)) :
    PassesOn caught (r >>= f) fun e => kind e ∨ ∃ a, r = .ok a ∧ kinds a e := by
  intro e he
  rw [bind_eq_error_iff, hr e he]
  simp only [fun a => hf a e he]

theorem FailsOnlyBy.passesOn_bind {f : α → Except ε β} {kinds : α → ε → Prop}
    (hr : FailsOnlyBy (fun e => caught e = true) r) (hf : ∀ a, PassesOn caught (f a) (kinds a)) :
    PassesOn caught (r >>= f) fun e => ∃ a, r = .ok a ∧ kinds a e :=
  (hr.passesOn.bind hf).congr fun e => by rw [false_or]

end

/-! ## Two results -/

/-- **Whether two results are values that a relation ties together.** -/
def Both {γ : Type} (R : α → γ → Prop) (r : Except ε α) (q : Except ε γ) : Prop :=
  ∃ a b, r = .ok a ∧ q = .ok b ∧ R a b

section

variable {γ δ : Type} {R : α → γ → Prop} {S : β → δ → Prop} {r : Except ε α} {q : Except ε γ}

theorem both_ok {a : α} {b : γ} (h : R a b) : Both R (.ok a : Except ε α) (.ok b : Except ε γ) :=
  ⟨a, b, rfl, rfl, h⟩

theorem Both.bind {f : α → Except ε β} {g : γ → Except ε δ} (h : Both R r q)
    (hfg : ∀ a b, R a b → Both S (f a) (g b)) : Both S (r >>= f) (q >>= g) := by
  obtain ⟨a, b, rfl, rfl, hab⟩ := h
  exact hfg a b hab

theorem Both.map {f : α → β} {g : γ → δ} (h : Both R r q) (hfg : ∀ a b, R a b → S (f a) (g b)) :
    Both S (r.map f) (q.map g) := by
  obtain ⟨a, b, rfl, rfl, hab⟩ := h
  exact both_ok (hfg a b hab)

end

/-! ## Computations of the play -/

namespace Play

variable {σ : Type} {R : σ → σ → Prop}

/-- A computation of two steps stops in the first, or goes on to the second. -/
theorem result_bind_eq {p : Play σ α} {f : α → Play σ β} {s t : σ} {r : Except Fault β}
    (h : (p >>= f).result s = (r, t)) :
    (∃ e, r = .error e ∧ p.result s = (.error e, t)) ∨
      ∃ a u, p.result s = (.ok a, u) ∧ (f a).result u = (r, t) := by
  rw [result_bind] at h
  cases hp : p.result s with
  | mk q u =>
      rw [hp] at h
      cases q with
      | error e =>
          cases h
          exact Or.inl ⟨e, rfl, rfl⟩
      | ok a => exact Or.inr ⟨a, u, rfl, h⟩

theorem result_bind_of_ok {p : Play σ α} {f : α → Play σ β} {s u : σ} {a : α}
    (h : p.result s = (.ok a, u)) : (p >>= f).result s = (f a).result u := by
  rw [result_bind, h]

theorem result_bind_of_error {p : Play σ α} {f : α → Play σ β} {s u : σ} {e : Fault}
    (h : p.result s = (.error e, u)) : (p >>= f).result s = (.error e, u) := by
  rw [result_bind, h]

theorem result_ofExcept_eq {r q : Except Fault α} {s t : σ} :
    (ofExcept r : Play σ α).result s = (q, t) ↔ r = q ∧ s = t := by
  rw [result_ofExcept, Prod.mk.injEq]

theorem result_pure_eq {a : α} {q : Except Fault α} {s t : σ} :
    (pure a : Play σ α).result s = (q, t) ↔ .ok a = q ∧ s = t := by
  rw [result_pure, Prod.mk.injEq]

/-- **Whether a computation moves the state only as far as a relation allows,** also when it stops
with a fault. -/
def Within (R : σ → σ → Prop) (p : Play σ α) : Prop :=
  ∀ s, R s (p.result s).2

theorem within_ofExcept (hrefl : ∀ s, R s s) (r : Except Fault α) :
    Within R (ofExcept r : Play σ α) := hrefl

theorem within_bind (htrans : ∀ {s t u}, R s t → R t u → R s u) {p : Play σ α}
    {f : α → Play σ β} (hp : Within R p) (hf : ∀ a, Within R (f a)) : Within R (p >>= f) := by
  intro s
  have hs := hp s
  rw [result_bind]
  cases hr : p.result s with
  | mk q u =>
      rw [hr] at hs
      cases q with
      | error e => exact hs
      | ok a => exact htrans hs (hf a u)

/-- **What a computation does under an invariant:** it keeps the invariant, also when it stops with a
fault, and it gives values of a certain kind. -/
structure Meets (I : σ → Prop) (p : Play σ α) (Q : α → Prop) : Prop where
  keeps : ∀ s, I s → I (p.result s).2
  gives : ∀ s a, I s → (p.result s).1 = .ok a → Q a

section

variable {I : σ → Prop} {Q : α → Prop} {T : β → Prop}

/-- A computation is known by its results. -/
theorem meets_of_result {p : Play σ α}
    (h : ∀ s, I s → ∃ r t, p.result s = (r, t) ∧ I t ∧ ∀ a, r = .ok a → Q a) : Meets I p Q := by
  refine ⟨fun s hs => ?_, fun s a hs ha => ?_⟩
  all_goals obtain ⟨r, t, hresult, ht, hgives⟩ := h s hs
  · rw [hresult]
    exact ht
  · rw [hresult] at ha
    exact hgives a ha

theorem meets_pure {a : α} (h : Q a) : Meets I (pure a : Play σ α) Q :=
  meets_of_result fun _ hs => ⟨.ok a, _, rfl, hs, fun _ ha => Except.ok.inj ha ▸ h⟩

theorem meets_ofExcept {r : Except Fault α} (hgives : ∀ a, r = .ok a → Q a) :
    Meets I (ofExcept r : Play σ α) Q :=
  meets_of_result fun _ hs => ⟨r, _, rfl, hs, hgives⟩

theorem Meets.bind {p : Play σ α} {f : α → Play σ β} (hp : Meets I p Q)
    (hf : ∀ a, Q a → Meets I (f a) T) : Meets I (p >>= f) T := by
  refine meets_of_result fun s hs => ?_
  cases hresult : p.result s with
  | mk r t =>
      have ht : I t := by
        have hkept := hp.keeps s hs
        rwa [hresult] at hkept
      cases r with
      | error e => exact ⟨_, _, result_bind_of_error hresult, ht, nofun⟩
      | ok a =>
          have ha := hf a (hp.gives s a hs (by rw [hresult]))
          exact ⟨_, _, result_bind_of_ok hresult, ha.keeps t ht, fun b => ha.gives t b ht⟩

end

/-! ## Two computations -/

section

variable {τ : Type} {S : σ → τ → Prop}

/-- **Whether two computations agree:** on states that a relation ties together they give the same
result, and they leave such states. -/
def Agree (S : σ → τ → Prop) (p : Play σ α) (q : Play τ α) : Prop :=
  ∀ s t, S s t → (p.result s).1 = (q.result t).1 ∧ S (p.result s).2 (q.result t).2

theorem agree_ofExcept (r : Except Fault α) :
    Agree S (ofExcept r : Play σ α) (ofExcept r : Play τ α) :=
  fun _ _ h => ⟨rfl, h⟩

theorem agree_pure (a : α) : Agree S (pure a : Play σ α) (pure a : Play τ α) :=
  fun _ _ h => ⟨rfl, h⟩

theorem agree_bind {p : Play σ α} {q : Play τ α} {f : α → Play σ β} {g : α → Play τ β}
    (hpq : Agree S p q) (hfg : ∀ a, Agree S (f a) (g a)) : Agree S (p >>= f) (q >>= g) := by
  intro s t h
  obtain ⟨hresult, hstate⟩ := hpq s t h
  rw [result_bind, result_bind]
  cases hp : p.result s with
  | mk r u =>
      cases hq : q.result t with
      | mk r' v =>
          rw [hp, hq] at hresult hstate
          obtain rfl : r = r' := hresult
          cases r with
          | error e => exact ⟨rfl, hstate⟩
          | ok a => exact hfg a u v hstate

/-- What two computations do may depend on the states they start in. -/
theorem agree_get_bind {f : σ → Play σ α} {g : τ → Play τ α}
    (h : ∀ s t, S s t → Agree S (f s) (g t)) : Agree S (get >>= f) (get >>= g) :=
  fun s t hst => h s t hst s t hst

end

end Play

end Questbook
