import Questbook.Proofs.Game.Unhindered
import Questbook.Proofs.Token.Stumbling

set_option autoImplicit false

/-! # Picking an outcome

A roll that several outcomes hold leaves a choice open until the player picks one of them, and the choice is
then taken a second time, with the same roll. The second call works everything out again. It finds what the
first one has found, since the first one has changed neither the state nor the answers of the table
(`Session.AsBefore`); so it comes to the pick with the same outcomes, and it is the pick alone that decides
(`Session.Opens.applyChoice_eq`).

An outcome that is offered settles the choice, and any other pick leaves it open, however often it is made
(`picking_settles`). Only the effects can still fail, where a name that is no text stands in the way of one of
them (`picking_stumbles`).
-/

namespace Questbook

/-! ## Outcomes -/

/-- **Whether an outcome can be read:** its target is a text, and its effects are tokens. -/
structure RandomOutcome.IsReadable (o : RandomOutcome) : Prop where
  target : ∃ id, o.target = .str id
  effects : ∀ j ∈ o.effects, j.IsToken Change.HasLongNumeral

/-- Whether a number lies in the range of an outcome. -/
def RandomOutcome.spans (o : RandomOutcome) (x : Number) : Bool :=
  (Number.whole o.min).le x && x.le (.whole o.max)

theorem Json.sameItems_self {js : List Json} (h : ∀ j ∈ js, ∃ text, j = .str text) :
    Json.sameItems js js = true := by
  induction js with
  | nil => rfl
  | cons j js ih =>
      obtain ⟨⟨text, rfl⟩, hrest⟩ := List.forall_mem_cons.mp h
      simp [Json.sameItems, Json.same, ih hrest]

namespace RandomOutcome.IsReadable

variable {o : RandomOutcome}

/-- An outcome is the same as itself. -/
theorem same_self (h : o.IsReadable) : o.same o = true := by
  obtain ⟨id, hid⟩ := h.target
  have htexts : ∀ j ∈ o.effects, ∃ text, j = .str text := by
    intro j hj
    obtain ⟨text, htext, -⟩ := h.effects j hj
    exact ⟨text, htext⟩
  simp [RandomOutcome.same, hid, Json.same, Json.sameItems_self htexts]

theorem exists_targetOf (h : o.IsReadable) (choice : Choice) :
    ∃ target, targetOf choice (some o) = .ok target := by
  refine Session.exists_targetOf choice fun p hp => ?_
  cases hp
  exact Or.inr h.target

theorem exists_effectsOf (h : o.IsReadable) (rules : RuleSet) :
    ∃ effects, effectsOf rules (some o) = .ok effects := by
  have hread : ∀ j ∈ o.effects, ∃ e, Effect.ofJson j = .ok e :=
    fun j hj => Effect.exists_ofJson (h.effects j hj)
  obtain ⟨more, hmore⟩ := exists_mapM hread
  exact ⟨rules.effects ++ more, Session.effectsOf_of_mapM hmore⟩

end RandomOutcome.IsReadable

/-- The outcomes of a roll that is a number. -/
theorem Choice.matching_of_number (choice : Choice) {given : Json} {x : Number}
    (h : given.number? = some x) :
    choice.matching given = .ok (choice.outcomes.filter fun o => o.spans x) := by
  have hcontains : (fun o : RandomOutcome => o.contains given) =
      fun o => (.ok (o.spans x) : Except Fault Bool) := by
    funext o
    unfold RandomOutcome.contains isBetween
    rw [h]
    rfl
  unfold Choice.matching
  rw [hcontains]
  exact filterChecked_ok _ _

theorem exists_number_of_isRoll {given : Json} (h : IsRoll given) : ∃ x, given.number? = some x := by
  unfold IsRoll isBetween at h
  cases hx : given.number? with
  | none =>
      rw [hx] at h
      cases h
  | some x => exact ⟨x, rfl⟩

namespace Session

variable {s t u : Session} {choice : Choice} {given : Json} {picked : Option RandomOutcome}
  {rules : RuleSet} {os : List RandomOutcome} {o : RandomOutcome} {r : ChoiceResult}

/-! ## Second calls -/

/-- A choice with a roll that is given comes to the same in a pair of sessions. -/
theorem agree_twin_applyChoice {g : Game} {a b : RollSource} (choice : Choice)
    (picked : Option RandomOutcome) (h : given ≠ .null) :
    Play.Agree (Twin g a b) (applyChoice choice given picked) (applyChoice choice given picked) := by
  refine agree_applyChoice_of (fun s t htwin => ?_) (fun s t htwin rules => ?_)
    (agree_rollFor_of_given h) agree_twin_bookOf agree_twin_moveTo picked
  · rw [htwin.state]
    exact agree_twin_rulesFor choice { state := s.state }
  · rw [htwin.state]

/-- **A second call comes to the same** if everything is as before. -/
theorem AsBefore.applyChoice (h : s.AsBefore u) (choice : Choice) (picked : Option RandomOutcome)
    (hgiven : given ≠ .null) :
    ((Session.applyChoice choice given picked).result u).1 =
        ((Session.applyChoice choice given picked).result s).1 ∧
      ((Session.applyChoice choice given picked).result u).2.state =
        ((Session.applyChoice choice given picked).result s).2.state ∧
      s.game.SameAnswers ((Session.applyChoice choice given picked).result u).2.game := by
  obtain ⟨hresult, htwin⟩ := agree_twin_applyChoice choice picked hgiven s u h.twin
  exact ⟨hresult.symm, htwin.state, htwin.right⟩

/-! ## A choice that is left open -/

/-- **What is found out about a choice** that a roll leaves open. -/
structure Opens (s : Session) (choice : Choice) (given : Json) (rules : RuleSet)
    (os : List RandomOutcome) (t : Session) : Prop where
  governs : s.Governs choice rules
  considered : (consider choice).result s = (.ok (rules, true), t)
  needsRoll : choice.needsRoll = true
  isRoll : IsRoll given
  matching : choice.matching given = .ok os
  several : 2 ≤ os.length

theorem isRoll_of_rollFor {v : Json} (hgiven : given ≠ .null)
    (h : (rollFor given).result s = (.ok v, t)) : IsRoll given := by
  rw [rollFor_of_given hgiven] at h
  rcases Play.result_bind_eq h with ⟨f, hf, -⟩ | ⟨fits, u, hfits, hrest⟩
  · cases hf
  · cases fits with
    | false => cases hrest
    | true => exact (Play.result_ofExcept_eq.mp hfits).1

/-- A roll that has been given and that settles something is on the table. -/
theorem isRoll_of_settle {verdict : Verdict} (hneeds : choice.needsRoll = true) (hgiven : given ≠ .null)
    (h : (settle choice given picked).result s = (.ok verdict, t)) : IsRoll given := by
  rw [settle_eq hneeds] at h
  rcases Play.result_bind_eq h with ⟨f, hf, -⟩ | ⟨v, u, hv, -⟩
  · cases hf
  · exact isRoll_of_rollFor hgiven hv

/-- **The pick decides.** -/
theorem Opens.applyChoice_eq (h : s.Opens choice given rules os t) (picked : Option RandomOutcome) :
    (applyChoice choice given picked).result s =
      (conclude choice rules (Verdict.ofMatches given picked os)).result t := by
  rw [Session.applyChoice_eq, Play.result_bind_of_ok h.considered]
  exact Play.result_bind_of_ok (result_settle h.needsRoll h.isRoll h.matching picked t)

theorem Opens.ofMatches_none (h : s.Opens choice given rules os t) :
    Verdict.ofMatches given none os = .contested given os := by
  rcases Verdict.ofMatches_spec given none os with ⟨-, hverdict⟩ | ⟨hc, -⟩
  · exact hverdict
  · exact absurd ⟨h.several, nofun⟩ hc

/-- A choice that has been considered has been considered by the rules that govern it. -/
theorem governs_of_consider {available : Bool}
    (h : (consider choice).result s = (.ok (rules, available), t)) : s.Governs choice rules := by
  unfold consider at h
  rcases Play.result_bind_eq h with ⟨f, hf, -⟩ | ⟨s', u, hget, h⟩
  · cases hf
  cases hget
  rcases Play.result_bind_eq h with ⟨f, hf, -⟩ | ⟨found, u, hfound, h⟩
  · cases hf
  obtain ⟨-, -, -, hgoverns⟩ := rulesFor_spec hfound
  rcases Play.result_bind_eq h with ⟨f, hf, -⟩ | ⟨e, v, -, h⟩
  · cases hf
  · cases h
    exact hgoverns rules rfl

/-- A choice that is left open has been found to be open. -/
theorem opens_of_undecided (hgiven : given ≠ .null)
    (h : (applyChoice choice given none).result s = (.ok r, t)) (hopen : r.status = "ambiguous_outcome") :
    ∃ rules os, s.Opens choice given rules os t ∧ r = .undecided given os ∧ t.state = s.state := by
  have hproceed := h
  rw [Session.applyChoice_eq] at hproceed
  rcases Play.result_bind_eq hproceed with ⟨f, hf, -⟩ | ⟨⟨rules, available⟩, s', hconsider, hrest⟩
  · cases hf
  -- the answer says which outcomes there are, the stages that the roll has been accepted
  cases takes_of_applyChoice h with
  | refuses governs fails keeps => exact absurd hopen (by simp [ChoiceResult.status])
  | strays leads absent keeps => exact absurd hopen (by simp [ChoiceResult.status])
  | arrives leads present applies state keeps => exact absurd hopen (by simp [ChoiceResult.status])
  | waits governs permits settles keeps =>
  rcases settles with ⟨-, hverdict⟩ | ⟨roll, os, hsome, hrolls, hmatching, hverdict⟩
  · cases hverdict
  obtain rfl : roll = given := by
    cases given with
    | null => exact absurd rfl hgiven
    | _ => exact hrolls
  have hneeds : choice.needsRoll = true := by simpa [Choice.needsRoll] using hsome
  have hseveral : 2 ≤ os.length := by
    rcases Verdict.ofMatches_spec roll none os with ⟨hc, -⟩ | ⟨-, hsettled⟩
    · exact hc.1
    · rw [← hverdict] at hsettled
      cases hsettled
  cases available with
  | false => cases hrest
  | true =>
  have hroll : IsRoll roll := by
    rcases Play.result_bind_eq hrest with ⟨f, hf, -⟩ | ⟨verdict, after, hsettle, -⟩
    · cases hf
    · exact isRoll_of_settle hneeds hgiven hsettle
  have hopens : s.Opens choice roll rules os s' :=
    ⟨governs_of_consider hconsider, hconsider, hneeds, hroll, hmatching, hseveral⟩
  have hsame := hopens.applyChoice_eq none
  rw [h, hopens.ofMatches_none] at hsame
  obtain ⟨hresult, rfl⟩ := Prod.mk.inj hsame
  exact ⟨rules, os, hopens, Except.ok.inj hresult, keeps.state⟩

/-! ## Picks -/

/-- Whether a pick is none of the outcomes that are offered. -/
def Misses (os : List RandomOutcome) (p : RandomOutcome) : Prop :=
  ∀ o ∈ os, o.same p = false

/-- **Whether a choice has been settled** by an outcome. -/
def SettledBy (o : RandomOutcome) (result : Except Fault ChoiceResult) : Prop :=
  ∃ r, result = .ok r ∧ (r.status = "applied" ∨ r.status = "target_not_found") ∧ r.outcome = some o

/-- **Whether a choice has been broken off** because an effect has stumbled, after those before it had been
applied. The effects are those of the choice, of the rules that govern it, and of the outcome. -/
def BrokenOff (s : Session) (choice : Choice) (o : RandomOutcome) (result : Except Fault ChoiceResult)
    (state : GameState) : Prop :=
  result = .error .notText ∧ ∃ rules effects d, s.Governs choice rules ∧
    effectsOf rules (some o) = .ok effects ∧ StumblesAt s.context effects d ∧ state = d.state

theorem Opens.miss (h : s.Opens choice given rules os t) {p : RandomOutcome} (hp : Misses os p) :
    (Session.applyChoice choice given (some p)).result s = (.ok (.undecided given os), t) := by
  have hcontested : Contested os (some p) := by
    refine ⟨h.several, ?_⟩
    rintro p' ⟨rfl⟩ o ho
    exact hp o ho
  rw [h.applyChoice_eq]
  rcases Verdict.ofMatches_spec given (some p) os with ⟨-, hverdict⟩ | ⟨hc, -⟩
  · rw [hverdict]
    rfl
  · exact absurd hcontested hc

theorem Opens.hit (h : s.Opens choice given rules os t) (ho : o ∈ os) (hreadable : o.IsReadable) :
    (Session.applyChoice choice given (some o)).result s =
      (follow choice rules given (some o)).result t := by
  rw [h.applyChoice_eq]
  rcases Verdict.ofMatches_spec given (some o) os with ⟨hc, -⟩ | ⟨-, hverdict⟩
  · have hsame := hc.2 o rfl o ho
    rw [hreadable.same_self] at hsame
    cases hsame
  · have hselection : selection os (some o) = some o := by
      have hseveral := h.several
      rcases os with _ | ⟨o', _ | ⟨o'', rest⟩⟩
      · simp at hseveral
      · simp at hseveral
      · rfl
    rw [hverdict, hselection]
    rfl

/-- The session after some picks, whatever is told of them. -/
def afterPicks (choice : Choice) (given : Json) : List RandomOutcome → Session → Session
  | [], s => s
  | p :: ps, s => afterPicks choice given ps ((applyChoice choice given (some p)).result s).2

/-- **Picks that are none of the outcomes leave everything as it was,** however many there are. -/
theorem Opens.asBefore_afterPicks (h : s.Opens choice given rules os t) (ht : s.AsBefore t)
    {misses : List RandomOutcome} (hmisses : ∀ p ∈ misses, Misses os p) (hu : s.AsBefore u) :
    s.AsBefore (afterPicks choice given misses u) := by
  -- each pick is a second call, and what it leaves is again as the first call has found it
  induction misses generalizing u with
  | nil => exact hu
  | cons p ps ih =>
      obtain ⟨hp, hps⟩ := List.forall_mem_cons.mp hmisses
      obtain ⟨-, hstate, hanswers⟩ := hu.applyChoice choice (some p) h.isRoll.ne_null
      apply ih hps
      refine ⟨?_, hanswers⟩
      rw [hstate, h.miss hp]
      exact ht.state

/-- **An outcome that is offered settles the choice,** unless an effect stumbles. -/
theorem Opens.pick {book : Book} (h : s.Opens choice given rules os t) (ht : s.AsBefore t)
    (hu : s.AsBefore u) (hbook : s.HasBook book) (ho : o ∈ os) (hreadable : o.IsReadable) :
    (s.context.HasWholeMaps →
      SettledBy o ((Session.applyChoice choice given (some o)).result u).1 ∨
        BrokenOff s choice o ((Session.applyChoice choice given (some o)).result u).1
          ((Session.applyChoice choice given (some o)).result u).2.state) ∧
    (s.state.character.WellTyped →
      SettledBy o ((Session.applyChoice choice given (some o)).result u).1) := by
  obtain ⟨hresult, hstate, -⟩ := hu.applyChoice choice (some o) h.isRoll.ne_null
  obtain ⟨target, htarget⟩ := hreadable.exists_targetOf choice
  obtain ⟨effects, heffects⟩ := hreadable.exists_effectsOf rules
  have hbook' : t.HasBook book := ht.hasBook hbook
  rw [hresult, hstate, h.hit ho hreadable, ← ht.context]
  constructor
  · intro hwhole
    rcases applyAll_of_whole hwhole effects with ⟨c, hc⟩ | ⟨c, hc, hstumbles⟩
    · exact Or.inl (follow_of_applied hbook' htarget heffects hc given)
    · rcases follow_of_failed hbook' htarget heffects hc given with
        ⟨r, hr, hstatus, houtcome⟩ | ⟨hfault, hleft⟩
      · exact Or.inl ⟨r, hr, Or.inr hstatus, houtcome⟩
      · exact Or.inr ⟨hfault, rules, effects, c, h.governs, heffects, ht.context ▸ hstumbles, hleft⟩
  · intro htyped
    rw [← ht.state] at htyped
    have htyped' : t.context.character.WellTyped := htyped
    obtain ⟨c, hc, -⟩ := applyAll_wellTyped htyped' effects
    exact follow_of_applied hbook' htarget heffects hc given

end Session

open Session in
/-- **Picking an offered outcome settles a choice that a roll has left open.** The outcomes that are offered
are all that are declared for the roll, in their order, and at least two. After any picks that are none of
them, a further such pick is told the same again and the state is as it was, and a pick of one of them settles
the choice by this outcome. On a character whose names are not all texts an effect may stumble instead. -/
theorem picking_settles {s t : Session} {choice : Choice} {given : Json} {r : ChoiceResult} {book : Book}
    (hgiven : given ≠ .null) (hwhole : s.context.HasWholeMaps) (hbook : s.HasBook book)
    (hreadable : ∀ o ∈ choice.outcomes, o.IsReadable)
    (hfirst : (applyChoice choice given none).result s = (.ok r, t))
    (hopen : r.status = "ambiguous_outcome") :
    r.roll = given ∧ 2 ≤ r.candidates.length ∧
      (∃ x, given.number? = some x ∧ r.candidates = choice.outcomes.filter fun o => o.spans x) ∧
      ∀ misses u, (∀ p ∈ misses, Misses r.candidates p) → u = afterPicks choice given misses t →
        u.state = s.state ∧
        (∀ p, Misses r.candidates p →
          ((applyChoice choice given (some p)).result u).1 = .ok (.undecided given r.candidates) ∧
          ((applyChoice choice given (some p)).result u).2.state = s.state) ∧
        ∀ o ∈ r.candidates,
          (SettledBy o ((applyChoice choice given (some o)).result u).1 ∨
            BrokenOff s choice o ((applyChoice choice given (some o)).result u).1
              ((applyChoice choice given (some o)).result u).2.state) ∧
          (s.state.character.WellTyped →
            SettledBy o ((applyChoice choice given (some o)).result u).1) := by
  obtain ⟨rules, os, hopens, rfl, hstate⟩ := opens_of_undecided hgiven hfirst hopen
  obtain ⟨x, hx⟩ := exists_number_of_isRoll hopens.isRoll
  have hos : os = choice.outcomes.filter fun o => o.spans x :=
    Except.ok.inj (hopens.matching.symm.trans (choice.matching_of_number hx))
  have ht : s.AsBefore t := by
    obtain ⟨-, -, hanswers⟩ := (AsBefore.refl s).applyChoice choice none hgiven
    rw [hfirst] at hanswers
    exact ⟨hstate, hanswers⟩
  refine ⟨rfl, hopens.several, ⟨x, hx, hos⟩, ?_⟩
  rintro misses u hmisses rfl
  have hu := hopens.asBefore_afterPicks ht hmisses ht
  refine ⟨hu.state, fun p hp => ?_, fun o ho => ?_⟩
  · obtain ⟨hresult, hafter, -⟩ := hu.applyChoice choice (some p) hgiven
    rw [hresult, hafter, hopens.miss hp]
    exact ⟨rfl, ht.state⟩
  · have hdeclared : o ∈ choice.outcomes := by
      have hfiltered : o ∈ os := ho
      rw [hos] at hfiltered
      exact List.mem_of_mem_filter hfiltered
    obtain ⟨hends, hsettles⟩ := hopens.pick ht hu hbook ho (hreadable o hdeclared)
    exact ⟨hends hwhole, hsettles⟩

/-- The outcome of a roll up to five: something is taken away. -/
def theft : RandomOutcome where
  max := 5
  effects := [.str "item:remove:Rope"]

/-- A choice with two outcomes for a roll of three. -/
def ambush : Choice where
  target := .str "2"
  outcomes := [theft, { min := 3, target := .str "1" }]

theorem ambush_isReadable : ∀ o ∈ ambush.outcomes, o.IsReadable := by
  intro o ho
  have hcases : o = theft ∨ o = { min := 3, target := .str "1" } := by simpa [ambush] using ho
  rcases hcases with rfl | rfl
  · exact ⟨⟨_, rfl⟩, List.forall_mem_singleton.mpr (by decide)⟩
  · exact ⟨⟨_, rfl⟩, nofun⟩

theorem beforePassage_wellTyped : beforePassage.state.character.WellTyped where
  disciplines := nofun
  items := nofun
  attributes := NameMap.whole_empty
  coreSkills := NameMap.whole_empty
  counters := NameMap.whole_empty.set "Gold" 1

open Session in
/-- The theft is picked after an outcome for higher rolls has been tried. -/
theorem picking_settles_theft :
    ∃ book t, beforePassage.context.HasWholeMaps ∧ beforePassage.HasBook book ∧
      (applyChoice ambush (.int 3) none).result beforePassage =
        (.ok (.undecided (.int 3) ambush.outcomes), t) ∧
      Misses ambush.outcomes { min := 7 } ∧
      SettledBy theft ((applyChoice ambush (.int 3) (some theft)).result
        (afterPicks ambush (.int 3) [{ min := 7 }] t)).1 := by
  have htyped := beforePassage_wellTyped
  have hwhole : beforePassage.context.HasWholeMaps :=
    ⟨⟨htyped.attributes, htyped.coreSkills⟩, htyped.counters⟩
  have hmisses : Misses ambush.outcomes { min := 7 } := by
    unfold Misses
    decide
  have hgiven : Json.int 3 ≠ .null := nofun
  have hfirst : ∃ t, (applyChoice ambush (.int 3) none).result beforePassage =
      (.ok (.undecided (.int 3) ambush.outcomes), t) := ⟨_, rfl⟩
  obtain ⟨t, hfirst⟩ := hfirst
  obtain ⟨-, -, -, hpicks⟩ := picking_settles hgiven hwhole rfl ambush_isReadable hfirst rfl
  obtain ⟨-, -, hsettles⟩ := hpicks [{ min := 7 }] _ (List.forall_mem_singleton.mpr hmisses) rfl
  exact ⟨_, t, hwhole, rfl, hfirst, hmisses, (hsettles theft List.mem_cons_self).2 htyped⟩

/-- The session in which something without a name that is a text is carried. -/
def cluttered : Session :=
  { beforePassage with state := { beforePassage.state with
    character := { beforePassage.state.character with
      inventory := { beforePassage.state.character.inventory with items := [{ name := .int 5 }] } } } }

open Session in
/-- **A name that is no text keeps an offered outcome from settling the choice:** the theft is offered, and
its effect stumbles. -/
theorem picking_stumbles :
    cluttered.context.HasWholeMaps ∧ (∃ book, cluttered.HasBook book) ∧
      (∀ o ∈ ambush.outcomes, o.IsReadable) ∧
      ∃ t, (applyChoice ambush (.int 3) none).result cluttered =
          (.ok (.undecided (.int 3) ambush.outcomes), t) ∧
        theft ∈ ambush.outcomes ∧
        ((applyChoice ambush (.int 3) (some theft)).result t).1 = .error .notText := by
  have htyped := beforePassage_wellTyped
  have hwhole : cluttered.context.HasWholeMaps :=
    ⟨⟨htyped.attributes, htyped.coreSkills⟩, htyped.counters⟩
  exact ⟨hwhole, ⟨_, rfl⟩, ambush_isReadable, _, rfl, List.mem_cons_self, rfl⟩

end Questbook
