import Questbook.Proofs.Advice
import Questbook.Proofs.Game.Availability
import Questbook.Proofs.Game.Replay

set_option autoImplicit false

/-! # Choices with nothing in their way

Taking a choice comes to a result if what governs it can be read and is decided, if its outcomes name their
targets, and if all that it brings about can be applied (`Session.Unhindered.exists_applyChoice`).

What a choice comes to is worked out in stages: what is found out about it, what the roll decides, and what
going on with an outcome comes to. The first two change nothing that the later ones ask about, so that a
session is as it was before them (`Session.AsBefore`).
-/

namespace Questbook

/-- **Whether effect tokens can all be applied,** one after the other. -/
def Context.Performs (c : Context) (tokens : List Json) : Prop :=
  ∃ es d, tokens.mapM Effect.ofJson = .ok es ∧ applyAll c es = (d, none)

namespace Session

variable {s t u : Session} {choice : Choice} {rules : RuleSet} {outcome : Option RandomOutcome}
  {book : Book} {catalog : Catalog} {n : Int}

/-! ## Sessions that are as before -/

/-- **Whether a session is as another one was:** in the same state, at a table that answers alike. -/
structure AsBefore (s u : Session) : Prop where
  state : u.state = s.state
  answers : s.game.SameAnswers u.game

theorem AsBefore.refl (s : Session) : s.AsBefore s := ⟨rfl, .refl s.game⟩

theorem AsBefore.twin (h : s.AsBefore u) : Twin s.game s.source u.source s u :=
  ⟨h.state, .refl s.game, h.answers, rfl, rfl⟩

theorem AsBefore.context (h : s.AsBefore u) : u.context = s.context :=
  congrArg (fun state => Context.mk state .empty) h.state

theorem AsBefore.hasBook (h : s.AsBefore u) (hbook : s.HasBook book) : u.HasBook book := by
  unfold HasBook at hbook ⊢
  rw [h.state, h.answers.book, hbook]

/-- Asking for the book of the session finds it, and changes nothing that effects are applied to. -/
theorem HasBook.exists_asked (h : s.HasBook book) :
    ∃ t, (withGame Game.bookOf).result s = (.ok book, t) ∧ t.context = s.context :=
  ⟨_, Prod.ext h rfl, congrArg (fun state => Context.mk state .empty) (keeps_bookOf s).state⟩

/-! ## What is found out about a choice -/

/-- **What is found out about a choice** when what governs it is known and decided. -/
theorem exists_considered {b : Bool} (hcatalog : s.HasCatalog catalog)
    (hrules : catalog.rulesFor choice = .ok rules)
    (hall : allHold s.context rules.requirements = .ok b) :
    ∃ t, (consider choice).result s = (.ok (rules, b), t) ∧ s.AsBefore t := by
  obtain ⟨key, hkey, hfound⟩ := hcatalog
  have hgoverned : ∃ t, (withGame fun _ => Game.withEngine fun files =>
      Engine.rulesFor files choice s.context).result s = (.ok rules, t) ∧ t.state = s.state := by
    refine ⟨_, Prod.ext ?_ rfl, rfl⟩
    show ((Engine.rulesFor s.game.files choice s.context).result s.game.engine).1 = .ok rules
    rw [Engine.result_rulesFor hkey, hfound]
    exact hrules
  obtain ⟨t, ht, hstate⟩ := hgoverned
  have hconsidered : (consider choice).result s = (.ok (rules, b), t) := by
    unfold consider
    refine (Play.result_bind_of_ok ht).trans ?_
    show (Play.ofExcept (allHold s.context rules.requirements >>= _) >>= _).result t = _
    rw [hall]
    rfl
  have htwin := (agree_consider choice s s (AsBefore.refl s).twin).2
  rw [hconsidered] at htwin
  exact ⟨t, hconsidered, hstate, htwin.right⟩

/-! ## What the roll decides -/

theorem mem_of_selection_none {os : List RandomOutcome} {o : RandomOutcome}
    (h : selection os none = some o) : o ∈ os := by
  rcases os with _ | ⟨o', _ | ⟨o'', os⟩⟩
  · cases h
  · cases h
    exact List.mem_singleton_self o
  · cases h

/-- The verdict of a roll on the table. -/
theorem result_settle {given : Json} {os : List RandomOutcome} (hneeds : choice.needsRoll = true)
    (hroll : IsRoll given) (hmatching : choice.matching given = .ok os) (picked : Option RandomOutcome)
    (s : Session) :
    (settle choice given picked).result s = (.ok (Verdict.ofMatches given picked os), s) := by
  rw [settle_eq hneeds, Play.result_bind_of_ok (result_rollFor_of_isRoll hroll s)]
  unfold judge
  rw [hmatching]
  rfl

/-- **What a roll on the table decides,** which is nothing about outcomes that are not declared. -/
theorem exists_settled (choice : Choice) (hroll : IsRoll (.int n)) (s : Session) :
    ∃ verdict, (settle choice (.int n) none).result s = (.ok verdict, s) ∧
      ∀ roll o, verdict = .settled roll (some o) → o ∈ choice.outcomes := by
  by_cases hneeds : choice.needsRoll = true
  · refine ⟨Verdict.ofMatches (.int n) none (choice.outcomesAt n), ?_, fun roll o hverdict => ?_⟩
    · exact result_settle hneeds hroll (choice.matching_int n) none s
    · rcases Verdict.ofMatches_spec (.int n) none (choice.outcomesAt n) with
        ⟨-, hcontested⟩ | ⟨-, hsettled⟩
      · rw [hcontested] at hverdict
        cases hverdict
      · rw [hsettled] at hverdict
        have hselected := (Verdict.settled.inj hverdict).2
        exact List.mem_of_mem_filter (mem_of_selection_none hselected)
  · refine ⟨.settled (.int n) none, ?_, fun roll o hverdict => ?_⟩
    · unfold settle
      rw [if_neg hneeds]
      rfl
    · cases hverdict

/-! ## Going on with an outcome -/

theorem exists_targetOf (choice : Choice) (h : ∀ o, outcome = some o → o.NamesTarget) :
    ∃ target, targetOf choice outcome = .ok target := by
  cases outcome with
  | none => exact ⟨_, rfl⟩
  | some o =>
      show ∃ target, (o.hasTarget >>= fun b => _) = .ok target
      rw [RandomOutcome.hasTarget_eq (h o rfl)]
      cases o.redirect?.isSome <;> exact ⟨_, rfl⟩

theorem effectsOf_of_mapM {more : List Effect}
    (h : (outcomeTokens outcome).mapM Effect.ofJson = .ok more) :
    effectsOf rules outcome = .ok (rules.effects ++ more) := by
  cases outcome with
  | none =>
      obtain rfl : [] = more := Except.ok.inj h
      rw [List.append_nil]
      rfl
  | some o => exact bind_eq_ok_iff.mpr ⟨more, h, rfl⟩

section Following

variable {target : Json} {reached : Section} {effects : List Effect} {c : Context} {f : Fault} {roll : Json}

theorem result_follow_of_missing (htarget : targetOf choice outcome = .ok target)
    (heffects : effectsOf rules outcome = .ok effects)
    (hbook : (withGame Game.bookOf).result s = (.ok book, t)) (hmissing : book.sectionAt? target = none) :
    (follow choice rules roll outcome).result s = (.ok (.strayed roll outcome target), t) := by
  unfold follow
  rw [htarget, heffects]
  refine (Play.result_bind_of_ok hbook).trans ?_
  rw [hmissing]
  rfl

theorem result_follow_of_reached (htarget : targetOf choice outcome = .ok target)
    (heffects : effectsOf rules outcome = .ok effects)
    (hbook : (withGame Game.bookOf).result s = (.ok book, t))
    (hreached : book.sectionAt? target = some reached) :
    (follow choice rules roll outcome).result s =
      (do moveTo reached effects; pure (.applied roll outcome reached effects) :
        Play Session ChoiceResult).result t := by
  unfold follow
  rw [htarget, heffects]
  refine (Play.result_bind_of_ok hbook).trans ?_
  rw [hreached]

theorem result_moveTo_of_applied (h : applyAll s.context effects = (c, none)) (reached : Section) :
    (moveTo reached effects).result s =
      (.ok (), { s with state := { c.state with sectionId := .str reached.id } }) := by
  have happlied : applyAll { state := s.state } effects = (c, none) := h
  rw [moveTo, Play.result_ofFunction, happlied]

theorem result_moveTo_of_failed (h : applyAll s.context effects = (c, some f)) (reached : Section) :
    (moveTo reached effects).result s = (.error f, { s with state := c.state }) := by
  have hfailed : applyAll { state := s.state } effects = (c, some f) := h
  rw [moveTo, Play.result_ofFunction, hfailed]

/-- **Going on with an outcome** ends with the outcome, at a section or astray, if its effects are
applied. -/
theorem follow_of_applied (hbook : s.HasBook book) (htarget : targetOf choice outcome = .ok target)
    (heffects : effectsOf rules outcome = .ok effects)
    (happlied : applyAll s.context effects = (c, none)) (roll : Json) :
    ∃ r, ((follow choice rules roll outcome).result s).1 = .ok r ∧
      (r.status = "applied" ∨ r.status = "target_not_found") ∧ r.outcome = outcome := by
  obtain ⟨t, hasked, hcontext⟩ := hbook.exists_asked
  cases hsection : book.sectionAt? target with
  | none =>
      rw [result_follow_of_missing htarget heffects hasked hsection]
      exact ⟨_, rfl, Or.inr rfl, rfl⟩
  | some reached =>
      rw [← hcontext] at happlied
      rw [result_follow_of_reached htarget heffects hasked hsection,
        Play.result_bind_of_ok (result_moveTo_of_applied happlied reached)]
      exact ⟨_, rfl, Or.inl rfl, rfl⟩

/-- An effect that fails breaks the choice off, unless the play would have gone astray. -/
theorem follow_of_failed (hbook : s.HasBook book) (htarget : targetOf choice outcome = .ok target)
    (heffects : effectsOf rules outcome = .ok effects)
    (hfailed : applyAll s.context effects = (c, some f)) (roll : Json) :
    (∃ r, ((follow choice rules roll outcome).result s).1 = .ok r ∧ r.status = "target_not_found" ∧
        r.outcome = outcome) ∨
      ((follow choice rules roll outcome).result s).1 = .error f ∧
        ((follow choice rules roll outcome).result s).2.state = c.state := by
  obtain ⟨t, hasked, hcontext⟩ := hbook.exists_asked
  cases hsection : book.sectionAt? target with
  | none =>
      rw [result_follow_of_missing htarget heffects hasked hsection]
      exact Or.inl ⟨_, rfl, rfl, rfl⟩
  | some reached =>
      rw [← hcontext] at hfailed
      rw [result_follow_of_reached htarget heffects hasked hsection,
        Play.result_bind_of_error (result_moveTo_of_failed hfailed reached)]
      exact Or.inr ⟨rfl, rfl⟩

end Following

/-! ## Nothing in the way -/

/-- **Whether nothing stands in the way of a choice:** what governs it can be read and is decided, its outcomes
name their targets, and the effects of the choice and of any outcome behind them can all be applied. -/
structure Unhindered (s : Session) (catalog : Catalog) (choice : Choice) : Prop where
  reads : catalog.Reads choice
  decides : ∀ j ∈ catalog.requirementTokens choice, s.context.Decides j
  targets : ∀ o ∈ choice.outcomes, o.NamesTarget
  performs : ∀ outcome, (∀ o, outcome = some o → o ∈ choice.outcomes) →
    s.context.Performs (catalog.effectTokens choice ++ outcomeTokens outcome)

namespace Unhindered

/-- A choice without tokens has nothing in its way. -/
theorem of_no_tokens (hrequirements : choice.requirements = []) (heffects : choice.effects = [])
    (hids : choice.ruleIds = [])
    (houtcomes : ∀ o ∈ choice.outcomes, o.NamesTarget ∧ o.effects = []) :
    s.Unhindered catalog choice := by
  have hnamed : catalog.rulesNamed choice = [] := by
    unfold Catalog.rulesNamed
    rw [hids]
    rfl
  have hrequired : catalog.requirementTokens choice = [] := by
    unfold Catalog.requirementTokens
    rw [hrequirements, hnamed]
    rfl
  have hcaused : catalog.effectTokens choice = [] := by
    unfold Catalog.effectTokens
    rw [heffects, hnamed]
    rfl
  refine ⟨⟨?_, ?_, ?_⟩, ?_, fun o ho => (houtcomes o ho).1, fun outcome hdeclared => ?_⟩
  · rw [hids]
    exact List.forall_mem_nil _
  · rw [hrequired]
    exact List.forall_mem_nil _
  · rw [hcaused]
    exact List.forall_mem_nil _
  · rw [hrequired]
    exact List.forall_mem_nil _
  · have hnone : outcomeTokens outcome = [] := by
      cases outcome with
      | none => rfl
      | some o => exact (houtcomes o (hdeclared o rfl)).2
    rw [hcaused, hnone]
    exact ⟨[], s.context, rfl, rfl⟩

theorem exists_effectsOf (h : s.Unhindered catalog choice)
    (hrules : catalog.rulesFor choice = .ok rules)
    (hdeclared : ∀ o, outcome = some o → o ∈ choice.outcomes) :
    ∃ effects c, effectsOf rules outcome = .ok effects ∧ applyAll s.context effects = (c, none) := by
  obtain ⟨es, d, hread, happlied⟩ := h.performs outcome hdeclared
  rw [List.mapM_append, (Catalog.mapM_of_rulesFor hrules).2] at hread
  obtain ⟨own, hown, hrest⟩ := bind_eq_ok_iff.mp hread
  obtain ⟨more, hmore, hes⟩ := bind_eq_ok_iff.mp hrest
  cases hown
  cases hes
  exact ⟨_, d, effectsOf_of_mapM hmore, happlied⟩

/-- **A choice with nothing in its way comes to a result.** -/
theorem exists_applyChoice (h : s.Unhindered catalog choice) (hcatalog : s.HasCatalog catalog)
    (hbook : s.HasBook book) (hroll : IsRoll (.int n)) :
    ∃ r t, (applyChoice choice (.int n) none).result s = (.ok r, t) := by
  obtain ⟨rules, hrules⟩ := Catalog.exists_rulesFor_of_reads h.reads
  obtain ⟨b, hall⟩ := Catalog.exists_allHold hrules h.decides
  obtain ⟨t, hconsidered, ht⟩ := exists_considered hcatalog hrules hall
  rw [applyChoice_eq, Play.result_bind_of_ok hconsidered]
  cases b with
  | false => exact ⟨_, _, rfl⟩
  | true =>
      obtain ⟨verdict, hsettled, hdeclared⟩ := exists_settled choice hroll t
      unfold proceed
      rw [Play.result_bind_of_ok hsettled]
      cases verdict with
      | contested roll os => exact ⟨_, _, rfl⟩
      | settled roll outcome =>
          have houtcome : ∀ o, outcome = some o → o ∈ choice.outcomes := by
            rintro o rfl
            exact hdeclared roll o rfl
          obtain ⟨target, htarget⟩ :=
            exists_targetOf choice fun o ho => h.targets o (houtcome o ho)
          obtain ⟨effects, c, heffects, happlied⟩ := h.exists_effectsOf hrules houtcome
          rw [← ht.context] at happlied
          obtain ⟨r, hr, -⟩ := follow_of_applied (ht.hasBook hbook) htarget heffects happlied roll
          exact ⟨r, _, Prod.ext hr rfl⟩

end Unhindered

end Session

end Questbook
