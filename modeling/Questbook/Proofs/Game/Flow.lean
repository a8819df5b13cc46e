import Questbook.Proofs.Game.Taking

set_option autoImplicit false

/-! # The flow of a choice

What taking a choice comes to, said without the order in which it is worked out: the requirements
and effects are the tokens of the choice and of the rules that it names, the outcomes are those whose
range holds the roll, and each of the four answers has its exact condition. `Session.Flow` is this
description, and every run of `Session.applyChoice` that gives an answer fits it
(`applyChoice_flow`).
-/

namespace Questbook

/-! ## Requirements and effects as lists -/

theorem exists_of_allHold_eq_false {c : Context} {rs : List Requirement}
    (h : allHold c rs = .ok false) : ∃ r ∈ rs, r.holds c = .ok false := by
  induction rs with
  | nil => cases h
  | cons r rs ih =>
      obtain ⟨b, hr, hrest⟩ := bind_eq_ok_iff.mp h
      cases b with
      | false => exact ⟨r, by simp, hr⟩
      | true =>
          obtain ⟨q, hq, hfails⟩ := ih hrest
          exact ⟨q, by simp [hq], hfails⟩

theorem holds_of_allHold {c : Context} {rs : List Requirement} (h : allHold c rs = .ok true) :
    ∀ r ∈ rs, r.holds c = .ok true := by
  induction rs with
  | nil => simp
  | cons r rs ih =>
      obtain ⟨b, hr, hrest⟩ := bind_eq_ok_iff.mp h
      cases b with
      | false => cases hrest
      | true =>
          intro q hq
          rcases List.mem_cons.mp hq with rfl | hq
          · exact hr
          · exact ih hrest q hq

/-- Effects that are all applied are applied one after the other. -/
theorem foldlM_of_applyAll {c d : Context} {es : List Effect} (h : applyAll c es = (d, none)) :
    es.foldlM (fun c e => e.change.apply c) c = .ok d := by
  induction es generalizing c with
  | nil =>
      cases h
      rfl
  | cons e es ih =>
      rw [List.foldlM_cons]
      unfold applyAll at h
      split at h
      · next c' he =>
        rw [he]
        exact ih h
      · cases h

/-! ## What governs a choice -/

namespace Catalog

/-- The rule that an id of a document resolves to. -/
def ruleAt? (c : Catalog) : Json → Option Rule
  | .str id => c.find? id
  | _ => none

/-- The rules that the ids of a choice resolve to, in the order of the ids. -/
def rulesNamed (c : Catalog) (choice : Choice) : List Rule :=
  choice.ruleIds.filterMap c.ruleAt?

/-- **The requirement tokens that govern a choice.** -/
def requirementTokens (c : Catalog) (choice : Choice) : List Json :=
  choice.requirements ++ (c.rulesNamed choice).flatMap Rule.requirements

/-- **The effect tokens that govern a choice.** -/
def effectTokens (c : Catalog) (choice : Choice) : List Json :=
  choice.effects ++ (c.rulesNamed choice).flatMap Rule.effects

theorem eq_ruleAt?_of_findJson? {c : Catalog} {j : Json} {r : Option Rule}
    (h : c.findJson? j = .ok r) : r = c.ruleAt? j := by
  cases j <;> cases h <;> rfl

theorem eq_filterMap_of_resolve {c : Catalog} {ids : List Json} {rs : List Rule}
    (h : c.resolve ids = .ok rs) : rs = ids.filterMap c.ruleAt? := by
  induction ids generalizing rs with
  | nil =>
      cases h
      rfl
  | cons id ids ih =>
      obtain ⟨r, hr, hrest⟩ := bind_eq_ok_iff.mp h
      have hat := eq_ruleAt?_of_findJson? hr
      rw [List.filterMap_cons, ← hat]
      cases r with
      | none => exact ih hrest
      | some r =>
          obtain ⟨rest, hresolve, hcons⟩ := bind_eq_ok_iff.mp hrest
          cases hcons
          rw [ih hresolve]

/-- What governs a choice is read from its tokens and those of its rules. -/
theorem mapM_of_rulesFor {c : Catalog} {choice : Choice} {rules : RuleSet}
    (h : c.rulesFor choice = .ok rules) :
    (c.requirementTokens choice).mapM Requirement.ofJson = .ok rules.requirements ∧
      (c.effectTokens choice).mapM Effect.ofJson = .ok rules.effects := by
  obtain ⟨⟨requirements, effects⟩, htokens, hrules⟩ := bind_eq_ok_iff.mp h
  obtain ⟨rs, hrs, hpair⟩ := bind_eq_ok_iff.mp htokens
  have hnamed : rs = c.rulesNamed choice := eq_filterMap_of_resolve hrs
  cases hpair
  obtain ⟨qs, hqs, hrest⟩ := bind_eq_ok_iff.mp hrules
  obtain ⟨es, hes, hset⟩ := bind_eq_ok_iff.mp hrest
  cases hset
  rw [hnamed] at hqs hes
  exact ⟨hqs, hes⟩

end Catalog

/-! ## What the roll decides -/

/-- The outcomes of a choice whose range holds a roll. -/
def Choice.outcomesAt (choice : Choice) (roll : Int) : List RandomOutcome :=
  choice.outcomes.filter fun o => o.holds roll

/-- Whether several outcomes apply, and the one that is picked is none of them. -/
def Contested (os : List RandomOutcome) (picked : Option RandomOutcome) : Prop :=
  2 ≤ os.length ∧ ∀ p, picked = some p → ∀ o ∈ os, o.same p = false

/-- **The outcome that applies:** a single one, or the one that is picked of several. -/
def selection : List RandomOutcome → Option RandomOutcome → Option RandomOutcome
  | [], _ => none
  | [o], _ => some o
  | _, picked => picked

/-- The target of a choice, unless an outcome has one that is not blank. -/
def destination (choice : Choice) : Option RandomOutcome → Json
  | none => choice.target
  | some o =>
    match o.target with
    | .str target => if Text.isBlank target then choice.target else .str target
    | _ => choice.target

/-- The effect tokens of an outcome. -/
def outcomeTokens (outcome : Option RandomOutcome) : List Json :=
  (outcome.map RandomOutcome.effects).getD []

/-- A verdict leaves the choice open exactly when the outcomes are contested. -/
theorem Verdict.ofMatches_spec (roll : Json) (picked : Option RandomOutcome)
    (os : List RandomOutcome) :
    (Contested os picked ∧ Verdict.ofMatches roll picked os = .contested roll os) ∨
      (¬ Contested os picked ∧
        Verdict.ofMatches roll picked os = .settled roll (selection os picked)) := by
  rcases os with _ | ⟨o, _ | ⟨o', os⟩⟩
  · exact Or.inr ⟨fun h => absurd h.1 (by simp), rfl⟩
  · exact Or.inr ⟨fun h => absurd h.1 (by simp), rfl⟩
  · cases picked with
    | none => exact Or.inl ⟨⟨by simp, by simp⟩, rfl⟩
    | some p =>
        simp only [Verdict.ofMatches]
        by_cases hany : ((o :: o' :: os).any fun o => o.same p) = true
        · rw [if_pos hany]
          refine Or.inr ⟨?_, rfl⟩
          rintro ⟨-, hnone⟩
          obtain ⟨q, hq, hsame⟩ := List.any_eq_true.mp hany
          rw [hnone p rfl q hq] at hsame
          cases hsame
        · rw [if_neg hany]
          refine Or.inl ⟨⟨by simp, ?_⟩, rfl⟩
          intro p' hp' q hq
          cases hp'
          rw [← Bool.not_eq_true]
          exact fun hsame => hany (List.any_eq_true.mpr ⟨q, hq, hsame⟩)

theorem Session.Rolls.unique {s : Session} {given roll roll' : Json} (h : s.Rolls given roll)
    (h' : s.Rolls given roll') : roll = roll' := by
  cases given
  case null => exact Except.ok.inj (h.symm.trans h')
  all_goals exact h.trans h'.symm

/-- **What the roll decides:** the choice is open if its outcomes are contested, and settled by the
one that applies if not. -/
theorem Session.Settles.cases {s : Session} {choice : Choice} {given : Json} {n : Int}
    {picked : Option RandomOutcome} {v : Verdict} (h : s.Settles choice given picked v)
    (hroll : s.Rolls given (.int n)) :
    (Contested (choice.outcomesAt n) picked ∧ ∃ roll, v = .contested roll (choice.outcomesAt n)) ∨
      (¬ Contested (choice.outcomesAt n) picked ∧
        ∃ roll, v = .settled roll (selection (choice.outcomesAt n) picked)) := by
  rcases h with ⟨hnil, rfl⟩ | ⟨roll, os, -, hroll', hos, rfl⟩
  · have hat : choice.outcomesAt n = [] := by simp [Choice.outcomesAt, hnil]
    rw [hat]
    exact Or.inr ⟨fun h => absurd h.1 (by simp), given, rfl⟩
  · obtain rfl := hroll'.unique hroll
    rw [choice.matching_int n] at hos
    cases hos
    rcases Verdict.ofMatches_spec (.int n) picked (choice.outcomesAt n) with ⟨hc, hv⟩ | ⟨hc, hv⟩
    · exact Or.inl ⟨hc, .int n, hv⟩
    · exact Or.inr ⟨hc, .int n, hv⟩

theorem eq_destination_of_targetOf {choice : Choice} {outcome : Option RandomOutcome}
    {target : Json} (h : targetOf choice outcome = .ok target) :
    target = destination choice outcome := by
  cases outcome with
  | none =>
      cases h
      rfl
  | some o =>
      obtain ⟨b, hb, hrest⟩ := bind_eq_ok_iff.mp h
      unfold RandomOutcome.hasTarget hasText at hb
      cases ht : o.target with
      | str t =>
          rw [ht] at hb hrest
          by_cases hgiven : (Json.str t).isGiven = true
          · rw [if_pos hgiven] at hb
            cases hb
            cases hblank : Text.isBlank t
            all_goals
              rw [hblank] at hrest
              cases hrest
              simp [destination, ht, hblank]
          · rw [if_neg hgiven] at hb
            cases hb
            cases hrest
            have hempty : t = "" := by simpa using hgiven
            simp [destination, ht, hempty, Text.isBlank]
      | _ =>
          rw [ht] at hb hrest
          split at hb
          · cases hb
          · cases hb
            cases hrest
            simp [destination, ht]

theorem append_of_effectsOf {rules : RuleSet} {outcome : Option RandomOutcome}
    {effects : List Effect} (h : effectsOf rules outcome = .ok effects) :
    ∃ more, (outcomeTokens outcome).mapM Effect.ofJson = .ok more ∧
      effects = rules.effects ++ more := by
  cases outcome with
  | none =>
      cases h
      exact ⟨[], rfl, by simp⟩
  | some o =>
      obtain ⟨more, hmore, hrest⟩ := bind_eq_ok_iff.mp h
      cases hrest
      exact ⟨more, hmore, rfl⟩

/-! ## Sections -/

/-- Whether a book has a section whose id is the given value. -/
def Book.HasSection (b : Book) (id : Json) : Prop :=
  ∃ s ∈ b.sections, id = .str s.id

theorem Book.mem_of_sectionAt? {b : Book} {id : Json} {s : Section}
    (h : b.sectionAt? id = some s) : s ∈ b.sections ∧ id = .str s.id := by
  cases id
  case str name =>
    have hid : s.id = name := by simpa using List.find?_some h
    exact ⟨List.mem_of_find?_eq_some h, congrArg Json.str hid.symm⟩
  all_goals cases h

theorem Book.not_hasSection_of_sectionAt? {b : Book} {id : Json} (h : b.sectionAt? id = none) :
    ¬ b.HasSection id := by
  rintro ⟨s, hs, rfl⟩
  have hnone := List.find?_eq_none.mp (show b.findSection? s.id = none from h) s hs
  simp at hnone

/-! ## The flow -/

namespace Session

/-- Whether a requirement does not hold in the state of a session. -/
def Fails (s : Session) (requirements : List Requirement) : Prop :=
  ∃ q ∈ requirements, q.holds s.context = .ok false

/-- **What taking a choice comes to** when it gives an answer. -/
structure Flow (s : Session) (choice : Choice) (roll : Int) (picked : Option RandomOutcome)
    (requirements : List Requirement) (effects : List Effect) (r : ChoiceResult) (t : Session) :
    Prop where
  refused_iff : r.status = "requirements_not_met" ↔ s.Fails requirements
  undecided_iff : r.status = "ambiguous_outcome" ↔
    ¬ s.Fails requirements ∧ Contested (choice.outcomesAt roll) picked
  strayed_iff : r.status = "target_not_found" ↔
    ¬ s.Fails requirements ∧ ¬ Contested (choice.outcomesAt roll) picked ∧
      ∃ book, s.HasBook book ∧
        ¬ book.HasSection (destination choice (selection (choice.outcomesAt roll) picked))
  applied_iff : r.status = "applied" ↔
    ¬ s.Fails requirements ∧ ¬ Contested (choice.outcomesAt roll) picked ∧
      ∃ book, s.HasBook book ∧
        book.HasSection (destination choice (selection (choice.outcomesAt roll) picked))
  /-- The outcomes to pick from are all that apply. -/
  candidates : r.status = "ambiguous_outcome" → r.candidates = choice.outcomesAt roll
  /-- Only an application changes the state. -/
  unchanged : r.status ≠ "applied" → t.state = s.state
  /-- An application makes the effects of the choice, then those of the outcome, and moves to the
  section. -/
  applied : r.status = "applied" →
    ∃ more reached c,
      (outcomeTokens (selection (choice.outcomesAt roll) picked)).mapM Effect.ofJson = .ok more ∧
      (effects ++ more).foldlM (fun c e => e.change.apply c) s.context = .ok c ∧
      destination choice (selection (choice.outcomesAt roll) picked) = .str reached.id ∧
      t.state = { c.state with sectionId := .str reached.id } ∧
      r.outcome = selection (choice.outcomesAt roll) picked ∧ r.effects = effects ++ more ∧
      r.reached = some reached

variable {s t : Session} {choice : Choice} {given : Json} {picked : Option RandomOutcome}
  {rules : RuleSet}

theorem not_fails_of_allHold (h : allHold s.context rules.requirements = .ok true) :
    ¬ s.Fails rules.requirements := by
  rintro ⟨q, hq, hfails⟩
  rw [holds_of_allHold h q hq] at hfails
  cases hfails

theorem HasBook.unique {book book' : Book} (h : s.HasBook book) (h' : s.HasBook book') :
    book = book' :=
  Except.ok.inj (h.symm.trans h')

/-- What is known once a choice has led somewhere. -/
theorem Leads.spec {roll : Json} {outcome : Option RandomOutcome} {target : Json}
    {effects : List Effect} {book : Book} {n : Int}
    (h : s.Leads choice given picked rules roll outcome target effects book)
    (hroll : s.Rolls given (.int n)) :
    ¬ Contested (choice.outcomesAt n) picked ∧
      outcome = selection (choice.outcomesAt n) picked ∧
      target = destination choice (selection (choice.outcomesAt n) picked) := by
  rcases h.settles.cases hroll with ⟨-, roll', hv⟩ | ⟨hc, roll', hv⟩
  · cases hv
  · obtain ⟨-, rfl⟩ := Verdict.settled.inj hv
    exact ⟨hc, rfl, eq_destination_of_targetOf h.target⟩

/-- Every way of taking a choice that gives an answer fits the flow. -/
theorem Takes.flow {r : ChoiceResult} {n : Int} (h : s.Takes choice given picked (.ok r) t)
    (hroll : s.Rolls given (.int n)) :
    ∃ rules, s.Governs choice rules ∧
      s.Flow choice n picked rules.requirements rules.effects r t := by
  cases h with
  | refuses governs fails keeps =>
      refine ⟨_, governs, ?_⟩
      have hf : s.Fails _ := exists_of_allHold_eq_false fails
      constructor <;> simp [ChoiceResult.status, hf, keeps.state]
  | waits governs permits settles keeps =>
      refine ⟨_, governs, ?_⟩
      have hf := not_fails_of_allHold permits
      rcases settles.cases hroll with ⟨hc, _, hv⟩ | ⟨-, _, hv⟩
      · obtain ⟨-, rfl⟩ := Verdict.contested.inj hv
        constructor <;> simp [ChoiceResult.status, ChoiceResult.candidates, hf, hc, keeps.state]
      · cases hv
  | strays leads absent keeps =>
      refine ⟨_, leads.governs, ?_⟩
      have hf := not_fails_of_allHold leads.permits
      obtain ⟨hc, rfl, rfl⟩ := leads.spec hroll
      have hno := Book.not_hasSection_of_sectionAt? absent
      have hbook : ∀ book', s.HasBook book' → book' = _ := fun _ h => h.unique leads.book
      constructor
      · simp [ChoiceResult.status, hf]
      · simp [ChoiceResult.status, hc]
      · simpa [ChoiceResult.status, hf, hc] using ⟨_, leads.book, hno⟩
      · simp only [ChoiceResult.status]
        constructor
        · intro h
          simp at h
        · rintro ⟨-, -, book', hb, hhas⟩
          rw [hbook book' hb] at hhas
          exact absurd hhas hno
      · simp [ChoiceResult.status]
      · simp [keeps.state]
      · simp [ChoiceResult.status]
  | @arrives _ _ _ _ _ _ reached c _ leads present applies state keeps =>
      refine ⟨_, leads.governs, ?_⟩
      have hf := not_fails_of_allHold leads.permits
      obtain ⟨hc, rfl, rfl⟩ := leads.spec hroll
      obtain ⟨hmem, hid⟩ := Book.mem_of_sectionAt? present
      have hbook : ∀ book', s.HasBook book' → book' = _ := fun _ h => h.unique leads.book
      constructor
      · simp [ChoiceResult.status, hf]
      · simp [ChoiceResult.status, hc]
      · simp only [ChoiceResult.status]
        constructor
        · intro h
          simp at h
        · rintro ⟨-, -, book', hb, hno⟩
          rw [hbook book' hb] at hno
          exact absurd ⟨reached, hmem, hid⟩ hno
      · simpa [ChoiceResult.status, hf, hc] using ⟨_, leads.book, reached, hmem, hid⟩
      · simp [ChoiceResult.status]
      · simp [ChoiceResult.status]
      · intro _
        obtain ⟨more, hmore, rfl⟩ := append_of_effectsOf leads.effects
        exact ⟨more, reached, c, hmore, foldlM_of_applyAll applies, hid, state, rfl, rfl, rfl⟩

end Session

/-- **Taking a choice follows its flow.** The requirements and effects are read from the tokens of
the choice and of the rules that its ids resolve to. -/
theorem applyChoice_flow {s t : Session} {choice : Choice} {given : Json} {n : Int}
    {picked : Option RandomOutcome} {r : ChoiceResult} (hroll : s.Rolls given (.int n))
    (h : (Session.applyChoice choice given picked).result s = (.ok r, t)) :
    ∃ catalog requirements effects, s.HasCatalog catalog ∧
      (catalog.requirementTokens choice).mapM Requirement.ofJson = .ok requirements ∧
      (catalog.effectTokens choice).mapM Effect.ofJson = .ok effects ∧
      s.Flow choice n picked requirements effects r t := by
  obtain ⟨rules, ⟨catalog, hcatalog, hrules⟩, hflow⟩ :=
    (Session.takes_of_applyChoice h).flow hroll
  obtain ⟨hrequirements, heffects⟩ := Catalog.mapM_of_rulesFor hrules
  exact ⟨catalog, rules.requirements, rules.effects, hcatalog, hrequirements, heffects, hflow⟩

/-! ## A choice with a rule and a roll -/

/-- A choice that a low roll redirects, under a rule of the series. -/
def passage : Choice where
  target := .str "1"
  effects := [.str "endurance:damage:2"]
  outcomes := [{ max := 4, target := .str "2", effects := [.str "item:Rope"] }]
  ruleIds := [.str " Toll"]

/-- The session in which the choice is taken. -/
def beforePassage : Session where
  game := {
    files := {}
    shelf := {
      directory := {}
      known := [("b", { sections := [{ id := "1" }, { id := "2" }] })] }
    slots := { directory := {} }
    engine := {
      source := .cycling [.int 3]
      catalogs := { values := [("lw", { rules := [
        { id := "toll", requirements := [.str "counter:gold>=1"],
          effects := [.str "counter:gold:-1"] }] })] } }
    newId := "c" }
  state := {
    bookId := .str "b"
    series := .str "lw"
    sectionId := .str "1"
    character := {
      id := .str "c", endurance := 1
      inventory := { counters := .ofEntries [("Gold", .int 1)] } } }

/-- The toll is paid, and the roll of three leads to the second section. -/
theorem applyChoice_flow_redirected :
    beforePassage.Rolls .null (.int 3) ∧
      ∃ r t, (Session.applyChoice passage .null none).result beforePassage = (.ok r, t) ∧
        r.status = "applied" ∧ t.state.sectionId = .str "2" ∧
        ∃ catalog requirements effects, beforePassage.HasCatalog catalog ∧
          (catalog.requirementTokens passage).mapM Requirement.ofJson = .ok requirements ∧
          (catalog.effectTokens passage).mapM Effect.ofJson = .ok effects ∧
          beforePassage.Flow passage 3 none requirements effects r t := by
  have hroll : beforePassage.Rolls .null (.int 3) := rfl
  exact ⟨hroll, _, _, rfl, rfl, rfl, applyChoice_flow hroll rfl⟩

end Questbook
