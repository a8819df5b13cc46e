import Questbook.Proofs.Catalog
import Questbook.Proofs.Game.Answers
import Questbook.Proofs.Token.Conditions

set_option autoImplicit false

/-! # When a choice may be taken

A choice may be taken when all that it requires holds, and all that the rules require that it names
(`Choice.Open`). This is asked token by token and id by id, so that nothing else counts: two lists put
together ask for what both ask for, the order of a list and repetitions in it do not matter, a longer list
asks for no less, and a token that states nothing known closes the choice for good
(`availability_is_conjunction`).

The engine works it out by finding the rules, reading all tokens and asking the requirements up to the first
that does not hold. It comes to an answer if the tokens can be read and the requirements are decided
(`Engine.exists_evaluation`).
-/

namespace Questbook

/-! ## Tokens -/

/-- **Whether a requirement token is met:** it can be read, and what it states holds. -/
def Context.Meets (c : Context) (j : Json) : Prop :=
  ∃ q, Requirement.ofJson j = .ok q ∧ q.holds c = .ok true

/-- Whether a requirement token can be read, and what it states is decided. -/
def Context.Decides (c : Context) (j : Json) : Prop :=
  ∃ q b, Requirement.ofJson j = .ok q ∧ q.holds c = .ok b

/-- Whether a token states nothing known. -/
def Json.StatesNothing (j : Json) : Prop :=
  ∃ q, Requirement.ofJson j = .ok q ∧ q.condition = .unsupported

variable {c : Context}

theorem Json.StatesNothing.not_meets {j : Json} (h : j.StatesNothing) : ¬ c.Meets j := by
  obtain ⟨q, hread, hcondition⟩ := h
  rintro ⟨q', hread', hholds⟩
  cases hread.symm.trans hread'
  unfold Requirement.holds at hholds
  rw [hcondition, holds_unsupported] at hholds
  cases hholds

theorem allHold_eq_true_iff {rs : List Requirement} :
    allHold c rs = .ok true ↔ ∀ q ∈ rs, q.holds c = .ok true := by
  refine ⟨holds_of_allHold, fun h => ?_⟩
  induction rs with
  | nil => rfl
  | cons r rs ih =>
      obtain ⟨hr, hrest⟩ := List.forall_mem_cons.mp h
      unfold allHold
      rw [hr]
      exact ih hrest

/-- Requirements that have been read all hold if their tokens are met. -/
theorem allHold_eq_true_iff_of_mapM {tokens : List Json} {rs : List Requirement}
    (h : tokens.mapM Requirement.ofJson = .ok rs) :
    allHold c rs = .ok true ↔ ∀ j ∈ tokens, c.Meets j := by
  rw [allHold_eq_true_iff]
  constructor
  · intro hholds j hj
    obtain ⟨q, hq, hread⟩ := exists_of_mem_of_mapM h j hj
    exact ⟨q, hread, hholds q hq⟩
  · intro hmeets q hq
    obtain ⟨j, hj, hread⟩ := mem_of_mapM h q hq
    obtain ⟨q', hread', hholds⟩ := hmeets j hj
    cases hread.symm.trans hread'
    exact hholds

/-! ## What is asked of a choice -/

/-- **Whether a choice is open:** all requirements are met, its own and those of the rules that its ids
resolve to. -/
structure Choice.Open (catalog : Catalog) (c : Context) (choice : Choice) : Prop where
  own : ∀ j ∈ choice.requirements, c.Meets j
  rules : ∀ id ∈ choice.ruleIds, ∀ r, catalog.ruleAt? id = some r → ∀ j ∈ r.requirements, c.Meets j

namespace Choice

variable {catalog : Catalog} {choice a b : Choice}

theorem open_iff : choice.Open catalog c ↔ ∀ j ∈ catalog.requirementTokens choice, c.Meets j := by
  unfold Catalog.requirementTokens Catalog.rulesNamed
  constructor
  · intro h j hj
    rcases List.mem_append.mp hj with hj | hj
    · exact h.own j hj
    · obtain ⟨r, hr, hj⟩ := List.mem_flatMap.mp hj
      obtain ⟨id, hid, hrule⟩ := List.mem_filterMap.mp hr
      exact h.rules id hid r hrule j hj
  · intro h
    refine ⟨fun j hj => h j (List.mem_append_left _ hj), fun id hid r hrule j hj => ?_⟩
    have hnamed : r ∈ choice.ruleIds.filterMap catalog.ruleAt? :=
      List.mem_filterMap.mpr ⟨id, hid, hrule⟩
    exact h j (List.mem_append_right _ (List.mem_flatMap.mpr ⟨r, hnamed, hj⟩))

/-- What asks for more is open only if what asks for less is. -/
theorem Open.mono (h : b.Open catalog c) (hrequirements : a.requirements ⊆ b.requirements)
    (hids : a.ruleIds ⊆ b.ruleIds) : a.Open catalog c :=
  ⟨fun j hj => h.own j (hrequirements hj), fun id hid => h.rules id (hids hid)⟩

/-- **Lists put together** ask for what both ask for. -/
theorem open_append_iff (hrequirements : choice.requirements = a.requirements ++ b.requirements)
    (hids : choice.ruleIds = a.ruleIds ++ b.ruleIds) :
    choice.Open catalog c ↔ a.Open catalog c ∧ b.Open catalog c := by
  constructor
  · intro h
    constructor
    · apply h.mono
      · rw [hrequirements]
        exact List.subset_append_left _ _
      · rw [hids]
        exact List.subset_append_left _ _
    · apply h.mono
      · rw [hrequirements]
        exact List.subset_append_right _ _
      · rw [hids]
        exact List.subset_append_right _ _
  · rintro ⟨ha, hb⟩
    constructor
    · intro j hj
      rw [hrequirements] at hj
      rcases List.mem_append.mp hj with hj | hj
      · exact ha.own j hj
      · exact hb.own j hj
    · intro id hid
      rw [hids] at hid
      rcases List.mem_append.mp hid with hid | hid
      · exact ha.rules id hid
      · exact hb.rules id hid

end Choice

/-! ## What governs a choice -/

/-- **Whether what governs a choice can be read:** its ids are ids, and all tokens that count for it state
something or nothing. -/
structure Catalog.Reads (catalog : Catalog) (choice : Choice) : Prop where
  ids : ∀ id ∈ choice.ruleIds, ∃ r, catalog.findJson? id = .ok r
  requirements : ∀ j ∈ catalog.requirementTokens choice, ∃ q, Requirement.ofJson j = .ok q
  effects : ∀ j ∈ catalog.effectTokens choice, ∃ e, Effect.ofJson j = .ok e

theorem Catalog.exists_rulesFor_of_reads {catalog : Catalog} {choice : Choice}
    (h : catalog.Reads choice) : ∃ rules, catalog.rulesFor choice = .ok rules := by
  obtain ⟨named, hnamed, -⟩ := catalog.exists_resolve h.ids
  obtain ⟨requirements, hrequirements⟩ := exists_mapM h.requirements
  obtain ⟨effects, heffects⟩ := exists_mapM h.effects
  have htokens : catalog.tokensFor choice =
      .ok (catalog.requirementTokens choice, catalog.effectTokens choice) := by
    unfold tokensFor
    rw [hnamed, eq_filterMap_of_resolve hnamed]
    rfl
  refine ⟨{ requirements, effects }, ?_⟩
  unfold rulesFor
  rw [htokens]
  simp only [bind, Except.bind, hrequirements, heffects]
  rfl

/-- Requirements are decided as a whole if each token is. -/
theorem Catalog.exists_allHold {catalog : Catalog} {choice : Choice} {rules : RuleSet}
    (hrules : catalog.rulesFor choice = .ok rules)
    (hdecides : ∀ j ∈ catalog.requirementTokens choice, c.Decides j) :
    ∃ b, allHold c rules.requirements = .ok b := by
  refine exists_allHold_of_decided fun q hq => ?_
  obtain ⟨j, hj, hread⟩ := mem_of_mapM (Catalog.mapM_of_rulesFor hrules).1 q hq
  obtain ⟨q', b, hread', hb⟩ := hdecides j hj
  cases hread.symm.trans hread'
  exact ⟨b, hb⟩

/-! ## What the engine says -/

namespace Engine

/-- The catalog of the series of a context. -/
def HasCatalog (e : Engine) (files : FileTree) (c : Context) (catalog : Catalog) : Prop :=
  ∃ key, Series.keyOfJson c.state.series = .ok key ∧
    ((catalogOf files key).result e).1 = .ok catalog

/-- What an engine says of a choice. -/
def Says (e : Engine) (files : FileTree) (c : Context) (choice : Choice) (v : Evaluation) : Prop :=
  ((evaluate files choice c).result e).1 = .ok v

variable {e : Engine} {files : FileTree} {catalog : Catalog} {choice : Choice} {v : Evaluation}

theorem says_iff (h : e.HasCatalog files c catalog) :
    e.Says files c choice v ↔
      ∃ rules, catalog.rulesFor choice = .ok rules ∧ evaluateWith choice rules c = .ok v := by
  obtain ⟨key, hkey, hcatalog⟩ := h
  unfold Says
  rw [result_evaluate, result_rulesFor hkey, hcatalog]
  exact bind_eq_ok_iff

/-- **What an engine says is whether the choice is open.** -/
theorem Says.isAvailable_iff (hv : e.Says files c choice v) (h : e.HasCatalog files c catalog) :
    v.isAvailable = true ↔ choice.Open catalog c := by
  obtain ⟨rules, hrules, hwith⟩ := (says_iff h).mp hv
  obtain ⟨b, hb, hsaid⟩ := bind_eq_ok_iff.mp hwith
  cases hsaid
  rw [Choice.open_iff, ← allHold_eq_true_iff_of_mapM (Catalog.mapM_of_rulesFor hrules).1, hb]
  simp

theorem Says.isAvailable_eq_false_iff (hv : e.Says files c choice v)
    (h : e.HasCatalog files c catalog) : v.isAvailable = false ↔ ¬ choice.Open catalog c := by
  rw [← hv.isAvailable_iff h, Bool.not_eq_true]

/-- **An engine comes to an answer** if nothing stands in the way of reading and deciding. -/
theorem exists_evaluation (h : e.HasCatalog files c catalog) (hreads : catalog.Reads choice)
    (hdecides : ∀ j ∈ catalog.requirementTokens choice, c.Decides j) :
    ∃ v, e.Says files c choice v := by
  obtain ⟨rules, hrules⟩ := Catalog.exists_rulesFor_of_reads hreads
  obtain ⟨b, hb⟩ := Catalog.exists_allHold hrules hdecides
  refine ⟨{ isAvailable := b, outcomes := choice.outcomes }, (says_iff h).mpr ⟨rules, hrules, ?_⟩⟩
  unfold evaluateWith
  rw [hb]
  rfl

end Engine

/-- **Availability is a conjunction over tokens and rules.** An engine comes to an answer if nothing stands
in its way, and its answers are these: a choice may be taken exactly if all its requirements are met and all
of the rules that its ids resolve to. So a choice that puts two choices together may be taken exactly if both
may; it does not matter in which order or how often a token or an id is listed; what is listed in addition
opens no choice; and a token that states nothing known closes it, listed by the choice or by such a rule. -/
theorem availability_is_conjunction {e : Engine} {files : FileTree} {catalog : Catalog}
    (h : e.HasCatalog files c catalog) :
    (∀ choice, catalog.Reads choice → (∀ j ∈ catalog.requirementTokens choice, c.Decides j) →
      ∃ v, e.Says files c choice v) ∧
    (∀ choice v, e.Says files c choice v →
      (v.isAvailable = true ↔ (∀ j ∈ choice.requirements, c.Meets j) ∧
        ∀ id ∈ choice.ruleIds, ∀ r, catalog.ruleAt? id = some r → ∀ j ∈ r.requirements, c.Meets j)) ∧
    (∀ a b both va vb v, e.Says files c a va → e.Says files c b vb → e.Says files c both v →
      both.requirements = a.requirements ++ b.requirements → both.ruleIds = a.ruleIds ++ b.ruleIds →
      v.isAvailable = (va.isAvailable && vb.isAvailable)) ∧
    (∀ a b va vb, e.Says files c a va → e.Says files c b vb →
      (∀ j, j ∈ a.requirements ↔ j ∈ b.requirements) → (∀ id, id ∈ a.ruleIds ↔ id ∈ b.ruleIds) →
      va.isAvailable = vb.isAvailable) ∧
    (∀ a more va v, e.Says files c a va → e.Says files c more v →
      a.requirements ⊆ more.requirements → a.ruleIds ⊆ more.ruleIds →
      va.isAvailable = false → v.isAvailable = false) ∧
    ∀ choice v, e.Says files c choice v →
      ((∃ j ∈ choice.requirements, j.StatesNothing) ∨
        ∃ id ∈ choice.ruleIds, ∃ r, catalog.ruleAt? id = some r ∧
          ∃ j ∈ r.requirements, j.StatesNothing) →
      v.isAvailable = false := by
  refine ⟨fun choice => Engine.exists_evaluation h, fun choice v hv => ?_,
    fun a b both va vb v ha hb hv hrequirements hids => ?_,
    fun a b va vb ha hb hrequirements hids => ?_,
    fun a more va v ha hv hrequirements hids hclosed => ?_, fun choice v hv hnothing => ?_⟩
  · rw [hv.isAvailable_iff h]
    exact ⟨fun hopen => ⟨hopen.own, hopen.rules⟩, fun hall => ⟨hall.1, hall.2⟩⟩
  · rw [Bool.eq_iff_iff, Bool.and_eq_true, hv.isAvailable_iff h, ha.isAvailable_iff h,
      hb.isAvailable_iff h]
    exact Choice.open_append_iff hrequirements hids
  · rw [Bool.eq_iff_iff, ha.isAvailable_iff h, hb.isAvailable_iff h]
    constructor
    · intro hopen
      exact hopen.mono (fun j => (hrequirements j).mpr) fun id => (hids id).mpr
    · intro hopen
      exact hopen.mono (fun j => (hrequirements j).mp) fun id => (hids id).mp
  · rw [ha.isAvailable_eq_false_iff h] at hclosed
    rw [hv.isAvailable_eq_false_iff h]
    exact fun hopen => hclosed (hopen.mono hrequirements hids)
  · rw [hv.isAvailable_eq_false_iff h]
    intro hopen
    rcases hnothing with ⟨j, hj, hstates⟩ | ⟨id, hid, r, hrule, j, hj, hstates⟩
    · exact hstates.not_meets (hopen.own j hj)
    · exact hstates.not_meets (hopen.rules id hid r hrule j hj)

/-- The rules of the series that is played. -/
def tollRules : Catalog where
  rules := [{ id := "toll", requirements := [.str "counter:gold>=1"],
              effects := [.str "counter:gold:-1"] }]

/-- A choice that asks twice for the gold of the toll, once through the rule, and for a key. -/
def gate : Choice where
  target := .str "2"
  requirements := [.str "counter:GOLD>=1", .str "item:Key"]
  ruleIds := [.str "TOLL "]

/-- The passage behind the gate. -/
def gatedPassage : Choice where
  target := .str "1"
  requirements := passage.requirements ++ gate.requirements
  ruleIds := passage.ruleIds ++ gate.ruleIds

/-- The passage is open, the gate is not, and so the passage behind it is not either. -/
theorem availability_is_conjunction_gate :
    beforePassage.game.engine.HasCatalog {} beforePassage.context tollRules ∧
      ∃ free closed both,
        beforePassage.game.engine.Says {} beforePassage.context passage free ∧
        beforePassage.game.engine.Says {} beforePassage.context gate closed ∧
        beforePassage.game.engine.Says {} beforePassage.context gatedPassage both ∧
        free.isAvailable = true ∧ closed.isAvailable = false ∧
        both.isAvailable = (free.isAvailable && closed.isAvailable) := by
  have hcatalog : beforePassage.game.engine.HasCatalog {} beforePassage.context tollRules :=
    ⟨some "lw", rfl, rfl⟩
  obtain ⟨-, -, happend, -⟩ := availability_is_conjunction hcatalog
  exact ⟨hcatalog, ⟨true, passage.outcomes⟩, ⟨false, []⟩, ⟨false, []⟩, rfl, rfl, rfl, rfl, rfl,
    happend passage gate gatedPassage _ _ _ rfl rfl rfl rfl rfl⟩

end Questbook
