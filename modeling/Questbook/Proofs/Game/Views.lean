import Questbook.Proofs.Game.Unhindered
import Questbook.Proofs.Roll.Selected

set_option autoImplicit false

/-! # Three views of a section

Which choices of a section may be taken, which of them a roll selects, and what comes of taking them is
worked out in three places. The views agree (`views_agree`): what is listed as available is exactly what is
not refused when it is taken, and of what is available the roll selects exactly what is taken with an outcome
or has to be decided by the player.

The choices that may be taken are found by asking for each of them in turn, at a table that may load
something meanwhile. This changes no answer, so that each of them is listed if it may be taken at the table
with which the listing began (`Game.listed_of_availableFrom`).
-/

namespace Questbook

variable {n : Int} {s t : Session} {choice : Choice} {r : ChoiceResult}

/-! ## The list of choices -/

namespace Game

variable {g h : Game} {state : GameState}

/-- Whether a choice may be taken is the same at tables that answer alike. -/
theorem SameAnswers.evaluate (hgh : g.SameAnswers h) (state : GameState) (choice : Choice) :
    ((Game.evaluate state choice).result h).1 = ((Game.evaluate state choice).result g).1 := by
  have hrules : ((Engine.rulesFor h.files choice { state }).result h.engine).1 =
      ((Engine.rulesFor g.files choice { state }).result g.engine).1 :=
    result_withEngine_congr hgh.catalog (fun catalog => catalog.rulesFor choice) state.series
  show ((Engine.evaluate h.files choice { state }).result h.engine).1 =
    ((Engine.evaluate g.files choice { state }).result g.engine).1
  rw [Engine.result_evaluate, Engine.result_evaluate, hrules]

/-- Asking whether a choice may be taken loads at most. -/
theorem loads_evaluate (state : GameState) (choice : Choice) (g : Game) :
    g.Loads ((Game.evaluate state choice).result g).2 := by
  have hleft : ((Game.evaluate state choice).result g).2 =
      ((withEngine fun files => Engine.rulesFor files choice { state }).result g).2 := by
    show { g with engine := ((Engine.evaluate g.files choice { state }).result g.engine).2 } = _
    rw [Engine.result_evaluate]
    rfl
  rw [hleft]
  exact loads_withEngine
    (fun key => ⟨Engine.sameAnswers_catalogOf g.files key g.engine, rfl⟩)
    (fun catalog => catalog.rulesFor choice) state.series

/-- **What is listed as available.** The places are counted from `place` on, and a choice is listed if it
may be taken. -/
theorem listed_of_availableFrom {cs : List Choice} {place : Nat} {places : List Nat}
    (hsame : g.SameAnswers h) (hrun : ((availableFrom state place cs).result h).1 = .ok places) :
    (∀ p ∈ places, place ≤ p) ∧ ∀ i choice, cs[i]? = some choice →
      ∃ v, ((Game.evaluate state choice).result g).1 = .ok v ∧
        (place + i ∈ places ↔ v.isAvailable = true) := by
  -- the table changes from choice to choice, the answers at `g` do not
  induction cs generalizing h place places with
  | nil =>
      cases hrun
      exact ⟨nofun, nofun⟩
  | cons c cs ih =>
      rcases Play.result_bind_eq (Prod.ext hrun rfl) with ⟨f, hf, -⟩ | ⟨v, h', hv, hrest⟩
      · cases hf
      rcases Play.result_bind_eq hrest with ⟨f, hf, -⟩ | ⟨rest, h'', hlater, hlast⟩
      · cases hf
      obtain ⟨hplaces, -⟩ := Play.result_pure_eq.mp hlast
      have hsame' : g.SameAnswers h' := by
        have hloads := loads_evaluate state c h
        rw [hv] at hloads
        exact hsame.trans hloads.answers
      have hfirst : ((Game.evaluate state c).result g).1 = .ok v := by
        rw [← hsame.evaluate state c, hv]
      obtain ⟨hbeyond, hrestListed⟩ := ih hsame' (congrArg Prod.fst hlater)
      have habsent : place ∉ rest := fun hmem => absurd (hbeyond place hmem) (by omega)
      cases hplaces
      constructor
      · intro p hp
        by_cases havailable : v.isAvailable = true
        · rw [if_pos havailable] at hp
          rcases List.mem_cons.mp hp with rfl | hp
          · exact Nat.le_refl p
          · exact Nat.le_of_succ_le (hbeyond p hp)
        · rw [if_neg havailable] at hp
          exact Nat.le_of_succ_le (hbeyond p hp)
      · intro i choice hi
        cases i with
        | zero =>
            cases hi
            refine ⟨v, hfirst, ?_⟩
            by_cases havailable : v.isAvailable = true
            · simp [havailable]
            · simp [havailable, habsent]
        | succ i =>
            obtain ⟨w, hw, hlisted⟩ := hrestListed i choice hi
            refine ⟨w, hw, ?_⟩
            have hplace : place + (i + 1) = place + 1 + i := by omega
            rw [hplace, ← hlisted]
            have hother : place + 1 + i ≠ place := by omega
            by_cases havailable : v.isAvailable = true
            · simp [havailable, hother]
            · simp [havailable]

/-- The choices that may be taken are found if each of them can be asked about. -/
theorem exists_availableFrom {cs : List Choice} (hsame : g.SameAnswers h)
    (hasked : ∀ c ∈ cs, ∃ v, ((Game.evaluate state c).result g).1 = .ok v) (place : Nat) :
    ∃ places h', (availableFrom state place cs).result h = (.ok places, h') := by
  induction cs generalizing h place with
  | nil => exact ⟨_, _, rfl⟩
  | cons c cs ih =>
      obtain ⟨⟨v, hv⟩, hlater⟩ := List.forall_mem_cons.mp hasked
      have hfirst : ((Game.evaluate state c).result h).1 = .ok v := by
        rw [hsame.evaluate state c, hv]
      obtain ⟨rest, h', hrest⟩ :=
        ih (hsame.trans (loads_evaluate state c h).answers) hlater (place + 1)
      unfold availableFrom
      rw [Play.result_bind_of_ok (Prod.ext hfirst rfl), Play.result_bind_of_ok hrest]
      exact ⟨_, _, rfl⟩

end Game

/-! ## Taking a choice -/

theorem Choice.answers_iff : choice.Answers n ↔ choice.outcomesAt n ≠ [] := by
  unfold Choice.Answers Choice.outcomesAt
  simp [List.filter_eq_nil_iff]

theorem Choice.select_int (choice : Choice) (n : Int) :
    choice.select (.int n) = .ok (choice.outcomesAt n).head? := by
  unfold Choice.select
  rw [choice.matching_int]
  rfl

/-- Without a pick the first of the outcomes applies, unless there are several. -/
theorem selection_none_eq_head? {os : List RandomOutcome} (h : ¬ Contested os none) :
    selection os none = os.head? := by
  rcases os with _ | ⟨o, _ | ⟨o', os⟩⟩
  · rfl
  · rfl
  · exact absurd ⟨by simp, nofun⟩ h

namespace Session

/-- What governs a choice decides whether it may be taken. -/
theorem Governs.isAvailable_eq {rules : RuleSet} {v : Evaluation} {b : Bool}
    (governs : s.Governs choice rules) (hall : allHold s.context rules.requirements = .ok b)
    (hv : ((Game.evaluate s.state choice).result s.game).1 = .ok v) : v.isAvailable = b := by
  obtain ⟨catalog, hcatalog, hrules⟩ := governs
  have hsays : s.game.engine.Says s.game.files s.context choice v := hv
  have hcatalog : s.game.engine.HasCatalog s.game.files s.context catalog := hcatalog
  obtain ⟨rules', hrules', hwith⟩ := (Engine.says_iff hcatalog).mp hsays
  cases hrules.symm.trans hrules'
  obtain ⟨b', hb', hsaid⟩ := bind_eq_ok_iff.mp hwith
  cases hall.symm.trans hb'
  cases hsaid
  rfl

/-- **What is told of a choice that has been taken:** that it may not be taken, or what the roll has
brought about. -/
theorem Takes.shows {v : Evaluation} (h : s.Takes choice (.int n) none (.ok r) t)
    (hv : ((Game.evaluate s.state choice).result s.game).1 = .ok v) :
    (v.isAvailable = false ↔ r.status = "requirements_not_met") ∧
      (v.isAvailable = true →
        (choice.Answers n ↔ r.outcome.isSome = true ∨ r.status = "ambiguous_outcome") ∧
        ((choice.outcomesAt n).length = 1 → r.outcome = (choice.outcomesAt n).head?)) := by
  have hroll : s.Rolls (.int n) (.int n) := rfl
  rw [Choice.answers_iff]
  cases h with
  | refuses governs fails keeps =>
      have hclosed : v.isAvailable = false := governs.isAvailable_eq fails hv
      refine ⟨iff_of_true hclosed rfl, fun hopen => ?_⟩
      rw [hclosed] at hopen
      cases hopen
  | waits governs permits settles keeps =>
      have hopen : v.isAvailable = true := governs.isAvailable_eq permits hv
      rcases settles.cases hroll with ⟨⟨hmany, -⟩, roll, -⟩ | ⟨-, roll, hverdict⟩
      · have hsome : choice.outcomesAt n ≠ [] := by
          intro hnil
          simp [hnil] at hmany
        refine ⟨by simp [hopen, ChoiceResult.status], fun _ => ⟨iff_of_true hsome (Or.inr rfl), ?_⟩⟩
        -- where the player has to decide there is not just one outcome
        intro hone
        omega
      · cases hverdict
  | strays leads absent keeps =>
      have hopen : v.isAvailable = true := leads.governs.isAvailable_eq leads.permits hv
      obtain ⟨hc, rfl, -⟩ := leads.spec hroll
      simp [hopen, ChoiceResult.status, ChoiceResult.outcome, selection_none_eq_head? hc]
  | arrives leads present applies state keeps =>
      have hopen : v.isAvailable = true := leads.governs.isAvailable_eq leads.permits hv
      obtain ⟨hc, rfl, -⟩ := leads.spec hroll
      simp [hopen, ChoiceResult.status, ChoiceResult.outcome, selection_none_eq_head? hc]

/-- A choice that may not be taken is refused. -/
theorem applyChoice_of_not_available {v : Evaluation} (given : Json) (picked : Option RandomOutcome)
    (hv : ((Game.evaluate s.state choice).result s.game).1 = .ok v) (hclosed : v.isAvailable = false) :
    ∃ t, (applyChoice choice given picked).result s = (.ok (.refused choice), t) := by
  have hconsider : ((consider choice).result s).1.map Prod.snd = .ok false := by
    rw [← isAvailable_eq, hv, ← hclosed]
    rfl
  obtain ⟨⟨rules, available⟩, hfound, hsame⟩ := map_eq_ok_iff.mp hconsider
  obtain rfl : available = false := hsame
  rw [applyChoice_eq, Play.result_bind_of_ok (Prod.ext hfound rfl)]
  exact ⟨_, rfl⟩

end Session

/-! ## The views -/

/-- **The three views of a section agree.** All of them come to a result for choices with nothing in their way,
and what they come to agrees. The choices are told apart by labels, so that a choice that is listed more than
once may have the same label each time. -/
theorem views_agree {κ : Type} [DecidableEq κ] {s : Session} {g : Game} {listed : Section}
    {label : Nat → κ} (n : Int)
    (hlabel : ∀ i j, label i = label j → listed.choices[i]? = listed.choices[j]?)
    (hsame : s.game.SameAnswers g) :
    (∀ catalog book, s.HasCatalog catalog → s.HasBook book → IsRoll (.int n) →
      (∀ choice ∈ listed.choices, s.Unhindered catalog choice) →
      (∃ places g', (Game.available s.state listed).result g = (.ok places, g')) ∧
        ∀ choice ∈ listed.choices,
          ∃ r t, (Session.applyChoice choice (.int n) none).result s = (.ok r, t)) ∧
    ∃ selected, listed.selectedUnder label (.int n) = .ok selected ∧
      ∀ places g', (Game.available s.state listed).result g = (.ok places, g') →
        ∀ i choice, listed.choices[i]? = some choice →
          (i ∈ places ↔ ¬ ∃ r t, (Session.applyChoice choice (.int n) none).result s = (.ok r, t) ∧
            r.status = "requirements_not_met") ∧
          ∀ r t, (Session.applyChoice choice (.int n) none).result s = (.ok r, t) → i ∈ places →
            (label i ∈ selected ↔ r.outcome.isSome = true ∨ r.status = "ambiguous_outcome") ∧
            ((choice.outcomesAt n).length = 1 → choice.select (.int n) = .ok r.outcome) := by
  refine ⟨fun catalog book hcatalog hbook hroll hopen => ⟨?_, fun choice hchoice => ?_⟩, ?_⟩
  · refine Game.exists_availableFrom hsame (fun choice hchoice => ?_) 0
    exact Engine.exists_evaluation hcatalog (hopen choice hchoice).reads (hopen choice hchoice).decides
  · exact (hopen choice hchoice).exists_applyChoice hcatalog hbook hroll
  obtain ⟨selected, hselected, hmem⟩ := listed.exists_selectedUnder label n
  refine ⟨selected, hselected, fun places g' hplaces i choice hi => ?_⟩
  obtain ⟨-, hlisted⟩ := Game.listed_of_availableFrom hsame (congrArg Prod.fst hplaces)
  obtain ⟨v, hv, hplace⟩ := hlisted i choice hi
  rw [Nat.zero_add] at hplace
  have hanswers : label i ∈ selected ↔ choice.Answers n := by
    rw [hmem]
    constructor
    · rintro ⟨j, c, hj, hsamelabel, hc⟩
      -- the choice with the same label is the same choice
      rw [hlabel j i hsamelabel, hi] at hj
      cases hj
      exact hc
    · exact fun hc => ⟨i, choice, hi, rfl, hc⟩
  rw [hplace, hanswers, choice.select_int]
  refine ⟨?_, fun r t hr hopen => ?_⟩
  · cases havailable : v.isAvailable with
    | false =>
        obtain ⟨t, ht⟩ := Session.applyChoice_of_not_available (.int n) none hv havailable
        exact iff_of_false Bool.false_ne_true fun hnone => hnone ⟨_, t, ht, rfl⟩
    | true =>
        refine iff_of_true rfl ?_
        rintro ⟨r, t, hr, hstatus⟩
        have hclosed := ((Session.takes_of_applyChoice hr).shows hv).1.mpr hstatus
        rw [havailable] at hclosed
        cases hclosed
  · obtain ⟨hshown, honly⟩ := ((Session.takes_of_applyChoice hr).shows hv).2 hopen
    exact ⟨hshown, fun hone => congrArg Except.ok (honly hone).symm⟩

/-- A choice whose outcomes overlap. -/
def fork : Choice where
  target := .str "1"
  outcomes := [{ max := 5, target := .str "2" }, { min := 3, max := 9 }]

/-- A section that lists the passage twice, with a closed gate, a way that leads nowhere and a fork. -/
def crossroads : Section where
  id := "1"
  choices := [passage, gate, { target := .str "9" }, fork, passage]

/-- The label of a choice of the crossroads: both passages are the same one. -/
def crossroadsLabel (place : Nat) : Nat :=
  if place = 4 then 0 else place

theorem passage_unhindered : beforePassage.Unhindered tollRules passage where
  reads := {
    ids := List.forall_mem_singleton.mpr ⟨_, rfl⟩
    requirements := List.forall_mem_singleton.mpr ⟨_, rfl⟩
    effects := List.forall_mem_cons.mpr ⟨⟨_, rfl⟩, List.forall_mem_singleton.mpr ⟨_, rfl⟩⟩ }
  decides := List.forall_mem_singleton.mpr ⟨_, true, rfl, rfl⟩
  targets := List.forall_mem_singleton.mpr (Or.inr ⟨_, rfl⟩)
  performs outcome hdeclared := by
    cases outcome with
    | none => exact ⟨_, _, rfl, rfl⟩
    | some o =>
        cases List.mem_singleton.mp (hdeclared o rfl)
        exact ⟨_, _, rfl, rfl⟩

theorem gate_unhindered : beforePassage.Unhindered tollRules gate where
  reads := {
    ids := List.forall_mem_singleton.mpr ⟨_, rfl⟩
    requirements := List.forall_mem_cons.mpr ⟨⟨_, rfl⟩,
      List.forall_mem_cons.mpr ⟨⟨_, rfl⟩, List.forall_mem_singleton.mpr ⟨_, rfl⟩⟩⟩
    effects := List.forall_mem_singleton.mpr ⟨_, rfl⟩ }
  decides := List.forall_mem_cons.mpr ⟨⟨_, true, rfl, rfl⟩,
    List.forall_mem_cons.mpr ⟨⟨_, false, rfl, rfl⟩, List.forall_mem_singleton.mpr ⟨_, true, rfl, rfl⟩⟩⟩
  targets := List.forall_mem_nil _
  performs outcome hdeclared := by
    cases outcome with
    | none => exact ⟨_, _, rfl, rfl⟩
    | some o => cases hdeclared o rfl

theorem crossroads_unhindered :
    ∀ choice ∈ crossroads.choices, beforePassage.Unhindered tollRules choice := by
  have hnowhere : beforePassage.Unhindered tollRules { target := .str "9" } :=
    .of_no_tokens rfl rfl rfl (List.forall_mem_nil _)
  have hfork : beforePassage.Unhindered tollRules fork :=
    .of_no_tokens rfl rfl rfl (List.forall_mem_cons.mpr
      ⟨⟨Or.inr ⟨_, rfl⟩, rfl⟩, List.forall_mem_singleton.mpr ⟨Or.inr ⟨_, rfl⟩, rfl⟩⟩)
  simp only [crossroads, List.forall_mem_cons]
  exact ⟨passage_unhindered, gate_unhindered, hnowhere, hfork, passage_unhindered, List.forall_mem_nil _⟩

/-- With a roll of three the gate is closed, the passage and the fork are selected, and the way that leads
nowhere is not. -/
theorem views_agree_crossroads :
    (∀ i j, crossroadsLabel i = crossroadsLabel j →
      crossroads.choices[i]? = crossroads.choices[j]?) ∧
      beforePassage.game.SameAnswers beforePassage.game ∧
      (∀ choice ∈ crossroads.choices,
        ∃ r t, (Session.applyChoice choice (.int 3) none).result beforePassage = (.ok r, t)) ∧
      ∃ g', (Game.available beforePassage.state crossroads).result beforePassage.game =
          (.ok [0, 2, 3, 4], g') ∧
        ∃ selected, crossroads.selectedUnder crossroadsLabel (.int 3) = .ok selected ∧
          crossroadsLabel 4 ∈ selected ∧ crossroadsLabel 2 ∉ selected ∧
          crossroadsLabel 3 ∈ selected := by
  have hlabel : ∀ i j, crossroadsLabel i = crossroadsLabel j →
      crossroads.choices[i]? = crossroads.choices[j]? := by
    intro i j h
    unfold crossroadsLabel at h
    split at h <;> split at h <;> subst_vars <;> rfl
  have hsame := Game.SameAnswers.refl beforePassage.game
  have hcatalog : beforePassage.HasCatalog tollRules := ⟨some "lw", rfl, rfl⟩
  have hplaces : ∃ g', (Game.available beforePassage.state crossroads).result beforePassage.game =
      (.ok [0, 2, 3, 4], g') := ⟨_, rfl⟩
  obtain ⟨g', hplaces⟩ := hplaces
  obtain ⟨hresults, selected, hselected, hviews⟩ := views_agree 3 hlabel hsame
  have htaken := (hresults tollRules _ hcatalog rfl (isRoll_int.mpr (by decide)) crossroads_unhindered).2
  have hagree := hviews _ _ hplaces
  refine ⟨hlabel, hsame, htaken, g', hplaces, selected, hselected, ?_, ?_, ?_⟩
  · exact ((hagree 4 passage rfl).2 _ _ rfl (by simp)).1.mpr (Or.inl rfl)
  · intro hmem
    have hshown := ((hagree 2 _ rfl).2 _ _ rfl (by simp)).1.mp hmem
    exact absurd hshown (by decide)
  · exact ((hagree 3 fork rfl).2 _ _ rfl (by simp)).1.mpr (Or.inr rfl)

end Questbook
