import Questbook.Game.Sitting
import Questbook.Proofs.Game.Serving

set_option autoImplicit false

/-! # Who plays does not matter

A game state says of its owner the id and the name of the character, the profile and the flags
(`GameState.Owner`). Nothing of this is read or written by the play: every operation does the same in the
hands of another owner (`Play.Agree` with `OwnedBy`), and so does every list of calls (`Sitting.makeAll`).

The flags that effects set are scratch flags of a single call. Every call asks requirements of a context
without flags, so that a choice that requires a flag is never available (`owner_never_matters`).
-/

namespace Questbook

/-! ## Owners -/

/-- **What a state says of its owner.** -/
structure GameState.Owner where
  id : Json
  name : Json
  profile : PlayerProfile
  flags : NameMap Json

/-- The owner of a state. -/
def GameState.owner (s : GameState) : Owner where
  id := s.character.id
  name := s.character.name
  profile := s.profile
  flags := s.flags

open GameState (Owner)

/-- A character of another owner. -/
def Character.ownedBy (x : Character) (o : Owner) : Character :=
  { x with id := o.id, name := o.name }

/-- **A state of another owner.** -/
def GameState.ownedBy (s : GameState) (o : Owner) : GameState :=
  { s with character := s.character.ownedBy o, profile := o.profile, flags := o.flags }

def Context.ownedBy (c : Context) (o : Owner) : Context :=
  { c with state := c.state.ownedBy o }

def Session.ownedBy (s : Session) (o : Owner) : Session :=
  { s with state := s.state.ownedBy o }

def Sitting.ownedBy (s : Sitting) (o : Owner) : Sitting :=
  { s with state := s.state.map fun state => state.ownedBy o }

/-- **Whether two states are the same to the play:** only their owners may differ. -/
structure GameState.SamePlay (a b : GameState) : Prop where
  bookId : b.bookId = a.bookId
  series : b.series = a.series
  sectionId : b.sectionId = a.sectionId
  character : b.character = { a.character with id := b.character.id, name := b.character.name }

namespace GameState

theorem ownedBy_owner (s : GameState) : s.ownedBy s.owner = s := rfl

theorem owner_ownedBy (s : GameState) (o : Owner) : (s.ownedBy o).owner = o := rfl

theorem samePlay_ownedBy (s : GameState) (o p : Owner) : (s.ownedBy o).SamePlay (s.ownedBy p) :=
  ⟨rfl, rfl, rfl, rfl⟩

theorem SamePlay.eq_ownedBy {a b : GameState} (h : a.SamePlay b) : b = a.ownedBy b.owner := by
  obtain ⟨bookId, series, sectionId, character, profile, flags⟩ := b
  obtain ⟨hbook, hseries, hsection, hcharacter⟩ := h
  cases hbook
  cases hseries
  cases hsection
  exact congrArg (fun x => GameState.mk a.bookId a.series a.sectionId x profile flags) hcharacter

end GameState

variable {o : Owner}

/-! ## Conditions and changes -/

theorem Condition.holds_ownedBy (p : Condition) (c : Context) : p.holds (c.ownedBy o) = p.holds c := by
  cases p <;> rfl

theorem allHold_ownedBy (c : Context) (rs : List Requirement) :
    allHold (c.ownedBy o) rs = allHold c rs := by
  induction rs with
  | nil => rfl
  | cons r rs ih => rw [allHold, allHold, Requirement.holds, Condition.holds_ownedBy, ih]; rfl

theorem Character.adjustStat_ownedBy (x : Character) (name : String) (delta : Int) :
    (x.ownedBy o).adjustStat name delta = (x.adjustStat name delta).map fun y => y.ownedBy o := by
  unfold adjustStat
  split
  · rfl
  split
  · rfl
  show (if x.coreSkills.contains name then _ else _) = _
  split
  · show (addUnder x.coreSkills name delta >>= _) = _
    cases addUnder x.coreSkills name delta <;> rfl
  · show (addUnder x.attributes name delta >>= _) = _
    cases addUnder x.attributes name delta <;> rfl

theorem Character.grant_ownedBy (x : Character) (name : String) :
    (x.ownedBy o).grant name = (x.grant name).map fun y => y.ownedBy o := by
  unfold grant
  show (x.hasDiscipline name >>= _) = _
  cases x.hasDiscipline name with
  | error e => rfl
  | ok known => cases known <;> rfl

theorem map_ownedBy {α : Type} {r : Except Fault α} {f g : α → Context}
    (h : ∀ a, g a = (f a).ownedBy o) : r.map g = (r.map f).map fun d => d.ownedBy o := by
  cases r with
  | error e => rfl
  | ok a => exact congrArg Except.ok (h a)

theorem map_withCharacter_ownedBy (c : Context) (r : Except Fault Character) :
    (r.map fun x => x.ownedBy o).map (c.ownedBy o).withCharacter =
      (r.map c.withCharacter).map fun d => d.ownedBy o := by
  cases r <;> rfl

/-- **A change does the same for another owner.** -/
theorem Change.apply_ownedBy (change : Change) (c : Context) :
    change.apply (c.ownedBy o) = (change.apply c).map fun d => d.ownedBy o := by
  cases change with
  | adjustStat name delta =>
      show ((c.character.ownedBy o).adjustStat name delta).map (c.ownedBy o).withCharacter = _
      rw [Character.adjustStat_ownedBy]
      exact map_withCharacter_ownedBy c _
  | grantDiscipline name =>
      show ((c.character.ownedBy o).grant name).map (c.ownedBy o).withCharacter = _
      rw [Character.grant_ownedBy]
      exact map_withCharacter_ownedBy c _
  | adjustCombat delta => exact map_ownedBy fun _ => rfl
  | removeItem name => exact map_ownedBy fun _ => rfl
  | updateCounter name update => exact map_ownedBy fun _ => rfl
  | updateSlot name update => exact map_ownedBy fun _ => rfl
  | damage _ | heal _ | addItem _ _ | setFlag _ _ | unsupported => rfl

/-- **So do effects,** also when one of them fails. -/
theorem applyAll_ownedBy (c : Context) (es : List Effect) :
    applyAll (c.ownedBy o) es = ((applyAll c es).1.ownedBy o, (applyAll c es).2) := by
  induction es generalizing c with
  | nil => rfl
  | cons e es ih =>
      rw [applyAll, applyAll, Change.apply_ownedBy]
      cases e.change.apply c with
      | error f => rfl
      | ok d => exact ih d

/-! ## Games -/

theorem Engine.evaluateWith_ownedBy (choice : Choice) (rules : RuleSet) (c : Context) :
    evaluateWith choice rules (c.ownedBy o) = evaluateWith choice rules c := by
  unfold evaluateWith
  rw [allHold_ownedBy]

theorem Game.evaluate_ownedBy (state : GameState) (choice : Choice) :
    evaluate (state.ownedBy o) choice = evaluate state choice := by
  show (withEngine fun files => Engine.rulesFor files choice { state } >>= fun rules =>
    .ofExcept (Engine.evaluateWith choice rules (Context.ownedBy { state } o))) = _
  simp only [Engine.evaluateWith_ownedBy]
  rfl

theorem Game.availableFrom_ownedBy (state : GameState) (place : Nat) (cs : List Choice) :
    availableFrom (state.ownedBy o) place cs = availableFrom state place cs := by
  induction cs generalizing place with
  | nil => rfl
  | cons c cs ih => rw [availableFrom, availableFrom, evaluate_ownedBy, ih]

theorem Game.availableNow_ownedBy (state : GameState) :
    availableNow (state.ownedBy o) = availableNow state := by
  refine congrArg (fun f => currentSection state >>= f) (funext fun found => ?_)
  cases found with
  | none => rfl
  | some s => exact availableFrom_ownedBy state 0 s.choices

/-! ## Sessions -/

namespace Session

/-- Two sessions that differ in the owner only. -/
def OwnedBy (o : Owner) (s t : Session) : Prop := t = s.ownedBy o

variable {α : Type}

theorem agree_withGame_ownedBy {p : GameState → Play Game α}
    (h : ∀ state, p (state.ownedBy o) = p state) :
    Play.Agree (OwnedBy o) (withGame p) (withGame p) := by
  rintro s _ rfl
  show (((p s.state).result s.game).1 = ((p (s.state.ownedBy o)).result s.game).1) ∧
    ({ s.ownedBy o with game := ((p (s.state.ownedBy o)).result s.game).2 } : Session) =
      Session.ownedBy { s with game := ((p s.state).result s.game).2 } o
  rw [h]
  exact ⟨rfl, rfl⟩

theorem agree_rollFor_ownedBy (given : Json) :
    Play.Agree (OwnedBy o) (rollFor given) (rollFor given) := by
  cases given with
  | null => exact agree_withGame_ownedBy fun _ => rfl
  | _ => exact agree_rollFor_of_given nofun

theorem agree_moveTo_ownedBy (reached : Section) (effects : List Effect) :
    Play.Agree (OwnedBy o) (moveTo reached effects) (moveTo reached effects) := by
  rintro s _ rfl
  unfold moveTo
  rw [Play.result_ofFunction, Play.result_ofFunction]
  cases happly : applyAll s.context effects with
  | mk c failed =>
      have hother : applyAll (s.context.ownedBy o) effects = (c.ownedBy o, failed) := by
        rw [applyAll_ownedBy, happly]
      rw [show applyAll { state := s.state } effects = (c, failed) from happly,
        show applyAll { state := (s.ownedBy o).state } effects = (c.ownedBy o, failed) from hother]
      cases failed <;> exact ⟨rfl, rfl⟩

/-- **A choice comes to the same for another owner.** -/
theorem agree_applyChoice_ownedBy (choice : Choice) (given : Json) (picked : Option RandomOutcome) :
    Play.Agree (OwnedBy o) (applyChoice choice given picked) (applyChoice choice given picked) := by
  refine agree_applyChoice_of ?_ ?_ (agree_rollFor_ownedBy given)
    (agree_withGame_ownedBy fun _ => rfl) agree_moveTo_ownedBy picked
  · rintro s _ rfl
    exact agree_withGame_ownedBy fun _ => rfl
  · rintro s _ rfl rules
    exact (Engine.evaluateWith_ownedBy choice rules { state := s.state }).symm

/-- **So does a round of combat.** -/
theorem agree_fight_ownedBy (enemySkill enemyEndurance given : Json) :
    Play.Agree (OwnedBy o) (fight enemySkill enemyEndurance given)
      (fight enemySkill enemyEndurance given) := by
  unfold fight
  apply Play.agree_get_bind
  rintro s _ rfl
  refine Play.agree_bind (agree_withGame_ownedBy fun _ => rfl) fun roll => ?_
  refine Play.agree_bind (agree_withGame_ownedBy fun _ => rfl) fun result => ?_
  refine Play.agree_bind ?_ fun _ => Play.agree_pure result
  rintro t _ rfl
  exact ⟨rfl, rfl⟩

end Session

/-! ## Calls -/

namespace Sitting

/-- Two sittings that differ in the owner only. -/
def OwnedBy (o : Owner) (s t : Sitting) : Prop := t = s.ownedBy o

variable {α : Type}

theorem agree_onGame (p : Play Game α) : Play.Agree (OwnedBy o) (onGame p) (onGame p) := by
  rintro s _ rfl
  exact ⟨rfl, rfl⟩

theorem agree_playState_bind {f : GameState → Play Sitting α}
    (h : ∀ state, Play.Agree (OwnedBy o) (f state) (f (state.ownedBy o))) :
    Play.Agree (OwnedBy o) (playState >>= f) (playState >>= f) := by
  rintro ⟨g, state⟩ _ rfl
  cases state with
  | none => exact ⟨rfl, rfl⟩
  | some state => exact h state ⟨g, some state⟩ _ rfl

theorem agree_inSession {p : Play Session α} (h : Play.Agree (Session.OwnedBy o) p p) :
    Play.Agree (OwnedBy o) (inSession p) (inSession p) := by
  rintro ⟨g, state⟩ _ rfl
  cases state with
  | none => exact ⟨rfl, rfl⟩
  | some state =>
      obtain ⟨hresult, hstate⟩ := h ⟨g, state⟩ _ rfl
      refine ⟨hresult, ?_⟩
      show Sitting.mk (p.result (Session.ownedBy ⟨g, state⟩ o)).2.game
        (some (p.result (Session.ownedBy ⟨g, state⟩ o)).2.state) = _
      rw [show (p.result (Session.ownedBy ⟨g, state⟩ o)).2 = _ from hstate]
      rfl

/-- **A call of the play.** -/
inductive Call
  | evaluate (choice : Option Choice)
  | available (s : Option Section)
  | applyChoice (choice : Option Choice) (roll : Json) (picked : Option RandomOutcome)
  | selectedBy (s : Option Section) (roll : Json)
  | fight (enemySkill enemyEndurance roll : Json)

/-- What a call gives. -/
inductive Reply
  | evaluation (e : Evaluation)
  | places (places : List Nat)
  | choice (r : ChoiceResult)
  | round (r : RoundResult)

/-- Makes a call. -/
def Call.make : Call → Play Sitting Reply
  | evaluate choice => do pure (.evaluation (← Sitting.evaluate choice))
  | available s => do pure (.places (← Sitting.available s))
  | applyChoice choice roll picked => do pure (.choice (← Sitting.applyChoice choice roll picked))
  | selectedBy s roll => do pure (.places (← Sitting.selectedBy s roll))
  | fight enemySkill enemyEndurance roll => do
    pure (.round (← Sitting.fight enemySkill enemyEndurance roll))

/-- **Makes calls one after the other,** whatever they give. -/
def makeAll : List Call → Sitting → List (Except Fault Reply) × Sitting
  | [], s => ([], s)
  | call :: calls, s =>
    let (reply, t) := call.make.result s
    let (replies, u) := makeAll calls t
    (reply :: replies, u)

theorem agree_available (s : Option Section) :
    Play.Agree (OwnedBy o) (available s) (available s) := by
  unfold available
  split
  · refine agree_playState_bind fun state => ?_
    rw [Game.availableNow_ownedBy]
    exact agree_onGame _
  · next s =>
    refine agree_playState_bind fun state => ?_
    show Play.Agree _ _ (onGame (Game.availableFrom (state.ownedBy o) 0 s.choices))
    rw [Game.availableFrom_ownedBy]
    exact agree_onGame _

/-- **A call does the same for another owner.** -/
theorem agree_make (call : Call) : Play.Agree (OwnedBy o) call.make call.make := by
  cases call with
  | evaluate choice =>
      refine Play.agree_bind ?_ fun e => Play.agree_pure _
      refine agree_playState_bind fun state => ?_
      refine Play.agree_bind (Play.agree_ofExcept _) fun choice => ?_
      rw [Game.evaluate_ownedBy]
      exact agree_onGame _
  | available s => exact Play.agree_bind (agree_available s) fun _ => Play.agree_pure _
  | applyChoice choice roll picked =>
      refine Play.agree_bind ?_ fun r => Play.agree_pure _
      refine agree_playState_bind fun state => ?_
      refine Play.agree_bind (Play.agree_ofExcept _) fun choice => ?_
      exact agree_inSession (Session.agree_applyChoice_ownedBy choice roll picked)
  | selectedBy s roll =>
      refine Play.agree_bind ?_ fun ps => Play.agree_pure _
      exact Play.agree_bind (Play.agree_ofExcept _) fun s => Play.agree_ofExcept _
  | fight enemySkill enemyEndurance roll =>
      refine Play.agree_bind ?_ fun r => Play.agree_pure _
      exact agree_inSession (Session.agree_fight_ownedBy enemySkill enemyEndurance roll)

/-- **And so does every list of calls.** -/
theorem makeAll_ownedBy (calls : List Call) (s : Sitting) :
    makeAll calls (s.ownedBy o) = ((makeAll calls s).1, (makeAll calls s).2.ownedBy o) := by
  induction calls generalizing s with
  | nil => rfl
  | cons call calls ih =>
      obtain ⟨hreply, hleft⟩ := agree_make call s (s.ownedBy o) rfl
      have hmake : call.make.result (s.ownedBy o) =
          ((call.make.result s).1, (call.make.result s).2.ownedBy o) := Prod.ext hreply.symm hleft
      have hrest := ih (call.make.result s).2
      rw [makeAll, makeAll, hmake]
      show (_ :: (makeAll calls ((call.make.result s).2.ownedBy o)).1,
        (makeAll calls ((call.make.result s).2.ownedBy o)).2) = _
      rw [hrest]

/-- Play that has begun goes on. -/
def Continues (s t : Sitting) : Prop :=
  s.state.isSome = true → t.state.isSome = true

theorem within_bind_continues {β : Type} {p : Play Sitting α} {f : α → Play Sitting β}
    (hp : Play.Within Continues p) (hf : ∀ a, Play.Within Continues (f a)) :
    Play.Within Continues (p >>= f) :=
  Play.within_bind (R := Continues) (fun hst htu hs => htu (hst hs)) hp hf

theorem within_ofExcept_continues (r : Except Fault α) :
    Play.Within Continues (.ofExcept r : Play Sitting α) :=
  Play.within_ofExcept (fun _ h => h) r

theorem within_playState : Play.Within Continues playState :=
  within_bind_continues (fun _ h => h) fun s => within_ofExcept_continues (Fault.need "state" s.state)

theorem within_onGame (p : Play Game α) : Play.Within Continues (onGame p) := fun _ h => h

theorem within_inSession (p : Play Session α) : Play.Within Continues (inSession p) := by
  rintro ⟨g, state⟩ h
  cases state with
  | none => cases h
  | some state => rfl

theorem within_available (s : Option Section) : Play.Within Continues (available s) := by
  unfold available
  split
  · exact within_bind_continues within_playState fun _ => within_onGame _
  · exact within_bind_continues within_playState fun _ => within_onGame _

theorem within_make (call : Call) : Play.Within Continues call.make := by
  have hpure : ∀ reply : Reply, Play.Within Continues (pure reply) := fun _ _ h => h
  cases call with
  | evaluate choice =>
      refine within_bind_continues ?_ fun _ => hpure _
      refine within_bind_continues within_playState fun state => ?_
      exact within_bind_continues (within_ofExcept_continues _) fun _ => within_onGame _
  | available s => exact within_bind_continues (within_available s) fun _ => hpure _
  | applyChoice choice roll picked =>
      refine within_bind_continues ?_ fun _ => hpure _
      refine within_bind_continues within_playState fun state => ?_
      exact within_bind_continues (within_ofExcept_continues _) fun _ => within_inSession _
  | selectedBy s roll =>
      refine within_bind_continues ?_ fun _ => hpure _
      exact within_bind_continues (within_ofExcept_continues _) fun _ =>
        within_ofExcept_continues _
  | fight enemySkill enemyEndurance roll =>
      exact within_bind_continues (within_inSession _) fun _ => hpure _

theorem continues_makeAll (calls : List Call) (s : Sitting) : Continues s (makeAll calls s).2 := by
  induction calls generalizing s with
  | nil => exact fun h => h
  | cons call calls ih => exact fun h => ih _ (within_make call s h)

end Sitting

/-! ## Flags that are required -/

/-- Whether a requirement asks for a flag. -/
def Requirement.IsFlag (q : Requirement) : Prop :=
  ∃ name expected, q.condition = .flag name expected

/-- **Whether a choice requires a flag** in a state, by itself or by one of its rules. -/
def Game.RequiresFlag (g : Game) (state : GameState) (choice : Choice) : Prop :=
  ∃ rules, ((withEngine fun files => Engine.rulesFor files choice { state }).result g).1 =
    .ok rules ∧ ∃ q ∈ rules.requirements, q.IsFlag

/-- No flag is set in a context that has just been made. -/
theorem Requirement.IsFlag.holds_eq {q : Requirement} (h : q.IsFlag) (state : GameState) :
    q.holds { state } = .ok false := by
  obtain ⟨name, expected, hq⟩ := h
  unfold Requirement.holds
  rw [hq]
  rfl

theorem Engine.isAvailable_of_flag {choice : Choice} {rules : RuleSet} {state : GameState}
    {e : Evaluation} (hflag : ∃ q ∈ rules.requirements, q.IsFlag)
    (h : evaluateWith choice rules { state } = .ok e) : e.isAvailable = false := by
  obtain ⟨q, hq, hisFlag⟩ := hflag
  obtain ⟨b, hb, he⟩ := bind_eq_ok_iff.mp h
  cases he
  cases b with
  | false => rfl
  | true =>
      have hholds := holds_of_allHold hb q hq
      rw [hisFlag.holds_eq] at hholds
      cases hholds

/-- What governs a choice, and the catalog it is found in. -/
theorem Engine.result_rulesFor {files : FileTree} {choice : Choice} {c : Context}
    {key : Option String} (hkey : Series.keyOfJson c.state.series = .ok key) (e : Engine) :
    (rulesFor files choice c).result e =
      (((catalogOf files key).result e).1 >>= fun catalog => catalog.rulesFor choice,
        ((catalogOf files key).result e).2) := by
  unfold rulesFor
  rw [hkey]
  show ((catalogOf files key >>= fun catalog => Play.ofExcept (catalog.rulesFor choice)).result e) = _
  rw [Play.result_bind]
  cases hcatalog : (catalogOf files key).result e with
  | mk r e' => cases r <;> rfl

theorem Engine.result_evaluate {files : FileTree} {choice : Choice} {c : Context} (e : Engine) :
    (evaluate files choice c).result e =
      (((rulesFor files choice c).result e).1 >>= fun rules => evaluateWith choice rules c,
        ((rulesFor files choice c).result e).2) := by
  unfold evaluate
  rw [Play.result_bind]
  cases (rulesFor files choice c).result e with
  | mk r e' => cases r <;> rfl

namespace Game.RequiresFlag

variable {g : Game} {state : GameState} {choice : Choice}

theorem isAvailable_eq_false (h : g.RequiresFlag state choice) {e : Evaluation}
    (he : ((Game.evaluate state choice).result g).1 = .ok e) : e.isAvailable = false := by
  obtain ⟨rules, hrules, hflag⟩ := h
  have heval : ((Engine.evaluate g.files choice { state }).result g.engine).1 = .ok e := he
  rw [Engine.result_evaluate] at heval
  obtain ⟨rules', hrules', hwith⟩ := bind_eq_ok_iff.mp heval
  cases hrules.symm.trans hrules'
  exact Engine.isAvailable_of_flag hflag hwith

/-- What a choice requires is the same after another one has been looked at. -/
theorem evaluate (h : g.RequiresFlag state choice) (other : Choice) :
    ((Game.evaluate state other).result g).2.RequiresFlag state choice := by
  obtain ⟨rules, hrules, hflag⟩ := h
  refine ⟨rules, ?_, hflag⟩
  have hfound : ((Engine.rulesFor g.files choice { state }).result g.engine).1 = .ok rules := hrules
  show ((Engine.rulesFor g.files choice { state }).result
    ((Engine.evaluate g.files other { state }).result g.engine).2).1 = .ok rules
  cases hkey : Series.keyOfJson state.series with
  | error f =>
      unfold Engine.rulesFor at hfound
      rw [show Series.keyOfJson (Context.state { state }).series = .error f from hkey] at hfound
      cases hfound
  | ok key =>
      have hkey : Series.keyOfJson (Context.state { state }).series = .ok key := hkey
      rw [Engine.result_evaluate, Engine.result_rulesFor hkey, Engine.result_rulesFor hkey]
      rw [Engine.result_rulesFor hkey] at hfound
      -- the other choice asks for the same catalog, so that it has been loaded by now
      have hagain : ((Engine.catalogOf g.files key).result
          ((Engine.catalogOf g.files key).result g.engine).2).1 =
            ((Engine.catalogOf g.files key).result g.engine).1 :=
        g.engine.catalogs.result_getOrLoad_again key rfl
      show (((Engine.catalogOf g.files key).result
        ((Engine.catalogOf g.files key).result g.engine).2).1 >>= _) = _
      rw [hagain]
      exact hfound

/-- **A choice that requires a flag is not listed.** The places of a list are counted from `place` on. -/
theorem not_listed {cs : List Choice} {place : Nat} {places : List Nat}
    (hflag : g.RequiresFlag state choice)
    (h : ((Game.availableFrom state place cs).result g).1 = .ok places) :
    ∀ p ∈ places, place ≤ p ∧ cs[p - place]? ≠ some choice := by
  induction cs generalizing g place places with
  | nil =>
      cases h
      exact List.forall_mem_nil _
  | cons c cs ih =>
      rcases Play.result_bind_eq (Prod.ext h rfl) with ⟨f, hf, -⟩ | ⟨e, g', he, hrest⟩
      · cases hf
      rcases Play.result_bind_eq hrest with ⟨f, hf, -⟩ | ⟨rest, g'', hlater, hlast⟩
      · cases hf
      obtain ⟨hplaces, -⟩ := Play.result_pure_eq.mp hlast
      have hflag' := hflag.evaluate c
      rw [he] at hflag'
      have hthere := ih hflag' (congrArg Prod.fst hlater)
      have hbeyond : ∀ p ∈ rest, place ≤ p ∧ (c :: cs)[p - place]? ≠ some choice := by
        intro p hp
        obtain ⟨hle, hne⟩ := hthere p hp
        have hshift : p - place = (p - (place + 1)) + 1 := by omega
        rw [hshift, List.getElem?_cons_succ]
        exact ⟨by omega, hne⟩
      cases hplaces
      split
      · next havailable =>
        refine List.forall_mem_cons.mpr ⟨⟨Nat.le_refl place, ?_⟩, hbeyond⟩
        rw [Nat.sub_self, List.getElem?_cons_zero]
        -- the head is available, so it is not the choice that requires a flag
        rintro hsame
        cases hsame
        rw [hflag.isAvailable_eq_false (congrArg Prod.fst he)] at havailable
        cases havailable
      · exact hbeyond

/-- **It is refused when it is taken.** -/
theorem refused (h : g.RequiresFlag state choice) {given : Json} {picked : Option RandomOutcome}
    {r : ChoiceResult}
    (hr : ((Session.applyChoice choice given picked).result ⟨g, state⟩).1 = .ok r) :
    r = .refused choice := by
  obtain ⟨rules, hrules, hflag⟩ := h
  unfold Session.applyChoice at hr
  rcases Play.result_bind_eq (Prod.ext hr rfl) with ⟨f, hf, -⟩ | ⟨s, t, hget, hrest⟩
  · cases hf
  cases hget
  rcases Play.result_bind_eq hrest with ⟨f, hf, -⟩ | ⟨rules', t, hfound, hrest⟩
  · cases hf
  have hsame : rules' = rules :=
    Except.ok.inj ((show _ = Except.ok rules' from congrArg Prod.fst hfound).symm.trans hrules)
  rcases Play.result_bind_eq hrest with ⟨f, hf, -⟩ | ⟨e, t, heval, hrest⟩
  · cases hf
  obtain ⟨heval, -⟩ := Play.result_ofExcept_eq.mp heval
  rw [hsame] at heval
  rw [Engine.isAvailable_of_flag hflag heval] at hrest
  obtain ⟨hresult, -⟩ := Play.result_pure_eq.mp hrest
  exact (Except.ok.inj hresult).symm

/-- Looking up the section where the play is leaves the engine alone. -/
theorem currentSection (h : g.RequiresFlag state choice) :
    ((Game.currentSection state).result g).2.RequiresFlag state choice := by
  rw [Game.left_currentSection]
  exact h

end Game.RequiresFlag

namespace Sitting

/-- The section whose choices are listed: a given one, or the one that the play is in. -/
def Lists (s : Sitting) : Option Section → Section → Prop
  | some given, listed => listed = given
  | none, listed => (currentSection.result s).1 = .ok (some listed)

/-- **Whether a choice is not available by any call:** it is not evaluated as available, it is refused when
it is taken, and it is not listed. -/
structure Withholds (s : Sitting) (choice : Choice) : Prop where
  evaluated : ∀ e, ((evaluate (some choice)).result s).1 = .ok e → e.isAvailable = false
  taken : ∀ roll picked r, ((applyChoice (some choice) roll picked).result s).1 = .ok r →
    r = .refused choice
  listed : ∀ given listed places, s.Lists given listed →
    ((available given).result s).1 = .ok places → ∀ p ∈ places, listed.choices[p]? ≠ some choice

theorem withholds_of_requiresFlag {g : Game} {state : GameState} {choice : Choice}
    (h : g.RequiresFlag state choice) : Withholds ⟨g, some state⟩ choice where
  evaluated _ he := h.isAvailable_eq_false he
  taken _ _ _ hr := h.refused hr
  listed given listed places hlisted hplaces p hp := by
    cases given with
    | some given =>
        obtain rfl := hlisted
        exact (h.not_listed hplaces p hp).2
    | none =>
        have hnow : ((Game.availableNow state).result g).1 = .ok places := hplaces
        rcases Play.result_bind_eq (Prod.ext hnow rfl) with ⟨f, hf, -⟩ | ⟨found, g', hfound, hrest⟩
        · cases hf
        have hsection : found = some listed := by
          have hcurrent : ((Game.currentSection state).result g).1 = .ok (some listed) := hlisted
          rw [hfound] at hcurrent
          exact Except.ok.inj hcurrent
        subst hsection
        have hflag := h.currentSection
        rw [hfound] at hflag
        exact (hflag.not_listed (congrArg Prod.fst hrest) p hp).2

/-- **Who plays does not matter, and no flag outlives a call.** From two states that are the same to the
play all calls give the same, lead to two such states again, and leave each of them its owner. After any
calls a choice that requires a flag is not available. -/
theorem owner_never_matters (g : Game) {a b : GameState} (h : a.SamePlay b) (calls : List Call) :
    ∃ replies g' a' b', makeAll calls ⟨g, some a⟩ = (replies, ⟨g', some a'⟩) ∧
      makeAll calls ⟨g, some b⟩ = (replies, ⟨g', some b'⟩) ∧ a'.SamePlay b' ∧
      a'.owner = a.owner ∧ b'.owner = b.owner ∧
      ∀ choice, g'.RequiresFlag a' choice →
        Withholds ⟨g', some a'⟩ choice ∧ Withholds ⟨g', some b'⟩ choice := by
  cases hcalls : makeAll calls ⟨g, some a⟩ with
  | mk replies s =>
      obtain ⟨g', state⟩ := s
      have hbegun := continues_makeAll calls ⟨g, some a⟩ rfl
      rw [hcalls] at hbegun
      obtain ⟨a', rfl⟩ := Option.isSome_iff_exists.mp hbegun
      have hleft : ∀ o, makeAll calls ⟨g, some (a.ownedBy o)⟩ =
          (replies, ⟨g', some (a'.ownedBy o)⟩) := by
        intro o
        have hother := makeAll_ownedBy (o := o) calls ⟨g, some a⟩
        rwa [hcalls] at hother
      -- the state is in the hands of its own owner all along
      have hown : a'.owner = a.owner := by
        have hsame := hleft a.owner
        rw [GameState.ownedBy_owner, hcalls] at hsame
        have hstate : a' = a'.ownedBy a.owner :=
          Option.some.inj (Sitting.mk.inj (Prod.mk.inj hsame).2).2
        rw [hstate, GameState.owner_ownedBy]
      refine ⟨replies, g', a', a'.ownedBy b.owner, rfl, ?_, a'.samePlay_ownedBy a'.owner b.owner,
        hown, GameState.owner_ownedBy a' b.owner, fun choice hflag => ?_⟩
      · rw [h.eq_ownedBy]
        exact hleft b.owner
      · have hflag' : g'.RequiresFlag (a'.ownedBy b.owner) choice := hflag
        exact ⟨withholds_of_requiresFlag hflag, withholds_of_requiresFlag hflag'⟩

/-- A choice that sets a flag. -/
def greeting : Choice where
  target := .str "1"
  effects := [.str "flag:met:yes", .str "endurance:heal:2"]

/-- A choice that requires the flag by a rule. -/
def visit : Choice where
  target := .str "1"
  ruleIds := [.str "Friends"]

/-- The table at which they are taken. -/
def visitTable : Game where
  files := {}
  shelf := {
    directory := {}
    known := [("b", { sections := [{ id := "1", choices := [greeting, visit] }] })] }
  slots := { directory := {} }
  engine := {
    source := .cycling [.int 3]
    catalogs := { values := [("lw", { rules := [
      { id := "friends", requirements := [.str "flag:met"] }] })] } }
  newId := "c"

/-- A state without flags. -/
def stranger : GameState where
  bookId := .str "b"
  series := .str "lw"
  sectionId := .str "1"
  character := { id := .str "c" }

/-- A player whose saved game has the flag. -/
def acquaintance : Owner where
  id := .str "d"
  name := .str "Banedon"
  profile := { name := .str "second" }
  flags := NameMap.empty.set "met" (.str "yes")

/-- Neither the flag that the greeting sets nor the one of the saved game makes the visit available. -/
theorem owner_never_matters_visit :
    stranger.SamePlay (stranger.ownedBy acquaintance) ∧
      ∃ replies g a b,
        makeAll [.applyChoice (some greeting) .null none, .available none]
          ⟨visitTable, some stranger⟩ = (replies, ⟨g, some a⟩) ∧
        makeAll [.applyChoice (some greeting) .null none, .available none]
          ⟨visitTable, some (stranger.ownedBy acquaintance)⟩ = (replies, ⟨g, some b⟩) ∧
        b.owner = acquaintance ∧ Withholds ⟨g, some b⟩ visit := by
  have hsame : stranger.SamePlay (stranger.ownedBy acquaintance) := ⟨rfl, rfl, rfl, rfl⟩
  obtain ⟨replies, g, a, b, ha, hb, -, -, howner, hwithholds⟩ := owner_never_matters visitTable hsame
    [.applyChoice (some greeting) .null none, .available none]
  have hrules : ∀ s, makeAll [.applyChoice (some greeting) .null none, .available none]
      ⟨visitTable, some stranger⟩ = s →
      (s.2.state.bind fun state =>
        ((Engine.rulesFor s.2.game.files visit { state }).result s.2.game.engine).1.toOption).map
          (fun rules => rules.requirements.map Requirement.condition) =
        some [.flag "met" none] := by
    rintro _ rfl
    decide +kernel
  obtain ⟨rules, hfound, hconditions⟩ := Option.map_eq_some_iff.mp (hrules _ ha)
  have hmem : Condition.flag "met" none ∈ rules.requirements.map Requirement.condition := by
    rw [hconditions]
    exact List.mem_singleton.mpr rfl
  obtain ⟨q, hq, hcondition⟩ := List.mem_map.mp hmem
  have hflag : g.RequiresFlag a visit :=
    ⟨rules, eq_ok_of_toOption hfound, q, hq, "met", none, hcondition⟩
  exact ⟨hsame, replies, g, a, b, ha, hb, howner, (hwithholds visit hflag).2⟩

end Sitting

end Questbook
