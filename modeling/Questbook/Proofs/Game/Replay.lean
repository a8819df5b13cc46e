import Questbook.Proofs.Game.Answers
import Questbook.Proofs.Roll.Source

set_option autoImplicit false

/-! # Replaying what has been played

A play is recorded when its moves are made with the rolls of a source, and replayed when each move is
given the value that has been drawn for it (`record`, `replay`). A move draws at most once: a round of
combat always does, a choice if it may be taken and has outcomes (`Move.Draws`). The replay draws
nothing, and each of its moves gives the reply and leads to the state that the record has
(`replay_echoes_record`).

The proof follows the two sessions in pairs. Up to the roll, and from the roll on, they do the same
(`agree_consider`, `agree_conclude`); in between the one draws the value that the other is given. So
a turn and its replay leave a pair again (`together_turn`), and so does a run (`together_run`).
-/

namespace Questbook

namespace Session

/-! ## Moves -/

/-- **A move of the play.** -/
inductive Move
  | choose (choice : Choice) (picked : Option RandomOutcome)
  | fight (enemySkill enemyEndurance : Json)

/-- What is told about a move. -/
inductive Reply
  | chosen (result : ChoiceResult)
  | fought (result : RoundResult)

/-- Makes a move, with a roll that is given or, for null, one from the source. -/
def Move.make (given : Json) : Move → Play Session Reply
  | .choose choice picked => do pure (.chosen (← applyChoice choice given picked))
  | .fight enemySkill enemyEndurance => do pure (.fought (← Session.fight enemySkill enemyEndurance given))

/-- **Whether a move draws:** a round of combat does, and a choice that may be taken and has outcomes. -/
def Move.Draws (s : Session) : Move → Prop
  | .choose choice _ => choice.needsRoll = true ∧
    ∃ e, ((Game.evaluate s.state choice).result s.game).1 = .ok e ∧ e.isAvailable = true
  | .fight _ _ => True

/-! ## Runs -/

/-- The source of rolls of a session. -/
def source (s : Session) : RollSource := s.game.engine.source

/-- **A turn of a run:** the move, the session before it, what is told, and the session after it. -/
structure Turn where
  move : Move
  before : Session
  reply : Except Fault Reply
  after : Session

/-- The value that a turn has drawn; null if it has drawn none. -/
def Turn.drawn (u : Turn) : Json :=
  (u.after.source.history.drop u.before.source.history.length).headD .null

/-- What can be seen of a turn: the move, what is told, and the state that it leads to. -/
def Turn.shown (u : Turn) : Move × Except Fault Reply × GameState :=
  (u.move, u.reply, u.after.state)

/-- **Makes moves one after the other,** each with a roll. A fault does not end the run. -/
def play : List (Move × Json) → Session → List Turn
  | [], _ => []
  | (move, given) :: moves, s =>
    let (reply, t) := (move.make given).result s
    ⟨move, s, reply, t⟩ :: play moves t

/-- **Plays with the rolls of the source.** -/
def record (moves : List Move) (s : Session) : List Turn :=
  play (moves.map fun move => (move, .null)) s

/-- **Plays the moves of a run again,** each with the value that was drawn for it. -/
def replay (turns : List Turn) (s : Session) : List Turn :=
  play (turns.map fun u => (u.move, u.drawn)) s

/-- The turn that a move makes when it is given a roll. -/
def turnWith (move : Move) (given : Json) (s : Session) : Turn :=
  ⟨move, s, ((move.make given).result s).1, ((move.make given).result s).2⟩

theorem record_cons (move : Move) (moves : List Move) (s : Session) :
    record (move :: moves) s =
      turnWith move .null s :: record moves (turnWith move .null s).after := rfl

theorem replay_cons (u : Turn) (turns : List Turn) (s : Session) :
    replay (u :: turns) s =
      turnWith u.move u.drawn s :: replay turns (turnWith u.move u.drawn s).after := rfl

/-! ## The stages of a choice -/

/-- What is found out about a choice before anything is rolled: what governs it, and whether it may be
taken. -/
def consider (choice : Choice) : Play Session (RuleSet × Bool) := do
  let state := (← get).state
  let rules ← withGame fun _ => Game.withEngine fun files =>
    Engine.rulesFor files choice { state }
  let e ← .ofExcept (Engine.evaluateWith choice rules { state })
  pure (rules, e.isAvailable)

/-- What a verdict comes to. -/
def conclude (choice : Choice) (rules : RuleSet) : Verdict → Play Session ChoiceResult
  | .contested roll candidates => pure (.undecided roll candidates)
  | .settled roll outcome => follow choice rules roll outcome

/-- What a choice comes to once it is known what governs it and whether it may be taken. -/
def proceed (choice : Choice) (given : Json) (picked : Option RandomOutcome) :
    RuleSet × Bool → Play Session ChoiceResult
  | (rules, true) => settle choice given picked >>= conclude choice rules
  | (_, false) => pure (.refused choice)

theorem applyChoice_eq (choice : Choice) (given : Json) (picked : Option RandomOutcome) :
    applyChoice choice given picked = consider choice >>= proceed choice given picked := by
  unfold applyChoice consider
  simp only [bind_assoc, pure_bind]
  refine bind_congr fun s => bind_congr fun rules => bind_congr fun e => ?_
  cases e.isAvailable with
  | false => rfl
  | true =>
      rw [if_pos rfl, proceed]
      refine bind_congr fun verdict => ?_
      cases verdict <;> rfl

/-- What a roll comes to. -/
def judge (choice : Choice) (picked : Option RandomOutcome) (roll : Json) : Play Session Verdict := do
  let os ← .ofExcept (choice.matching roll)
  pure (Verdict.ofMatches roll picked os)

theorem settle_eq {choice : Choice} (h : choice.needsRoll = true) (given : Json)
    (picked : Option RandomOutcome) :
    settle choice given picked = rollFor given >>= judge choice picked := by
  rw [settle, if_pos h]
  rfl

/-- A choice may be taken if this is what is found out about it. -/
theorem isAvailable_eq (choice : Choice) (s : Session) :
    ((Game.evaluate s.state choice).result s.game).1.map Evaluation.isAvailable =
      ((consider choice).result s).1.map Prod.snd := by
  have hevaluate : ((Game.evaluate s.state choice).result s.game).1 =
      ((Engine.rulesFor s.game.files choice { state := s.state }).result s.game.engine).1 >>=
        fun rules => Engine.evaluateWith choice rules { state := s.state } :=
    congrArg Prod.fst (Engine.result_evaluate s.game.engine)
  have hconsider : (consider choice).result s =
      ((withGame fun _ => Game.withEngine fun files =>
        Engine.rulesFor files choice { state := s.state }) >>= fun rules =>
          Play.ofExcept (Engine.evaluateWith choice rules { state := s.state }) >>= fun e =>
            pure (rules, e.isAvailable)).result s := rfl
  rw [hevaluate, hconsider, Play.result_bind]
  cases hrules : (withGame fun _ => Game.withEngine fun files =>
      Engine.rulesFor files choice { state := s.state }).result s with
  | mk r u =>
      have hr : ((Engine.rulesFor s.game.files choice { state := s.state }).result
          s.game.engine).1 = r := congrArg Prod.fst hrules
      rw [hr]
      cases r with
      | error f => rfl
      | ok rules =>
          dsimp only
          rw [Play.result_bind]
          show (Engine.evaluateWith choice rules { state := s.state }).map _ = _
          cases Engine.evaluateWith choice rules { state := s.state } <;> rfl

/-- What a move draws for is known before it is made. -/
theorem draws_choose_iff {choice : Choice} {picked : Option RandomOutcome} {s : Session} :
    (Move.choose choice picked).Draws s ↔ choice.needsRoll = true ∧
      ((consider choice).result s).1.map Prod.snd = .ok true := by
  rw [← isAvailable_eq, map_eq_ok_iff]
  rfl

/-! ## Sessions in pairs -/

variable {g : Game} {a b : RollSource} {s t : Session} {α β : Type}

/-- The session with another source of rolls. -/
def withSource (s : Session) (source : RollSource) : Session :=
  { s with game := { s.game with engine := { s.game.engine with source } } }

theorem Twin.withSource (h : Twin g a b s t) (source : RollSource) :
    Twin g source b (s.withSource source) t :=
  ⟨h.state, ⟨h.left.book, h.left.catalog, h.left.table⟩, h.right, rfl, h.rightSource⟩

/-- **Whether two computations come to the same** from a pair of sessions, and leave a pair. -/
def Together (g : Game) (a b : RollSource) (p q : Play Session α) (s t : Session) : Prop :=
  (p.result s).1 = (q.result t).1 ∧ Twin g a b (p.result s).2 (q.result t).2

/-- What comes to the same may be gone on with. -/
theorem Together.bind {p q : Play Session α} {f : α → Play Session β} (h : Together g a b p q s t)
    (hf : ∀ x, Play.Agree (Twin g a b) (f x) (f x)) : Together g a b (p >>= f) (q >>= f) s t := by
  obtain ⟨hresult, htwin⟩ := h
  unfold Together
  rw [Play.result_bind, Play.result_bind]
  cases hp : p.result s with
  | mk r u =>
      cases hq : q.result t with
      | mk r' v =>
          rw [hp, hq] at hresult htwin
          obtain rfl : r = r' := hresult
          cases r with
          | error f => exact ⟨rfl, htwin⟩
          | ok x => exact hf x u v htwin

/-- A roll that is given is accepted if it is a number on the Random Number Table. -/
theorem result_rollFor_of_isRoll {given : Json} (h : IsRoll given) (s : Session) :
    (rollFor given).result s = (.ok given, s) := by
  have hfits : (Play.ofExcept (isBetween given minRoll maxRoll)).result s = (.ok true, s) := by
    rw [Play.result_ofExcept, h]
  rw [rollFor_of_given h.ne_null, Play.result_bind_of_ok hfits]
  rfl

/-- Rolling in one session and being given the roll in the other. -/
theorem together_rollFor {v : Json} (htwin : Twin g a b s t) (hv : a.roll.1 = .ok v)
    (hroll : IsRoll v) : Together g a.roll.2 b (rollFor .null) (rollFor v) s t := by
  have hleft : (rollFor .null).result s = (.ok v, s.withSource a.roll.2) := by
    have hsource := htwin.leftSource
    show (s.game.engine.source.roll.1, s.withSource s.game.engine.source.roll.2) = _
    rw [hsource, hv]
  rw [Together, hleft, result_rollFor_of_isRoll hroll]
  exact ⟨rfl, htwin.withSource a.roll.2⟩

/-! ## A choice -/

theorem agree_consider (choice : Choice) :
    Play.Agree (Twin g a b) (consider choice) (consider choice) := by
  unfold consider
  apply Play.agree_get_bind
  intro s t htwin
  rw [htwin.state]
  refine Play.agree_bind (agree_twin_rulesFor choice { state := s.state }) fun rules => ?_
  exact Play.agree_bind (Play.agree_ofExcept _) fun e => Play.agree_pure _

theorem agree_conclude (choice : Choice) (rules : RuleSet) (verdict : Verdict) :
    Play.Agree (Twin g a b) (conclude choice rules verdict) (conclude choice rules verdict) := by
  cases verdict with
  | contested roll candidates => exact Play.agree_pure _
  | settled roll outcome =>
      exact agree_follow_of agree_twin_bookOf agree_twin_moveTo choice rules roll outcome

theorem agree_judge (choice : Choice) (picked : Option RandomOutcome) (roll : Json) :
    Play.Agree (Twin g a b) (judge choice picked roll) (judge choice picked roll) :=
  Play.agree_bind (Play.agree_ofExcept _) fun _ => Play.agree_pure _

/-- **A choice comes to the same** when the value that it draws in one session is given in the other;
and when it draws none, it comes to the same without one. -/
theorem together_applyChoice {v : Json} (choice : Choice) (picked : Option RandomOutcome)
    (htwin : Twin g a b s t) (hv : a.roll.1 = .ok v) (hroll : IsRoll v) :
    ((Move.choose choice picked).Draws s ∧
      Together g a.roll.2 b (applyChoice choice .null picked) (applyChoice choice v picked) s t) ∨
    (¬ (Move.choose choice picked).Draws s ∧
      Together g a b (applyChoice choice .null picked) (applyChoice choice .null picked) s t) := by
  rw [draws_choose_iff, applyChoice_eq, applyChoice_eq]
  obtain ⟨hresult, hpair⟩ := agree_consider choice s t htwin
  cases hs : (consider choice).result s with
  | mk r s' =>
  cases ht : (consider choice).result t with
  | mk r' t' =>
  rw [hs, ht] at hresult hpair
  obtain rfl : r = r' := hresult
  have hpair : Twin g a b s' t' := hpair
  cases r with
  | error f =>
      refine Or.inr ⟨nofun, ?_⟩
      rw [Together, Play.result_bind_of_error hs, Play.result_bind_of_error ht]
      exact ⟨rfl, hpair⟩
  | ok found =>
      simp only [Together, Play.result_bind_of_ok hs, Play.result_bind_of_ok ht]
      obtain ⟨rules, available⟩ := found
      cases available with
      | false => exact Or.inr ⟨nofun, rfl, hpair⟩
      | true =>
          by_cases hneeds : choice.needsRoll = true
          · refine Or.inl ⟨⟨hneeds, rfl⟩, ?_⟩
            simp only [proceed, settle_eq hneeds]
            exact ((together_rollFor hpair hv hroll).bind (agree_judge choice picked)).bind
              (agree_conclude choice rules)
          · refine Or.inr ⟨fun hdraws => hneeds hdraws.1, ?_⟩
            simp only [proceed, settle, if_neg hneeds, pure_bind]
            exact agree_conclude choice rules _ s' t' hpair

/-! ## A round of combat -/

/-- A round that is fought with a roll. -/
def clash (state : GameState) (enemySkill enemyEndurance roll : Json) : Play Session RoundResult := do
  let result ← withGame fun _ => Game.withEngine fun files =>
    Engine.fight files state.character enemySkill enemyEndurance roll state.series
  endure result.playerEndurance
  pure result

theorem agree_clash (state : GameState) (enemySkill enemyEndurance roll : Json) :
    Play.Agree (Twin g a b) (clash state enemySkill enemyEndurance roll)
      (clash state enemySkill enemyEndurance roll) := by
  refine Play.agree_bind (agree_twin_round state.character enemySkill enemyEndurance roll state.series)
    fun result => ?_
  exact Play.agree_bind (agree_twin_endure _) fun _ => Play.agree_pure _

theorem result_fight (enemySkill enemyEndurance given : Json) (s : Session) :
    (fight enemySkill enemyEndurance given).result s =
      ((withGame fun _ => Game.withEngine fun _ => Engine.rollUnless given) >>=
        clash s.state enemySkill enemyEndurance).result s := by
  unfold fight clash
  exact Play.result_bind_of_ok rfl

/-- **A round comes to the same** when the value that it draws in one session is given in the other. -/
theorem together_fight {v : Json} (enemySkill enemyEndurance : Json) (htwin : Twin g a b s t)
    (hv : a.roll.1 = .ok v) (hroll : IsRoll v) :
    Together g a.roll.2 b (fight enemySkill enemyEndurance .null) (fight enemySkill enemyEndurance v)
      s t := by
  have hleft : (withGame fun _ => Game.withEngine fun _ => Engine.rollUnless .null).result s =
      (.ok v, s.withSource a.roll.2) := by
    have hsource := htwin.leftSource
    show (s.game.engine.source.roll.1, s.withSource s.game.engine.source.roll.2) = _
    rw [hsource, hv]
  have hright : (withGame fun _ => Game.withEngine fun _ => Engine.rollUnless v).result t =
      (.ok v, t) := by
    cases v with
    | null => exact absurd rfl hroll.ne_null
    | _ => rfl
  rw [Together, result_fight, result_fight, Play.result_bind_of_ok hleft,
    Play.result_bind_of_ok hright, htwin.state]
  exact agree_clash s.state enemySkill enemyEndurance v _ _ (htwin.withSource a.roll.2)

/-! ## Moves and runs -/

/-- **A move comes to the same** when what it draws in one session is given in the other. -/
theorem together_make {v : Json} (move : Move) (htwin : Twin g a b s t) (hv : a.roll.1 = .ok v)
    (hroll : IsRoll v) :
    (move.Draws s ∧ Together g a.roll.2 b (move.make .null) (move.make v) s t) ∨
      (¬ move.Draws s ∧ Together g a b (move.make .null) (move.make .null) s t) := by
  cases move with
  | choose choice picked =>
      refine (together_applyChoice choice picked htwin hv hroll).imp ?_ ?_
      · exact fun ⟨hdraws, h⟩ => ⟨hdraws, h.bind fun _ => Play.agree_pure _⟩
      · exact fun ⟨hdraws, h⟩ => ⟨hdraws, h.bind fun _ => Play.agree_pure _⟩
  | fight enemySkill enemyEndurance =>
      refine Or.inl ⟨trivial, ?_⟩
      exact (together_fight enemySkill enemyEndurance htwin hv hroll).bind fun _ => Play.agree_pure _

/-- **A recorded turn:** it has drawn one number on the Random Number Table, or it had no reason to draw
and has left the source as it was. -/
def Turn.IsRecorded (u : Turn) : Prop :=
  (u.move.Draws u.before ∧ IsRoll u.drawn ∧
      u.after.source.history = u.before.source.history ++ [u.drawn]) ∨
    (¬ u.move.Draws u.before ∧ u.after.source = u.before.source)

theorem Turn.drawn_of_history {u : Turn} {v : Json}
    (h : u.after.source.history = u.before.source.history ++ [v]) : u.drawn = v := by
  rw [Turn.drawn, h, List.drop_left]
  rfl

theorem Turn.drawn_of_source {u : Turn} (h : u.after.source = u.before.source) : u.drawn = .null := by
  rw [Turn.drawn, h, List.drop_length]
  rfl

/-- **One turn and its replay.** The replayed turn shows the same, and the sessions after both turns are
a pair again, with a source of the first one that has moved on. -/
theorem together_turn (move : Move) (hrolls : s.source.YieldsRolls) (htwin : Twin g s.source b s t) :
    ∃ u w, u = turnWith move .null s ∧ w = turnWith move u.drawn t ∧ u.IsRecorded ∧
      u.after.source.YieldsRolls ∧ w.shown = u.shown ∧ Twin g u.after.source b u.after w.after := by
  obtain ⟨v, hv, hroll⟩ := hrolls.now
  refine ⟨turnWith move .null s, turnWith move (turnWith move .null s).drawn t, rfl, rfl, ?_⟩
  rcases together_make move htwin hv hroll with ⟨hdraws, hsame, hpair⟩ | ⟨hdraws, hsame, hpair⟩
  · -- the move draws, and what it draws is given in the replay
    have hsource : (turnWith move .null s).after.source = s.source.roll.2 := hpair.leftSource
    have hhistory : (turnWith move .null s).after.source.history = s.source.history ++ [v] := by
      rw [hsource, RollSource.history_roll hv]
    have hdrawn : (turnWith move .null s).drawn = v := Turn.drawn_of_history hhistory
    have hrecorded : (turnWith move .null s).IsRecorded := by
      rw [Turn.IsRecorded, hdrawn]
      exact Or.inl ⟨hdraws, hroll, hhistory⟩
    have hshown : (turnWith move v t).shown = (turnWith move .null s).shown :=
      congrArg (move, ·) (Prod.ext hsame.symm hpair.state)
    rw [hdrawn, hsource]
    exact ⟨hrecorded, hrolls.next, hshown, hpair⟩
  · -- the move draws nothing, and nothing is given in the replay
    have hsource : (turnWith move .null s).after.source = s.source := hpair.leftSource
    have hdrawn : (turnWith move .null s).drawn = .null := Turn.drawn_of_source hsource
    have hshown : (turnWith move .null t).shown = (turnWith move .null s).shown :=
      congrArg (move, ·) (Prod.ext hsame.symm hpair.state)
    rw [hdrawn, hsource]
    exact ⟨Or.inr ⟨hdraws, hsource⟩, hrolls, hshown, hpair⟩

/-- **A run and its replay.** The sessions stay a pair from turn to turn, while the source of the first
one moves on. -/
theorem together_run (moves : List Move) (hrolls : s.source.YieldsRolls)
    (htwin : Twin g s.source b s t) :
    (∀ u ∈ record moves s, u.IsRecorded ∧ g.SameAnswers u.after.game) ∧
      (replay (record moves s) t).map Turn.shown = (record moves s).map Turn.shown ∧
      ∀ u ∈ replay (record moves s) t,
        u.after.source = u.before.source ∧ g.SameAnswers u.after.game := by
  induction moves generalizing s t with
  | nil => exact ⟨List.forall_mem_nil _, rfl, List.forall_mem_nil _⟩
  | cons move moves ih =>
      obtain ⟨u, w, rfl, hw, hrecorded, hyields, hshown, hpair⟩ := together_turn move hrolls htwin
      obtain ⟨hrecord, hshowns, hreplay⟩ := ih hyields hpair
      have hstay : w.after.source = w.before.source := by
        calc w.after.source = b := hpair.rightSource
          _ = t.source := htwin.rightSource.symm
          _ = w.before.source := by rw [hw]; rfl
      have hagain : replay (record (move :: moves) s) t =
          w :: replay (record moves (turnWith move .null s).after) w.after := by
        rw [record_cons, replay_cons, hw]
        rfl
      rw [hagain, record_cons, List.map_cons, List.map_cons, hshown, hshowns]
      exact ⟨List.forall_mem_cons.mpr ⟨⟨hrecorded, hpair.left⟩, hrecord⟩, rfl,
        List.forall_mem_cons.mpr ⟨⟨hstay, hpair.right⟩, hreplay⟩⟩

/-- **What has been played can be replayed.** A run with the rolls of a source, which yields numbers on
the Random Number Table, draws one number in each turn whose move draws, and none in any other turn.
When the drawn numbers are given in a session that is in the same state, at a table that answers alike,
each turn has the same reply and leads to the same state, and none of them draws. Neither run changes
the answers of its table. -/
theorem replay_echoes_record (moves : List Move) {s t : Session} (hrolls : s.source.YieldsRolls)
    (hstate : t.state = s.state) (hanswers : s.game.SameAnswers t.game) :
    (∀ u ∈ record moves s, u.IsRecorded ∧ s.game.SameAnswers u.after.game) ∧
      (replay (record moves s) t).map Turn.shown = (record moves s).map Turn.shown ∧
      ∀ u ∈ replay (record moves s) t,
        u.after.source = u.before.source ∧ s.game.SameAnswers u.after.game := by
  have htwin : Twin s.game s.source t.source s t :=
    ⟨hstate, .refl s.game, hanswers, rfl, rfl⟩
  exact together_run moves hrolls htwin

/-- A choice whose outcomes overlap. -/
def ford : Choice where
  target := .str "1"
  outcomes := [{ min := 0, max := 5, target := .str "1" }, { min := 2, max := 9, target := .str "7" }]

/-- A choice without outcomes. -/
def rest : Choice where
  target := .str "1"
  effects := [.str "endurance:heal:2"]

/-- A session at a table where the rolls are three and eight in turn. -/
def riverside : Session where
  game := { Sitting.visitTable with
    engine := { Sitting.visitTable.engine with source := .cycling [.int 3, .int 8] } }
  state := Sitting.stranger

/-- The moves: the first roll is contested, and the last one leads to a section that is not there. -/
def crossing : List Move :=
  [.choose ford none, .choose rest none, .choose ford none, .fight (.int 10) (.int 20)]

theorem yieldsRolls_riverside : riverside.source.YieldsRolls :=
  RollSource.yieldsRolls_cycling nofun (List.forall_mem_cons.mpr
    ⟨isRoll_int.mpr (by decide), List.forall_mem_singleton.mpr (isRoll_int.mpr (by decide))⟩)

/-- The rolls of a contested choice, of one that strays and of a round are drawn and given again. -/
theorem replay_echoes_record_crossing :
    (record crossing riverside).map (fun u => u.drawn.toWhole.toOption) =
        [some 3, none, some 8, some 3] ∧
      (replay (record crossing riverside) (riverside.withSource (.ofSeed 0))).map Turn.shown =
        (record crossing riverside).map Turn.shown := by
  have hreplay := replay_echoes_record crossing (t := riverside.withSource (.ofSeed 0))
    yieldsRolls_riverside rfl ⟨fun _ => rfl, fun _ => rfl, fun _ => rfl⟩
  exact ⟨by decide +kernel, hreplay.2.1⟩

end Session

end Questbook
