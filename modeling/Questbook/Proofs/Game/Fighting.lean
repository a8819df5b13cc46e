import Mathlib.Algebra.Order.BigOperators.Group.List
import Mathlib.Algebra.Order.Group.Int
import Questbook.Proofs.Combat.Round
import Questbook.Proofs.Game.Replay

set_option autoImplicit false

/-! # Fights

A fight goes on for a number of rounds, each of them against what the round before has left of the
enemy (`Session.fightOn`). What the rounds leave of a side is what it began with, less all that it has
lost, but not below zero, although each round floors it anew; and who is defeated stays so
(`Side.AddsUp`).

One round is fought with a roll that is given or drawn, and fails only if the line that tells of it
cannot be written (`Session.fight_whole`). A fight is a number of such rounds (`Session.Fights`), and
what is said of fights goes by induction on them: the rounds add up for both sides, nothing but
endurance changes, and all rounds are fought if no number is too long (`Session.fightOn_adds_up`). A
number that is too long does end a fight (`Session.fightOn_breaks_off`).
-/

namespace Questbook

/-! ## Fights and what they come to -/

/-- **What a fight comes to:** the rounds that are told, the fault that ends it, if there is one, and the
session that it leaves. -/
structure Fight where
  rounds : List RoundResult
  fault? : Option Fault
  left : Session

/-- **Fights on,** one round for each roll. A round that fails is the last one. -/
def Session.fightOn (s : Session) (enemySkill : Json) : Json → List Json → Fight
  | _, [] => ⟨[], none, s⟩
  | enemyEndurance, given :: rolls =>
    match (Session.fight enemySkill enemyEndurance given).result s with
    | (.error f, t) => ⟨[], some f, t⟩
    | (.ok r, t) =>
      let rest := t.fightOn enemySkill (.ofNumber r.enemyEndurance) rolls
      { rest with rounds := r :: rest.rounds }

/-- A side of a fight, by what a result tells of it. -/
structure Side where
  loss : RoundResult → Int
  left : RoundResult → Number
  isDefeated : RoundResult → Bool

namespace Side

/-- The side of the character. -/
def player : Side where
  loss := RoundResult.playerLoss
  left r := .whole r.playerEndurance
  isDefeated := RoundResult.playerDefeated

/-- The side of the enemy. -/
def enemy : Side where
  loss := RoundResult.enemyLoss
  left := RoundResult.enemyEndurance
  isDefeated := RoundResult.enemyDefeated

/-- What a side has lost in all. -/
def total (side : Side) (rounds : List RoundResult) : Int :=
  (rounds.map side.loss).sum

/-- **Whether the rounds of a fight add up** for a side that begins with some endurance. -/
structure AddsUp (side : Side) (start : Int) (rounds : List RoundResult) : Prop where
  loss : ∀ r ∈ rounds, 0 ≤ side.loss r
  left : ∀ fought r, fought ++ [r] <+: rounds →
    side.left r = .whole (max 0 (start - side.total (fought ++ [r])))
  defeated : ∀ r ∈ rounds, side.isDefeated r = true ↔ side.left r = .whole 0
  lasting : rounds.Pairwise fun r later => side.isDefeated r = true → side.isDefeated later = true

end Side

/-- **Whether the rounds of a fight add up** for both sides. -/
structure AddUp (endurance enemyEndurance : Int) (rounds : List RoundResult) : Prop where
  player : Side.player.AddsUp endurance rounds
  enemy : Side.enemy.AddsUp enemyEndurance rounds

/-- **Whether a round is the one that a table has** for a ratio and a roll. -/
structure RoundResult.IsLookedUp (m : Int) (t : CombatTable) (roll : Json) (r : RoundResult) : Prop where
  ratio : r.ratio = .whole m
  playerLoss : r.playerLoss = (t.losses (.whole m) roll).player
  enemyLoss : r.enemyLoss = (t.losses (.whole m) roll).enemy

/-- **Whether a session fights by a table:** it finds the table for the series of its state. -/
def Session.FightsBy (s : Session) (t : CombatTable) : Prop :=
  ∃ key, Series.keyOfJson s.state.series = .ok key ∧
    ((Engine.tableOf s.game.files key).result s.game.engine).1 = .ok t

/-- **Whether a round may be fought with a roll:** it is the one that is given, or else it comes from the
source, and is on the Random Number Table if all rolls of the source are. -/
structure Session.MayRoll (s : Session) (given roll : Json) : Prop where
  called : given ≠ .null → roll = given
  drawn : given = .null → s.source.YieldsRolls → IsRoll roll

/-- **Whether a fight is cut short:** the next round cannot be reported, although it adds up as the ones
before it do. -/
def Session.CutsShort (s : Session) (k e n : Int) (t : CombatTable) (rolls : List Json)
    (fight : Fight) : Prop :=
  ∃ f given roll r, fight.fault? = some f ∧ rolls[fight.rounds.length]? = some given ∧
    s.MayRoll given roll ∧ r.IsLookedUp (k - e) t roll ∧
    AddUp s.state.character.endurance n (fight.rounds ++ [r]) ∧ r.report roll = .error f

/-! ## Sums -/

namespace Side

variable {side : Side} {start : Int} {r : RoundResult} {rounds : List RoundResult}

theorem total_cons (r : RoundResult) (rounds : List RoundResult) :
    side.total (r :: rounds) = side.loss r + side.total rounds := by
  simp [total]

theorem total_nonneg (h : ∀ r ∈ rounds, 0 ≤ side.loss r) : 0 ≤ side.total rounds := by
  refine List.sum_nonneg fun n hn => ?_
  obtain ⟨r, hr, rfl⟩ := List.mem_map.mp hn
  exact h r hr

theorem addsUp_nil (side : Side) (start : Int) : side.AddsUp start [] where
  loss := List.forall_mem_nil _
  left fought r h := by simp at h
  defeated := List.forall_mem_nil _
  lasting := .nil

/-- Once nothing is left, a side is defeated in every round. -/
theorem AddsUp.defeated_of_nothing (h : side.AddsUp 0 rounds) :
    ∀ r ∈ rounds, side.isDefeated r = true := by
  intro r hr
  obtain ⟨fought, later, rfl⟩ := List.append_of_mem hr
  have hbegins : fought ++ [r] <+: fought ++ r :: later :=
    ⟨later, by rw [List.append_assoc, List.singleton_append]⟩
  have hlost : 0 ≤ side.total (fought ++ [r]) :=
    total_nonneg fun x hx => h.loss x (hbegins.subset hx)
  rw [h.defeated r hr, h.left fought r hbegins]
  exact congrArg Number.whole (by omega)

/-- **A round and what follows it add up:** flooring what the round leaves changes nothing later on. -/
theorem AddsUp.cons (hloss : 0 ≤ side.loss r)
    (hleft : side.left r = .whole (max 0 (start - side.loss r)))
    (hdefeated : side.isDefeated r = true ↔ start - side.loss r ≤ 0)
    (hrest : side.AddsUp (max 0 (start - side.loss r)) rounds) : side.AddsUp start (r :: rounds) := by
  have hnothing : side.isDefeated r = true ↔ max 0 (start - side.loss r) = 0 := by
    rw [hdefeated]
    omega
  refine ⟨List.forall_mem_cons.mpr ⟨hloss, hrest.loss⟩, ?_,
    List.forall_mem_cons.mpr ⟨?_, hrest.defeated⟩, List.pairwise_cons.mpr ⟨?_, hrest.lasting⟩⟩
  · intro fought x hx
    cases fought with
    | nil =>
        obtain ⟨rfl, -⟩ := List.cons_prefix_cons.mp hx
        rw [hleft, List.nil_append, total_cons]
        simp [total]
    | cons y fought =>
        obtain ⟨rfl, hbegins⟩ := List.cons_prefix_cons.mp hx
        -- where this round meets the floor, what is lost from then on keeps the sum below it
        have hlost : 0 ≤ side.total (fought ++ [x]) :=
          total_nonneg fun z hz => hrest.loss z (hbegins.subset hz)
        rw [hrest.left fought x hbegins, List.cons_append, total_cons]
        exact congrArg Number.whole (by omega)
  · rw [hnothing, hleft, Number.whole.injEq]
  · intro later hlater hover
    rw [hnothing.mp hover] at hrest
    exact hrest.defeated_of_nothing later hlater

end Side

/-- What the last round leaves of the character is what all rounds leave. -/
theorem AddUp.getLastD_playerEndurance {endurance enemyEndurance : Int} {rounds : List RoundResult}
    (h : AddUp endurance enemyEndurance rounds) :
    (rounds.map RoundResult.playerEndurance).getLastD endurance =
      if rounds = [] then endurance else max 0 (endurance - Side.player.total rounds) := by
  rcases List.eq_nil_or_concat' rounds with rfl | ⟨fought, r, rfl⟩
  · rfl
  · rw [if_neg (by simp), List.map_append, List.map_singleton, List.getLastD_concat]
    exact Number.whole.inj (h.player.left fought r (List.prefix_refl _))

/-! ## Rolls that can be shown -/

theorem IsRoll.hasText {roll : Json} (h : IsRoll roll) : roll.HasText := by
  cases roll with
  | int n =>
      obtain ⟨hlow, hhigh⟩ := isRoll_int.mp h
      exact Json.hasText_int (isWritable_of_lt_ten (by omega))
  | null | bool | float | str => exact ⟨_, rfl⟩
  | arr | obj => cases h

/-- A roll can be shown if the one that is given can, and the source yields rolls where none is given. -/
theorem Session.MayRoll.hasText {s : Session} {given roll : Json} (h : s.MayRoll given roll)
    (hgiven : given.HasText) (hsource : given = .null → s.source.YieldsRolls) : roll.HasText := by
  by_cases hnull : given = .null
  · exact (h.drawn hnull (hsource hnull)).hasText
  · rw [h.called hnull]
    exact hgiven

/-! ## One round -/

theorem RollSource.exists_roll (source : RollSource) : ∃ v, source.roll.1 = .ok v := by
  cases source with
  | script values n => exact ⟨values n, rfl⟩
  | seeded s =>
      obtain ⟨v, hv, -⟩ := (yieldsRolls_seeded s).now
      exact ⟨v, hv⟩

/-- The state with another endurance of the character. -/
def GameState.withEndurance (s : GameState) (endurance : Int) : GameState :=
  { s with character := { s.character with endurance } }

namespace Session

/-- The session with another endurance of the character. -/
def withEndurance (s : Session) (endurance : Int) : Session :=
  { s with state := s.state.withEndurance endurance }

variable {s u : Session} {t : CombatTable} {k e n : Int}

theorem FightsBy.of_same (h : s.FightsBy t) (hanswers : s.game.SameAnswers u.game)
    (hseries : u.state.series = s.state.series) : u.FightsBy t := by
  obtain ⟨key, hkey, htable⟩ := h
  exact ⟨key, by rw [hseries, hkey], (hanswers.table key).trans htable⟩

/-- What a round leaves as it was: the state, the table, and a source that yields rolls. -/
structure StaysPut (s u : Session) : Prop where
  state : u.state = s.state
  answers : s.game.SameAnswers u.game
  source : s.source.YieldsRolls → u.source.YieldsRolls

theorem MayRoll.of_source {given roll : Json} (h : u.MayRoll given roll)
    (hsource : s.source.YieldsRolls → u.source.YieldsRolls) : s.MayRoll given roll :=
  ⟨h.called, fun hnull hyields => h.drawn hnull (hsource hyields)⟩

/-- There is always a roll. -/
theorem exists_rollUnless (s : Session) (given : Json) :
    ∃ roll u, (withGame fun _ => Game.withEngine fun _ => Engine.rollUnless given).result s =
      (.ok roll, u) ∧ s.MayRoll given roll ∧ s.StaysPut u := by
  by_cases hgiven : given = .null
  · subst hgiven
    obtain ⟨roll, hroll⟩ := s.source.exists_roll
    refine ⟨roll, s.withSource s.source.roll.2, ?_, ⟨nofun, fun _ hyields => ?_⟩,
      ⟨rfl, ⟨fun _ => rfl, fun _ => rfl, fun _ => rfl⟩, fun h => h.next⟩⟩
    · show (s.source.roll.1, s.withSource s.source.roll.2) = _
      rw [hroll]
    · obtain ⟨v, hv, hon⟩ := hyields.now
      obtain rfl : v = roll := Except.ok.inj (hv.symm.trans hroll)
      exact hon
  · refine ⟨given, s, ?_, ⟨fun _ => rfl, fun hnull => absurd hnull hgiven⟩,
      ⟨rfl, .refl s.game, id⟩⟩
    cases given with
    | null => exact absurd rfl hgiven
    | _ => rfl

/-- With its roll, a round is resolved by the table. -/
theorem result_round (hby : s.FightsBy t) (enemySkill enemyEndurance roll : Json) :
    ∃ u, (withGame fun _ => Game.withEngine fun files => Engine.fight files s.state.character
        enemySkill enemyEndurance roll s.state.series).result s =
      (resolveRound s.state.character enemySkill enemyEndurance roll t, u) ∧ s.StaysPut u := by
  obtain ⟨key, hkey, htable⟩ := hby
  have hfight : (Engine.fight s.game.files s.state.character enemySkill enemyEndurance roll
      s.state.series).result s.game.engine =
        (resolveRound s.state.character enemySkill enemyEndurance roll t,
          ((Engine.tableOf s.game.files key).result s.game.engine).2) := by
    have hlook := Engine.result_lookUp (Engine.tableOf s.game.files)
      (fun table => resolveRound s.state.character enemySkill enemyEndurance roll table)
      s.state.series s.game.engine
    simp only [hkey, htable] at hlook
    exact hlook
  -- the table may have been loaded for this round, which changes no answer
  have hsame := Engine.sameAnswers_tableOf s.game.files key s.game.engine
  refine ⟨{ s with game := { s.game with
    engine := ((Engine.tableOf s.game.files key).result s.game.engine).2 } }, ?_,
    ⟨rfl, ⟨fun _ => rfl, hsame.catalog, hsame.table⟩, id⟩⟩
  rw [withGame, Play.result_ofFunction, Game.result_withEngine hfight]

/-- The round that a session fights with a roll against an enemy with whole numbers. -/
def roundWith (s : Session) (k e n : Int) (t : CombatTable) (roll : Json) : RoundResult :=
  wholeRound k s.state.character.endurance e n (t.losses (.whole (k - e)) roll)

/-- **A round against an enemy with whole numbers** takes endurance from the character, or cannot be
reported and takes nothing. -/
theorem fight_whole (hby : s.FightsBy t)
    (hskill : s.state.character.effectiveCombatSkill = .ok (.int k)) (e n : Int) (given : Json) :
    ∃ roll u, s.MayRoll given roll ∧ s.StaysPut u ∧
      ((∃ line, (s.roundWith k e n t roll).report roll = .ok line ∧
        (fight (.int e) (.int n) given).result s =
          (.ok (s.roundWith k e n t roll),
            u.withEndurance (s.roundWith k e n t roll).playerEndurance)) ∨
      ∃ f, (s.roundWith k e n t roll).report roll = .error f ∧
        (fight (.int e) (.int n) given).result s = (.error f, u)) := by
  obtain ⟨roll, v, hroll, hmay, hstays⟩ := s.exists_rollUnless given
  obtain ⟨u, hround, hstays'⟩ :=
    result_round (hby.of_same hstays.answers (by rw [hstays.state])) (.int e) (.int n) roll
  rw [hstays.state, resolveRound_int hskill] at hround
  refine ⟨roll, u, hmay, ⟨hstays'.state.trans hstays.state, hstays.answers.trans hstays'.answers,
    hstays'.source ∘ hstays.source⟩, ?_⟩
  rw [result_fight, Play.result_bind_of_ok hroll, clash]
  unfold roundWith
  cases hreport : (wholeRound k s.state.character.endurance e n
      (t.losses (.whole (k - e)) roll)).report roll with
  | error f =>
      rw [hreport] at hround
      exact Or.inr ⟨f, rfl, Play.result_bind_of_error hround⟩
  | ok line =>
      rw [hreport] at hround
      exact Or.inl ⟨line, rfl, Play.result_bind_of_ok hround⟩

/-! ## Rounds one after the other -/

/-- **How a fight can go** against an enemy with whole numbers. -/
inductive Fights (k e : Int) (t : CombatTable) : Session → Int → List Json → Fight → Prop
  /-- All rounds have been fought. -/
  | ends (s : Session) (n : Int) : Fights k e t s n [] ⟨[], none, s⟩
  /-- A round cannot be reported. -/
  | breaks {s u : Session} {n : Int} {given roll : Json} {rolls : List Json} {f : Fault}
      (rolled : s.MayRoll given roll) (stays : s.StaysPut u)
      (unreported : (s.roundWith k e n t roll).report roll = .error f) :
      Fights k e t s n (given :: rolls) ⟨[], some f, u⟩
  /-- A round is fought, and the next ones are against what it leaves. -/
  | goesOn {s u : Session} {n : Int} {given roll : Json} {rolls : List Json} {rest : Fight}
      (rolled : s.MayRoll given roll) (stays : s.StaysPut u)
      (next : Fights k e t
        (u.withEndurance (max 0 (s.state.character.endurance - (t.losses (.whole (k - e)) roll).player)))
        (max 0 (n - (t.losses (.whole (k - e)) roll).enemy)) rolls rest) :
      Fights k e t s n (given :: rolls)
        { rest with rounds := s.roundWith k e n t roll :: rest.rounds }

/-- **A fight goes in one of these ways.** -/
theorem fights_fightOn (hby : s.FightsBy t)
    (hskill : s.state.character.effectiveCombatSkill = .ok (.int k)) (e n : Int)
    (rolls : List Json) : Fights k e t s n rolls (s.fightOn (.int e) (.int n) rolls) := by
  induction rolls generalizing s n with
  | nil => exact .ends s n
  | cons given rolls ih =>
      obtain ⟨roll, u, hrolled, hstays, ⟨line, -, hfight⟩ | ⟨f, hreport, hfight⟩⟩ :=
        fight_whole hby hskill e n given
      · -- the next round is fought by the same table, and with the same combat skill
        simp only [fightOn, hfight]
        refine .goesOn hrolled hstays (ih ?_ ?_ _)
        · exact hby.of_same hstays.answers (by rw [← hstays.state]; rfl)
        · show u.state.character.effectiveCombatSkill = _
          rw [hstays.state, hskill]
      · simp only [fightOn, hfight]
        exact .breaks hrolled hstays hreport

namespace Fights

variable {rolls : List Json} {fight : Fight}

/-- **Nothing but endurance changes,** and it is what the last round has left. -/
theorem state_left (h : Fights k e t s n rolls fight) :
    fight.left.state = s.state.withEndurance
      ((fight.rounds.map RoundResult.playerEndurance).getLastD s.state.character.endurance) := by
  induction h with
  | ends s n => rfl
  | breaks rolled stays unreported => exact stays.state
  | goesOn rolled stays next ih =>
      rw [ih, List.map_cons, List.getLastD_cons]
      simp only [withEndurance, stays.state]
      rfl

theorem addUp_roundWith (hlosses : t.AllLosses (0 ≤ ·)) (roll : Json) {rounds : List RoundResult}
    (h : AddUp (max 0 (s.state.character.endurance - (t.losses (.whole (k - e)) roll).player))
      (max 0 (n - (t.losses (.whole (k - e)) roll).enemy)) rounds) :
    AddUp s.state.character.endurance n (s.roundWith k e n t roll :: rounds) := by
  obtain ⟨hplayer, henemy⟩ := hlosses.losses (Int.le_refl 0) (.whole (k - e)) roll
  exact ⟨.cons hplayer rfl decide_eq_true_iff h.player, .cons henemy rfl decide_eq_true_iff h.enemy⟩

/-- **The rounds of a fight add up.** -/
theorem addUp (h : Fights k e t s n rolls fight) (hlosses : t.AllLosses (0 ≤ ·)) :
    AddUp s.state.character.endurance n fight.rounds := by
  induction h with
  | ends s n => exact ⟨Side.addsUp_nil _ _, Side.addsUp_nil _ _⟩
  | breaks rolled stays unreported => exact ⟨Side.addsUp_nil _ _, Side.addsUp_nil _ _⟩
  | goesOn rolled stays next ih => exact addUp_roundWith hlosses _ ih

/-- **A fight that ends early is cut short.** -/
theorem complete_or_cutsShort (h : Fights k e t s n rolls fight) (hlosses : t.AllLosses (0 ≤ ·)) :
    (fight.fault? = none ∧ fight.rounds.length = rolls.length) ∨
      s.CutsShort k e n t rolls fight := by
  induction h with
  | ends s n => exact Or.inl ⟨rfl, rfl⟩
  | breaks rolled stays unreported =>
      refine Or.inr ⟨_, _, _, _, rfl, rfl, rolled, ⟨rfl, rfl, rfl⟩, ?_, unreported⟩
      exact addUp_roundWith hlosses _ ⟨Side.addsUp_nil _ _, Side.addsUp_nil _ _⟩
  | goesOn rolled stays next ih =>
      rcases ih with ⟨hfault, hlength⟩ |
        ⟨f, given, roll, r, hfault, hgiven, hroll, hlooked, hadd, hreport⟩
      · exact Or.inl ⟨hfault, congrArg Nat.succ hlength⟩
      · exact Or.inr ⟨f, given, roll, r, hfault, hgiven, hroll.of_source stays.source, hlooked,
          addUp_roundWith hlosses _ hadd, hreport⟩

/-- Each round is the one that the table has for its roll. -/
theorem forall₂_isLookedUp (h : Fights k e t s n rolls fight) :
    List.Forall₂ (fun given r => ∃ roll, s.MayRoll given roll ∧ r.IsLookedUp (k - e) t roll)
      (rolls.take fight.rounds.length) fight.rounds := by
  induction h with
  | ends s n => exact .nil
  | breaks rolled stays unreported => exact .nil
  | goesOn rolled stays next ih =>
      refine .cons ⟨_, rolled, rfl, rfl, rfl⟩ (ih.imp ?_)
      rintro given r ⟨roll, hroll, hlooked⟩
      exact ⟨roll, hroll.of_source stays.source, hlooked⟩

/-- **Where all numbers are short enough,** a fight goes on to its end. -/
theorem fault?_eq_none (h : Fights k e t s n rolls fight) (hlosses : t.AllLosses (0 ≤ ·))
    (hshort : t.AllLosses IsWritable) (hratio : IsWritable (k - e))
    (hendurance : IsWritable s.state.character.endurance) (henemy : IsWritable n)
    (hrolls : ∀ given ∈ rolls, given.HasText) (hsource : .null ∈ rolls → s.source.YieldsRolls) :
    fight.fault? = none := by
  have hzero : IsWritable 0 := isWritable_of_lt_ten (by decide)
  induction h with
  | ends s n => rfl
  | @breaks s u n given roll rolls f rolled stays unreported =>
      have htold : (s.roundWith k e n t roll).IsTellable :=
        isTellable_wholeRound hratio hendurance henemy (hlosses.losses (Int.le_refl 0) _ roll)
          (hshort.losses hzero _ roll)
      have hroll : roll.HasText := rolled.hasText (hrolls given List.mem_cons_self)
        fun hnull => hsource (hnull ▸ List.mem_cons_self)
      obtain ⟨line, hline⟩ := htold.report hroll
      cases unreported.symm.trans hline
  | @goesOn s u n given roll rolls rest rolled stays next ih =>
      -- endurance does not grow, so that the next round is as short as this one
      obtain ⟨hplayer, hlost⟩ := hlosses.losses (Int.le_refl 0) (.whole (k - e)) roll
      exact ih (hendurance.floored hplayer) (henemy.floored hlost)
        (fun x hx => hrolls x (List.mem_cons_of_mem _ hx))
        fun hnull => stays.source (hsource (List.mem_cons_of_mem _ hnull))

end Fights

/-- **A fight adds up.** In a session with whole combat skill that fights by a table without negative
losses, rounds against an enemy with whole numbers have the losses of the table; what they leave of a side
is what it began with less all that it has lost, but not below zero; a side is defeated as soon as nothing
is left of it, and from then on. Nothing but the endurance of the character changes. All rounds are
fought, unless the line that tells of a round cannot be written, as it can if no number is too long. -/
theorem fightOn_adds_up (hby : s.FightsBy t)
    (hskill : s.state.character.effectiveCombatSkill = .ok (.int k)) (hlosses : t.AllLosses (0 ≤ ·))
    (e n : Int) (rolls : List Json) :
    ∃ fight, s.fightOn (.int e) (.int n) rolls = fight ∧
      List.Forall₂ (fun given r => ∃ roll, s.MayRoll given roll ∧ r.IsLookedUp (k - e) t roll)
        (rolls.take fight.rounds.length) fight.rounds ∧
      AddUp s.state.character.endurance n fight.rounds ∧
      fight.left.state = s.state.withEndurance
        (if fight.rounds = [] then s.state.character.endurance
          else max 0 (s.state.character.endurance - Side.player.total fight.rounds)) ∧
      ((fight.fault? = none ∧ fight.rounds.length = rolls.length) ∨
        s.CutsShort k e n t rolls fight) ∧
      (t.AllLosses IsWritable → IsWritable (k - e) → IsWritable s.state.character.endurance →
        IsWritable n → (∀ given ∈ rolls, given.HasText) → (.null ∈ rolls → s.source.YieldsRolls) →
          fight.fault? = none) := by
  have hfights := fights_fightOn hby hskill e n rolls
  have hadd := hfights.addUp hlosses
  refine ⟨_, rfl, hfights.forall₂_isLookedUp, hadd, ?_, hfights.complete_or_cutsShort hlosses,
    hfights.fault?_eq_none hlosses⟩
  rw [hfights.state_left, hadd.getLastD_playerEndurance]

/-! ## A duel -/

/-- The table of a duel. -/
def duelTable : CombatTable where
  bands := [{ min := -20, max := 20, rows := [
    { roll := 0, playerLoss := 3, enemyLoss := 6 }, { roll := 1, playerLoss := 4, enemyLoss := 2 }] }]

/-- A session in which a character with some combat skill and five endurance fights by it. -/
def duel (combatSkill : Int) : Session where
  game := {
    files := {}
    shelf := { directory := {} }
    slots := { directory := {} }
    engine := {
      loaders := { Loaders.standard with table := fun _ _ => .ok duelTable }
      source := .cycling [.int 0] }
    newId := "c" }
  state := {
    series := .str "lw"
    character := { id := .str "c", combatSkill, endurance := 5 } }

theorem fightsBy_duel (combatSkill : Int) : (duel combatSkill).FightsBy duelTable :=
  ⟨some "lw", rfl, rfl⟩

theorem effectiveCombatSkill_duel (combatSkill : Int) :
    (duel combatSkill).state.character.effectiveCombatSkill = .ok (.int combatSkill) := by
  have hadd := Json.addWhole_int 0 combatSkill
  rw [Int.zero_add] at hadd
  exact hadd

theorem allLosses_duelTable : duelTable.AllLosses fun loss => 0 ≤ loss ∧ loss.natAbs < 10 := by
  simp [CombatTable.AllLosses, duelTable]

theorem isRoll_duel : ∀ given ∈ [Json.int 0, .int 1, .int 0], IsRoll given := by
  simp [isRoll_int]

/-- The character falls in the second round, and is defeated in the third one, too. -/
theorem fightOn_adds_up_duel :
    (duel 15).FightsBy duelTable ∧
      (duel 15).state.character.effectiveCombatSkill = .ok (.int 15) ∧
      duelTable.AllLosses (0 ≤ ·) ∧
      ∃ fight, (duel 15).fightOn (.int 10) (.int 9) [.int 0, .int 1, .int 0] = fight ∧
        fight.fault? = none ∧ fight.rounds.length = 3 ∧ AddUp 5 9 fight.rounds ∧
        fight.rounds.map (fun r => (r.playerEndurance, r.playerDefeated)) =
          [(2, false), (0, true), (0, true)] ∧
        fight.left.state = (duel 15).state.withEndurance 0 := by
  have hlosses : duelTable.AllLosses (0 ≤ ·) := allLosses_duelTable.mono fun _ h => h.1
  obtain ⟨fight, hfight, -, hadd, hstate, hends, htold⟩ := fightOn_adds_up (fightsBy_duel 15)
    (effectiveCombatSkill_duel 15) hlosses 10 9 [.int 0, .int 1, .int 0]
  have hnone : fight.fault? = none :=
    htold (allLosses_duelTable.mono fun _ h => isWritable_of_lt_ten h.2)
      (isWritable_of_lt_ten (by decide)) (isWritable_of_lt_ten (by decide))
      (isWritable_of_lt_ten (by decide)) (fun given h => (isRoll_duel given h).hasText) (by simp)
  have hlength : fight.rounds.length = 3 := by
    rcases hends with ⟨-, hlength⟩ | ⟨f, -, -, -, hfault, -⟩
    · exact hlength
    · cases hnone.symm.trans hfault
  have hrounds : fight.rounds.map (fun r => (r.playerEndurance, r.playerDefeated)) =
      [(2, false), (0, true), (0, true)] := by
    rw [← hfight]
    decide +kernel
  have htotal : Side.player.total fight.rounds = 10 := by
    rw [← hfight]
    decide +kernel
  rw [if_neg (List.ne_nil_of_length_eq_add_one hlength), htotal] at hstate
  exact ⟨fightsBy_duel 15, effectiveCombatSkill_duel 15, hlosses, fight, hfight, hnone, hlength, hadd,
    hrounds, hstate⟩

/-- **A ratio that is too long to be written** ends a fight before its first round. -/
theorem fightOn_breaks_off :
    (duel (Numeral.writeLimit - 1)).FightsBy duelTable ∧
      (duel (Numeral.writeLimit - 1)).state.character.effectiveCombatSkill =
        .ok (.int (Numeral.writeLimit - 1)) ∧
      duelTable.AllLosses (0 ≤ ·) ∧ IsRoll (.int 0) ∧
      ((duel (Numeral.writeLimit - 1)).fightOn (.int (-1)) (.int 9) [.int 0]).rounds = [] ∧
      ((duel (Numeral.writeLimit - 1)).fightOn (.int (-1)) (.int 9) [.int 0]).fault? =
        some .longNumeral := by
  have hroll : IsRoll (.int 0) := isRoll_duel _ List.mem_cons_self
  have hlong : ¬ IsWritable ((Numeral.writeLimit : Int) - 1 - -1) := by
    unfold IsWritable
    omega
  refine ⟨fightsBy_duel _, effectiveCombatSkill_duel _, allLosses_duelTable.mono fun _ h => h.1, hroll,
    ?_⟩
  obtain ⟨roll, u, hrolled, -, hround⟩ :=
    fight_whole (fightsBy_duel (Numeral.writeLimit - 1)) (effectiveCombatSkill_duel _) (-1) 9 (.int 0)
  obtain rfl : roll = .int 0 := hrolled.called nofun
  rw [RoundResult.report_of_long_ratio rfl hlong hroll.hasText] at hround
  rcases hround with ⟨line, hline, -⟩ | ⟨f, hf, hfight⟩
  · cases hline
  · cases hf
    rw [fightOn, hfight]
    exact ⟨rfl, rfl⟩

end Session

end Questbook
