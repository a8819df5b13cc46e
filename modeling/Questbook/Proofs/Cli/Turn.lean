import Questbook.Cli.Run
import Questbook.Proofs.Cli.Showing

set_option autoImplicit false

/-! # Commands and turns

A turn of a session takes the choice at a place of the current section with a roll, and once more if
several outcomes match and one of them is picked (`Session.turn`). It stays in the game, and it changes
nothing unless a choice is applied (`Session.turn_spec`).

The command that takes a choice follows the turn of a session that is alike (`Cli.follows_choose`): it
saves and shows the state that the turn has reached if a choice was applied, and otherwise ends in
failure with the files as they were.
-/

namespace Questbook

/-! ## Turns -/

namespace Session

/-- Takes a choice with a roll, and once more with the outcome at a place of those that match, counted
from one, if several do and one is picked. -/
def takeChoice (choice : Choice) (roll : Int) (pick : Option Int) : Play Session ChoiceResult := do
  let first ← applyChoice choice (.int roll) none
  match first, pick with
  | .undecided _ candidates, some n =>
    match Cli.nth? candidates n with
    | some picked => applyChoice choice (.int roll) (some picked)
    | none => pure first
  | result, _ => pure result

/-- **A turn:** takes the choice at a place of the current section, counted from one, if there is
one. -/
def turn (place roll : Int) (pick : Option Int) : Play Session (Option ChoiceResult) := do
  match ← withGame Game.currentSection with
  | none => pure none
  | some s =>
    match Cli.nth? s.choices place with
    | none => pure none
    | some choice => do
      let result ← takeChoice choice roll pick
      pure (some result)

/-- **Whether a choice was applied** in a turn. -/
def Applied (r : Except Fault (Option ChoiceResult)) : Prop :=
  ∃ result, r = .ok (some result) ∧ result.isApplied = true

instance : (r : Except Fault (Option ChoiceResult)) → Decidable (Applied r)
  | .ok (some result) => decidable_of_iff (result.isApplied = true)
      ⟨fun h => ⟨result, rfl, h⟩, fun ⟨_, hr, h⟩ => by cases hr; exact h⟩
  | .ok none => .isFalse fun ⟨_, hr, _⟩ => by cases hr
  | .error _ => .isFalse fun ⟨_, hr, _⟩ => by cases hr

theorem not_applied_of_map {r : Except Fault ChoiceResult} (h : ¬ Applied (r.map some)) :
    ∀ result, r = .ok result → result.isApplied = false := by
  rintro result rfl
  exact Bool.eq_false_iff.mpr fun happlied => h ⟨result, rfl, happlied⟩

variable {w : Setting} {s t : Session} {choice : Choice} {place roll : Int} {pick : Option Int}
  {first : GameState}

/-! ## What a turn does -/

/-- Whether a session stays in a game, in the same state unless something is applied. -/
structure Stays (first : GameState) (s t : Session) (applied : Prop) : Prop where
  belongs : t.state.Belongs first
  unchanged : ¬ applied → t.state = s.state

theorem Takes.stays {picked : Option RandomOutcome} {r : Except Fault ChoiceResult}
    (h : s.Takes choice (.int roll) picked r t) (hs : s.state.Belongs first) :
    Stays first s t (Applied (r.map some)) :=
  ⟨h.belongs hs, fun hnot => h.state_eq_of_not_applied hs.sound.toWellTyped (not_applied_of_map hnot)⟩

theorem stays_of_takeChoice {r : Except Fault ChoiceResult} (hs : s.state.Belongs first)
    (h : (takeChoice choice roll pick).result s = (r, t)) :
    Stays first s t (Applied (r.map some)) := by
  unfold takeChoice at h
  rcases Play.result_bind_eq h with ⟨f, rfl, hfirst⟩ | ⟨result, u, hfirst, h⟩
  · exact (takes_of_applyChoice hfirst).stays hs
  have hu := (takes_of_applyChoice hfirst).stays hs
  split at h
  · next _ candidates n =>
    -- the first try has decided nothing, so the second one starts in the same state
    have hsame : u.state = s.state := by
      apply hu.unchanged
      rintro ⟨_, hr, happlied⟩
      cases hr
      cases happlied
    split at h
    · next picked _ =>
      have ht := (takes_of_applyChoice h).stays hu.belongs
      exact ⟨ht.belongs, fun hnot => (ht.unchanged hnot).trans hsame⟩
    · cases h
      exact hu
  · cases h
    exact hu

/-- **A turn stays in the game,** and changes nothing unless a choice is applied. -/
theorem turn_spec {r : Except Fault (Option ChoiceResult)} (hs : s.state.Belongs first)
    (h : (turn place roll pick).result s = (r, t)) : Stays first s t (Applied r) := by
  have hkept : ∀ u : Session, s.Keeps u → ∀ q, Stays first s u q := fun u hu q =>
    ⟨by rwa [hu.state], fun _ => hu.state⟩
  unfold turn at h
  have hlooked := keeps_currentSection s
  rcases Play.result_bind_eq h with ⟨f, rfl, hfound⟩ | ⟨found, u, hfound, h⟩
  · rw [hfound] at hlooked
    exact hkept t hlooked _
  rw [hfound] at hlooked
  split at h
  · cases h
    exact hkept t hlooked _
  split at h
  · cases h
    exact hkept t hlooked _
  next choice _ =>
  rcases Play.result_bind_eq h with ⟨f, rfl, htake⟩ | ⟨result, v, htake, h⟩
  · have ht := stays_of_takeChoice (by rwa [hlooked.state]) htake
    exact ⟨ht.belongs, fun hnot => (ht.unchanged hnot).trans hlooked.state⟩
  · cases h
    have ht := stays_of_takeChoice (by rwa [hlooked.state]) htake
    exact ⟨ht.belongs, fun hnot => (ht.unchanged hnot).trans hlooked.state⟩

/-- Turns come to the same in sessions that are alike. -/
theorem agree_turn : Play.Agree (Alike w) (turn place roll pick) (turn place roll pick) := by
  unfold turn
  refine Play.agree_bind agree_currentSection fun found => ?_
  split
  · exact Play.agree_pure _
  split
  · exact Play.agree_pure _
  refine Play.agree_bind ?_ fun result => Play.agree_pure _
  unfold takeChoice
  refine Play.agree_bind (agree_applyChoice _ roll none) fun first => ?_
  split
  · split
    · exact agree_applyChoice _ roll _
    · exact Play.agree_pure _
  · exact Play.agree_pure _

/-- **A turn that takes a choice has found the rules.** -/
theorem exists_catalog_of_turn {result : ChoiceResult} (hserves : s.game.Serves w)
    (hplays : s.state.PlaysIn w) (h : (turn place roll pick).result s = (.ok (some result), t)) :
    ∃ catalog, w.catalog = .ok catalog := by
  obtain ⟨g, hg, hg', -⟩ := hserves.result_currentSection hplays
  have hsection : (withGame Game.currentSection).result s =
      (.ok (w.book.sectionAt? s.state.sectionId), { s with game := g }) := by
    unfold withGame
    rw [Play.result_ofFunction, hg]
  unfold turn at h
  rw [Play.result_bind_of_ok hsection] at h
  split at h
  · cases h
  split at h
  · cases h
  rcases Play.result_bind_eq h with ⟨f, hf, -⟩ | ⟨_, u, htake, -⟩
  · cases hf
  unfold takeChoice at htake
  rcases Play.result_bind_eq htake with ⟨f, hf, -⟩ | ⟨first, v, hfirst, -⟩
  · cases hf
  obtain ⟨catalog, key, hkey, hcatalog⟩ := (takes_of_applyChoice hfirst).hasCatalog
  have hkey' : key = w.key := Except.ok.inj (hkey.symm.trans hplays.series)
  rw [hkey'] at hcatalog
  exact ⟨catalog, (hg'.catalog g.files hg'.files).symm.trans hcatalog⟩

end Session

/-! ## What a command does -/

namespace Cli

open Session

/-- **The exit status of a run.** A fault ends it with status one. -/
def exitStatus : Except Fault Nat → Nat
  | .ok status => status
  | .error _ => 1

/-- Whether a run fails. -/
def Fails (r : Except Fault Nat) : Prop :=
  exitStatus r = 1 ∨ exitStatus r = 2

/-- **How a command that takes a choice follows a turn** of a session, which has come to a result and
to another session. -/
inductive Follows (w : Setting) (slot : String) (c : Console)
    (q : Except Fault (Option ChoiceResult)) (t : Session) : Except Fault Nat × Console → Prop
  /-- A choice was applied, and the state that the session has reached is saved and shown. -/
  | saves {d : Console} (applied : Applied q) (serves : d.game.Serves w)
      (keeps : c.game.Keeps d.game) (takes : d.takes = c.takes) :
      Follows w slot c q t ((saveAndShow (.str slot) t.state).result d)
  /-- No choice was applied, and the command fails with the files as they were. -/
  | ends {r : Except Fault Nat} {d : Console} (refused : ¬ Applied q) (fails : Fails r)
      (files : d.game.files = c.game.files) : Follows w slot c q t (r, d)

variable {w : Setting} {slot : String} {c d : Console} {q : Except Fault (Option ChoiceResult)}
  {s t : Session} {r : Except Fault Nat × Console} {choice : Choice} {place roll : Int}
  {pick : Option Int}

theorem Follows.of_keeps (h : Follows w slot d q t r) (hkeeps : c.game.Keeps d.game)
    (htakes : d.takes = c.takes) : Follows w slot c q t r := by
  cases h with
  | saves applied serves keeps takes =>
      exact .saves applied serves (hkeeps.trans keeps) (takes.trans htakes)
  | ends refused fails files => exact .ends refused fails (files.trans hkeeps.files)

/-- What only prints, and ends with status one or two, follows a turn that applies nothing. -/
theorem follows_of_meets {p : Play Console Nat} (hnot : ¬ Applied q)
    (hp : Play.Meets (fun d : Console => d.game.files = c.game.files) p
      fun n => n = 1 ∨ n = 2) : Follows w slot c q t (p.result c) := by
  have hfiles := hp.keeps c rfl
  have hstatus := hp.gives c
  cases hresult : p.result c with
  | mk r d =>
      rw [hresult] at hfiles hstatus
      refine .ends hnot ?_ hfiles
      cases r with
      | error f => exact Or.inl rfl
      | ok n => exact hstatus n rfl rfl

theorem meets_printError (I : Game → Prop) (s : String) :
    Play.Meets (fun c => I c.game) (printError s) fun _ => True :=
  Play.meets_of_result fun _ hc => ⟨_, _, rfl, hc, fun _ _ => trivial⟩

/-- A text that may be a fault is printed or stops the command. -/
theorem meets_text (I : Console → Prop) (r : Except Fault String) :
    Play.Meets I (.ofExcept r) fun _ => True :=
  Play.meets_ofExcept fun _ _ => trivial

/-- Telling the player why a choice was not applied fails, and changes nothing. -/
theorem meets_explain (I : Game → Prop) (choice : Choice) (result : ChoiceResult) :
    Play.Meets (fun c => I c.game) (explain choice result) fun n => n = 1 ∨ n = 2 := by
  unfold explain
  refine (meets_text _ _).bind fun message _ => ?_
  refine (meets_printLine I message).bind fun _ _ => ?_
  have hone : Play.Meets (fun c : Console => I c.game) (pure 1 : Play Console Nat)
      fun n => n = 1 ∨ n = 2 := Play.meets_pure (Or.inl rfl)
  split
  · refine (meets_printTexts I _).bind fun _ _ => ?_
    exact (meets_printLine I _).bind fun _ _ => hone
  · exact hone

/-- A complaint about a value, which fails and changes nothing. -/
theorem meets_refusal (I : Game → Prop) (r : Except Fault String) (message : String → String) :
    Play.Meets (fun c => I c.game)
      (do
        let asked ← .ofExcept r
        printError (message asked)
        pure 2 : Play Console Nat) fun n => n = 1 ∨ n = 2 := by
  refine (meets_text _ r).bind fun asked _ => ?_
  exact (meets_printError I _).bind fun _ _ => Play.meets_pure (Or.inr rfl)

theorem not_applied_undecided {rolled : Json} {candidates : List RandomOutcome} :
    ¬ Applied (.ok (some (.undecided rolled candidates))) := by
  rintro ⟨_, h, happlied⟩
  cases h
  cases happlied

/-! ## Taking a choice -/

theorem follows_conclude (halike : Alike w ⟨c.game, t.state⟩ t) (choice : Choice)
    (result : ChoiceResult) :
    Follows w slot c (.ok (some result)) t
      ((conclude (.str slot) choice result t.state).result c) := by
  unfold conclude
  split
  · next happlied => exact .saves ⟨result, rfl, happlied⟩ halike.left (.refl _) rfl
  · next hnot =>
    refine follows_of_meets ?_ (meets_explain (fun g => g.files = c.game.files) choice result)
    rintro ⟨_, hr, happlied⟩
    cases hr
    exact hnot happlied

/-- A computation of a session, carried out by a command. -/
theorem result_inSession {α : Type} {p : Play Session α} {state : GameState} {a : Except Fault α}
    {u : Session} (h : p.result ⟨c.game, state⟩ = (a, u)) :
    (inSession state p).result c = (a.map fun x => (x, u.state), { c with game := u.game }) := by
  unfold inSession
  rw [Play.result_ofFunction, h]

/-- The outcomes that are left to the player are those of the roll that was given. -/
theorem roll_of_undecided {picked : Option RandomOutcome} {rolled : Json}
    {candidates : List RandomOutcome}
    (h : s.Takes choice (.int roll) picked (.ok (.undecided rolled candidates)) t) :
    rolled = .int roll := by
  cases h with
  | waits _ _ settles _ =>
      rcases settles with ⟨-, hv⟩ | ⟨given, os, -, hrolls, -, hv⟩
      · cases hv
      · have hgiven : given = .int roll := hrolls
        unfold Verdict.ofMatches at hv
        split at hv
        · cases hv
        · cases hv
        · split at hv
          · cases hv
            exact hgiven
          · split at hv
            · cases hv
            · cases hv
              exact hgiven

theorem follows_fault {f : Fault} (hfiles : d.game.files = c.game.files) :
    Follows w slot c (.error f) t (.error f, d) :=
  .ends (by rintro ⟨_, h, -⟩; cases h) (Or.inl rfl) hfiles

/-- **One try:** the command and the session find out the same, and go on with it. -/
theorem follows_try {picked : Option RandomOutcome} {a : Except Fault ChoiceResult}
    {next : ChoiceResult × GameState → Play Console Nat}
    {go : ChoiceResult → Play Session ChoiceResult} (halike : Alike w ⟨c.game, s.state⟩ s)
    (h : (applyChoice choice (.int roll) picked >>= go).result s = (a, t))
    (hnext : ∀ result d v, s.Takes choice (.int roll) picked (.ok result) v →
      Alike w ⟨d.game, v.state⟩ v → (go result).result v = (a, t) →
      Follows w slot d (a.map some) t ((next (result, v.state)).result d)) :
    Follows w slot c (a.map some) t
      ((inSession s.state (applyChoice choice (.int roll) picked) >>= next).result c) := by
  obtain ⟨hresult, hafter⟩ := agree_applyChoice choice roll picked _ s halike
  -- the try of the command runs on the left, that of the session on the right
  cases hleft : (applyChoice choice (.int roll) picked).result ⟨c.game, s.state⟩ with
  | mk b u =>
  cases hright : (applyChoice choice (.int roll) picked).result s with
  | mk b' v =>
  rw [hleft, hright] at hresult hafter
  obtain rfl : b = b' := hresult
  have hkeeps : c.game.Keeps u.game := (takes_of_applyChoice hleft).keepsGame
  have hsession := result_inSession hleft
  cases b with
  | error f =>
      rw [Play.result_bind_of_error hright] at h
      cases h
      rw [Play.result_bind_of_error hsession]
      exact follows_fault hkeeps.files
  | ok result =>
      rw [Play.result_bind_of_ok hright] at h
      rw [Play.result_bind_of_ok hsession, ← hafter.state]
      have hgoes := hnext result { c with game := u.game } v (takes_of_applyChoice hright)
        ⟨rfl, hafter.state ▸ hafter.plays, hafter.left, hafter.right⟩ h
      exact hgoes.of_keeps hkeeps rfl

/-- **Taking a choice follows a session that takes it.** -/
theorem follows_takeChoice (halike : Alike w ⟨c.game, s.state⟩ s) {a : Except Fault ChoiceResult}
    (h : (Session.takeChoice choice roll pick).result s = (a, t)) :
    Follows w slot c (a.map some) t
      ((takeChoice (.str slot) choice (some (.value roll)) (pick.map .value) s.state).result c) := by
  unfold Session.takeChoice at h
  unfold takeChoice
  refine follows_try halike h fun first d v htakes hv hrest => ?_
  have hdecided : (pure first : Play Session ChoiceResult).result v = (a, t) →
      Follows w slot d (a.map some) t ((conclude (.str slot) choice first v.state).result d) := by
    intro hpure
    cases hpure
    exact follows_conclude hv choice first
  cases first with
  | refused _ => exact hdecided hrest
  | strayed _ _ _ => exact hdecided hrest
  | applied _ _ _ _ => exact hdecided hrest
  | undecided rolled candidates =>
      cases pick with
      | none => exact hdecided hrest
      | some n =>
          -- the command tries again with the roll of the first try, which is the one that was given
          obtain rfl := roll_of_undecided htakes
          have hneeded : (Play.ofExcept (Argument.value n).needed).result d = (.ok n, d) := rfl
          dsimp only [Option.map] at hrest ⊢
          rw [Play.result_bind_of_ok hneeded]
          cases hpicked : nth? candidates n with
          | none =>
              simp only [hpicked] at hrest ⊢
              cases hrest
              refine follows_of_meets not_applied_undecided ?_
              exact (meets_text _ _).bind fun rolled _ => meets_refusal (·.files = d.game.files) _ _
          | some picked =>
              simp only [hpicked] at hrest ⊢
              -- the second try is the last step of the session, but not of the command
              rw [← bind_pure (applyChoice choice (.int roll) (some picked))] at hrest
              refine follows_try hv hrest fun result e u _ hu hlast => ?_
              cases hlast
              exact follows_conclude hu choice result

/-! ## The command -/

/-- A computation that gives a value is gone on with. -/
theorem result_orReport_of_ok {α : Type} {isExpected : Fault → Bool} {report : Fault → String}
    {p : Play Console α} {next : α → Play Console Nat} {a : α} (h : p.result c = (.ok a, d)) :
    (orReport isExpected report p next).result c = (next a).result d := by
  have hget : (get : Play Console Console).result c = (.ok c, c) := rfl
  unfold orReport
  rw [Play.result_bind_of_ok hget, h]
  rfl

theorem result_onGame {α : Type} {p : Play Game α} {a : Except Fault α} {g : Game}
    (h : p.result c.game = (a, g)) : (onGame p).result c = (a, { c with game := g }) := by
  unfold onGame Play.onPart
  rw [Play.result_ofFunction, h]

/-- The choice at a place of a section, if there is one. -/
theorem choiceAt?_value (found : Option Section) :
    choiceAt? found (.value place) = .ok (found.bind fun x => nth? x.choices place) := by
  cases found <;> rfl

/-- **What the command comes to on a slot that holds a state,** once the section that the state is in
has been looked up. -/
theorem result_choose {state : GameState} {found : Option Section} {g : Game}
    {given picked : Option (Argument Int)}
    (hload : c.game.slots.load c.game.files c.game.newId (.str slot) = .ok (some state))
    (hfound : (Game.currentSection state).result c.game = (.ok found, g)) :
    (choose slot (.value place) given picked).result c =
      (match found.bind fun x => nth? x.choices place with
        | none => do
          let asked ← .ofExcept ((Argument.value place).toJson .int).text
          printError ("Error: no choice " ++ asked ++ " in the current section")
          pure 2
        | some choice => takeChoice (.str slot) choice given picked state : Play Console Nat).result
          { c with game := g } := by
  have hloaded : (onGame (Game.load (.str slot))).result c = (.ok (some state), c) := by
    apply result_onGame
    show (c.game.slots.load c.game.files c.game.newId (.str slot), c.game) = _
    rw [hload]
  have hasked : (Play.ofExcept (choiceAt? found (.value place))).result { c with game := g } =
      (.ok (found.bind fun x => nth? x.choices place), { c with game := g }) := by
    rw [choiceAt?_value]
    rfl
  unfold choose
  rw [result_orReport_of_ok hloaded]
  dsimp only
  rw [Play.result_bind_of_ok (result_onGame hfound)]
  refine (Play.result_bind_of_ok hasked).trans ?_
  cases found.bind fun x => nth? x.choices place <;> rfl

/-- **The command that takes a choice follows the turn** of a session that is alike, if the file of its
slot states the state of the session. -/
theorem follows_choose (halike : Alike w ⟨c.game, s.state⟩ s)
    (hload : c.game.slots.load c.game.files c.game.newId (.str slot) = .ok (some s.state))
    (h : (turn place roll pick).result s = (q, t)) :
    Follows w slot c q t
      ((choose slot (.value place) (some (.value roll)) (pick.map .value)).result c) := by
  obtain ⟨g, hg, hserves, hkeeps⟩ := halike.left.result_currentSection halike.plays
  obtain ⟨g', hg', hserves', -⟩ := halike.right.result_currentSection halike.plays
  have hsession : (withGame Game.currentSection).result s =
      (.ok (w.book.sectionAt? s.state.sectionId), { s with game := g' }) := by
    unfold withGame
    rw [Play.result_ofFunction, hg']
  rw [result_choose hload hg]
  refine Follows.of_keeps (d := { c with game := g }) ?_ hkeeps rfl
  unfold turn at h
  rw [Play.result_bind_of_ok hsession] at h
  -- without a choice the turn ends here, and the command with a complaint
  have hnone : (pure none : Play Session (Option ChoiceResult)).result { s with game := g' } =
      (q, t) → ¬ Applied q := by
    intro hpure
    cases hpure
    rintro ⟨_, hr, -⟩
    cases hr
  cases hfound : w.book.sectionAt? s.state.sectionId with
  | none =>
      rw [hfound] at h
      exact follows_of_meets (hnone h) (meets_refusal (·.files = g.files) _ _)
  | some x =>
      rw [hfound] at h
      dsimp only [Option.bind] at h ⊢
      cases hchoice : nth? x.choices place with
      | none =>
          rw [hchoice] at h
          exact follows_of_meets (hnone h) (meets_refusal (·.files = g.files) _ _)
      | some choice =>
          rw [hchoice] at h
          dsimp only at h ⊢
          have hright : Alike w ⟨g, s.state⟩ { s with game := g' } :=
            ⟨rfl, halike.plays, hserves, hserves'⟩
          have hfollows : ∀ a v, (Session.takeChoice choice roll pick).result { s with game := g' } =
              (a, v) → Follows w slot { c with game := g } (a.map some) v
                ((takeChoice (.str slot) choice (some (.value roll)) (pick.map .value)
                  s.state).result { c with game := g }) :=
            fun a v htake =>
              follows_takeChoice (s := { s with game := g' }) (c := { c with game := g }) hright htake
          rcases Play.result_bind_eq h with ⟨f, rfl, htake⟩ | ⟨result, v, htake, hpure⟩
          · exact hfollows (.error f) t htake
          · cases hpure
            exact hfollows (.ok result) _ htake

end Cli

end Questbook
