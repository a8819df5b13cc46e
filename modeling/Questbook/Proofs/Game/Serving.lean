import Questbook.Proofs.Game.Continuing
import Questbook.Proofs.Series.Cache

set_option autoImplicit false

/-! # Tables that serve the same game

What a choice comes to depends on the table only by the book and by the rules of the series. Two tables
with different engines, one that has just been laid and one that has been played at for long, serve a
game alike if they find the same book and the same rules (`Game.Serves`).

A choice comes to the same in two sessions that find the same on its way (`Session.agree_applyChoice_of`);
at such tables it does with a given roll (`Session.agree_applyChoice`).
-/

namespace Questbook

/-! ## Settings -/

/-- **What a game is played with:** a book under its id and the rules of its series, if they can be
loaded. The table may stand on any of certain trees of files. -/
structure Setting where
  trees : FileTree → Prop
  id : String
  book : Book
  key : Option String
  catalog : Except Fault Catalog

/-- The requirements and effects that govern a choice. -/
def Setting.rulesFor (w : Setting) (choice : Choice) : Except Fault RuleSet :=
  w.catalog >>= fun catalog => catalog.rulesFor choice

/-- Whether a choice may be taken in a state. -/
def Setting.evaluate (w : Setting) (choice : Choice) (state : GameState) :
    Except Fault Evaluation :=
  w.rulesFor choice >>= fun rules => Engine.evaluateWith choice rules { state }

/-- **Whether a table serves a game:** it finds the book and the rules, now and later. -/
structure Game.Serves (g : Game) (w : Setting) : Prop where
  files : w.trees g.files
  book : ∀ files, w.trees files → (g.shelf.get files (.str w.id)).1 = .ok w.book
  catalog : ∀ files, w.trees files →
    ((Engine.catalogOf files w.key).result g.engine).1 = w.catalog

/-- Whether a state is one of the game that a setting is for. -/
structure GameState.PlaysIn (s : GameState) (w : Setting) : Prop where
  bookId : s.bookId = .str w.id
  series : Series.keyOfJson s.series = .ok w.key

/-! ## The book and the rules -/

section

variable {g : Game} {w : Setting} {state : GameState}

/-- **The book is found,** and is kept. -/
theorem Game.Serves.result_bookOf (h : g.Serves w) (hstate : state.PlaysIn w) :
    ∃ g', (Game.bookOf state).result g = (.ok w.book, g') ∧ g'.Serves w ∧ g.Keeps g' := by
  refine ⟨{ g with shelf := (g.shelf.get g.files (.str w.id)).2 }, ?_, ⟨h.files, ?_, h.catalog⟩,
    ⟨rfl, rfl, rfl, fun id book => g.shelf.lookup_known_get g.files (.str w.id) id book⟩⟩
  · show ((g.shelf.get g.files state.bookId).1,
      { g with shelf := (g.shelf.get g.files state.bookId).2 }) = _
    rw [hstate.bookId, h.book g.files h.files]
  · obtain ⟨hnamed, hknown⟩ := Bookshelf.lookup_known_of_get (h.book g.files h.files)
    have hread : Game.HasRead { g with shelf := (g.shelf.get g.files (.str w.id)).2 } w.id w.book :=
      ⟨hnamed, hknown⟩
    intro files _
    rw [hread.get files]

/-- The section is looked up in the book. -/
theorem Game.Serves.result_currentSection (h : g.Serves w) (hstate : state.PlaysIn w) :
    ∃ g', (Game.currentSection state).result g = (.ok (w.book.sectionAt? state.sectionId), g') ∧
      g'.Serves w ∧ g.Keeps g' := by
  obtain ⟨g', hbook, hserves, hkeeps⟩ := h.result_bookOf hstate
  refine ⟨g', ?_, hserves, hkeeps⟩
  unfold Game.currentSection
  rw [Play.result_bind_of_ok hbook]
  rfl

/-- **The rules are found,** or the same fault again. -/
theorem Game.Serves.result_catalogOf (h : g.Serves w) :
    ∃ g', (Game.withEngine fun files => Engine.catalogOf files w.key).result g = (w.catalog, g') ∧
      g'.Serves w ∧ g.Keeps g' := by
  have hnow := h.catalog g.files h.files
  refine ⟨{ g with engine := ((Engine.catalogOf g.files w.key).result g.engine).2 }, ?_,
    ⟨h.files, h.book, ?_⟩, ⟨rfl, rfl, rfl, fun _ _ hknown => hknown⟩⟩
  · show (((Engine.catalogOf g.files w.key).result g.engine).1,
      { g with engine := ((Engine.catalogOf g.files w.key).result g.engine).2 }) = _
    rw [hnow]
  · intro files hfiles
    rw [← hnow]
    exact g.engine.catalogs.result_getOrLoad_again w.key
      (show ((Engine.catalogOf files w.key).result g.engine).1 = _ from
        (h.catalog files hfiles).trans hnow.symm)

theorem Game.result_withEngine {α : Type} {p : FileTree → Play Engine α} {r : Except Fault α}
    {e : Engine} (h : (p g.files).result g.engine = (r, e)) :
    (Game.withEngine p).result g = (r, { g with engine := e }) := by
  show (((p g.files).result g.engine).1, { g with engine := ((p g.files).result g.engine).2 }) = _
  rw [h]

/-- A computation of the engine in two steps. -/
theorem Game.result_withEngine_bind {α β : Type} (p : FileTree → Play Engine α)
    (f : FileTree → α → Play Engine β) (g : Game) :
    (Game.withEngine fun files => p files >>= f files).result g =
      (Game.withEngine p >>= fun a => Game.withEngine fun files => f files a).result g := by
  cases hp : (p g.files).result g.engine with
  | mk r e =>
      have hfirst := Game.result_withEngine hp
      cases r with
      | error fault =>
          rw [Play.result_bind_of_error hfirst]
          exact Game.result_withEngine (Play.result_bind_of_error hp)
      | ok a =>
          rw [Play.result_bind_of_ok hfirst]
          exact Game.result_withEngine (Play.result_bind_of_ok hp)

/-- **What governs a choice is found** in the rules. -/
theorem Game.Serves.result_rulesFor (h : g.Serves w) (hstate : state.PlaysIn w) (choice : Choice) :
    ∃ g', (Game.withEngine fun files => Engine.rulesFor files choice { state }).result g =
        (w.rulesFor choice, g') ∧ g'.Serves w ∧ g.Keeps g' := by
  obtain ⟨g', hcatalog, hserves, hkeeps⟩ := h.result_catalogOf
  refine ⟨g', ?_, hserves, hkeeps⟩
  have hkey : (Game.withEngine fun files => Engine.rulesFor files choice { state }).result g =
      (Game.withEngine fun files => Engine.catalogOf files w.key >>= fun catalog =>
        .ofExcept (catalog.rulesFor choice)).result g := by
    unfold Engine.rulesFor
    show (Game.withEngine fun files => (Play.ofExcept (Series.keyOfJson state.series) >>= fun key =>
      Engine.catalogOf files key >>= fun catalog => .ofExcept (catalog.rulesFor choice))).result g = _
    rw [hstate.series]
    rfl
  rw [hkey, Game.result_withEngine_bind]
  unfold Setting.rulesFor
  cases hloaded : w.catalog with
  | error f =>
      rw [hloaded] at hcatalog
      rw [Play.result_bind_of_error hcatalog]
      rfl
  | ok catalog =>
      rw [hloaded] at hcatalog
      rw [Play.result_bind_of_ok hcatalog]
      rfl

theorem Game.Serves.result_evaluate (h : g.Serves w) (hstate : state.PlaysIn w) (choice : Choice) :
    ∃ g', (Game.evaluate state choice).result g = (w.evaluate choice state, g') ∧ g'.Serves w ∧
      g.Keeps g' := by
  obtain ⟨g', hrules, hserves, hkeeps⟩ := h.result_rulesFor hstate choice
  refine ⟨g', ?_, hserves, hkeeps⟩
  unfold Game.evaluate Engine.evaluate
  rw [Game.result_withEngine_bind]
  unfold Setting.evaluate
  cases hfound : w.rulesFor choice with
  | error f =>
      rw [hfound] at hrules
      rw [Play.result_bind_of_error hrules]
      rfl
  | ok rules =>
      rw [hfound] at hrules
      rw [Play.result_bind_of_ok hrules]
      rfl

end

/-! ## Sessions in which a choice comes to the same -/

namespace Session

section

variable {S : Session → Session → Prop}

/-- A roll that is given is not made. -/
theorem rollFor_of_given {given : Json} (h : given ≠ .null) :
    rollFor given = (.ofExcept (isBetween given minRoll maxRoll) >>= fun fits =>
      if fits then pure given else .ofExcept (.error .rollOutOfRange)) := by
  cases given with
  | null => exact absurd rfl h
  | _ => rfl

theorem agree_rollFor_of_given {given : Json} (h : given ≠ .null) :
    Play.Agree S (rollFor given) (rollFor given) := by
  rw [rollFor_of_given h]
  refine Play.agree_bind (Play.agree_ofExcept _) fun fits => ?_
  cases fits with
  | false => exact Play.agree_ofExcept _
  | true => exact Play.agree_pure _

/-- What the roll decides is the same if the roll is. -/
theorem agree_settle_of {given : Json}
    (hroll : Play.Agree S (rollFor given) (rollFor given)) (choice : Choice)
    (picked : Option RandomOutcome) :
    Play.Agree S (settle choice given picked) (settle choice given picked) := by
  unfold settle
  split
  · refine Play.agree_bind hroll fun roll => ?_
    exact Play.agree_bind (Play.agree_ofExcept _) fun os => Play.agree_pure _
  · exact Play.agree_pure _

/-- A choice goes on alike in the same book, if effects lead alike sessions to alike sessions. -/
theorem agree_follow_of (hbook : Play.Agree S (withGame Game.bookOf) (withGame Game.bookOf))
    (hmove : ∀ reached effects, Play.Agree S (moveTo reached effects) (moveTo reached effects))
    (choice : Choice) (rules : RuleSet) (roll : Json) (outcome : Option RandomOutcome) :
    Play.Agree S (follow choice rules roll outcome) (follow choice rules roll outcome) := by
  unfold follow
  refine Play.agree_bind (Play.agree_ofExcept _) fun target => ?_
  refine Play.agree_bind (Play.agree_ofExcept _) fun effects => ?_
  refine Play.agree_bind hbook fun book => ?_
  split
  · exact Play.agree_pure _
  · exact Play.agree_bind (hmove _ effects) fun _ => Play.agree_pure _

/-- **A choice comes to the same in two sessions** that find the same rules, the same book and the same
roll, and that meet its requirements alike. -/
theorem agree_applyChoice_of {choice : Choice} {given : Json}
    (hrules : ∀ s t, S s t → Play.Agree S
      (withGame fun _ => Game.withEngine fun files =>
        Engine.rulesFor files choice { state := s.state })
      (withGame fun _ => Game.withEngine fun files =>
        Engine.rulesFor files choice { state := t.state }))
    (hmeets : ∀ s t, S s t → ∀ rules, Engine.evaluateWith choice rules { state := s.state } =
      Engine.evaluateWith choice rules { state := t.state })
    (hroll : Play.Agree S (rollFor given) (rollFor given))
    (hbook : Play.Agree S (withGame Game.bookOf) (withGame Game.bookOf))
    (hmove : ∀ reached effects, Play.Agree S (moveTo reached effects) (moveTo reached effects))
    (picked : Option RandomOutcome) :
    Play.Agree S (applyChoice choice given picked) (applyChoice choice given picked) := by
  unfold applyChoice
  apply Play.agree_get_bind
  intro s t hst
  refine Play.agree_bind (hrules s t hst) fun rules => ?_
  rw [hmeets s t hst rules]
  refine Play.agree_bind (Play.agree_ofExcept _) fun e => ?_
  split
  · refine Play.agree_bind (agree_settle_of hroll choice picked) fun verdict => ?_
    cases verdict with
    | contested roll candidates => exact Play.agree_pure _
    | settled roll outcome => exact agree_follow_of hbook hmove choice rules roll outcome
  · exact Play.agree_pure _

end

end Session

/-! ## Sessions that are alike -/

namespace Session

/-- **Whether two sessions are alike:** they are in the same state, at tables that serve the same
game. -/
structure Alike (w : Setting) (s t : Session) : Prop where
  state : t.state = s.state
  plays : s.state.PlaysIn w
  left : s.game.Serves w
  right : t.game.Serves w

variable {w : Setting} {s t : Session}

/-- Both tables give the same result when it does not depend on the table. -/
theorem agree_withGame {α : Type} {r : GameState → Except Fault α} {p : GameState → Play Game α}
    (h : ∀ {g : Game} {state : GameState}, g.Serves w → state.PlaysIn w →
      ∃ g', (p state).result g = (r state, g') ∧ g'.Serves w) :
    Play.Agree (Alike w) (withGame p) (withGame p) := by
  intro s t halike
  obtain ⟨g, hg, hleft⟩ := h halike.left halike.plays
  obtain ⟨g', hg', hright⟩ := h halike.right halike.plays
  have hs : (withGame p).result s = (r s.state, { s with game := g }) := by
    show (((p s.state).result s.game).1, { s with game := ((p s.state).result s.game).2 }) = _
    rw [hg]
  have ht : (withGame p).result t = (r s.state, { t with game := g' }) := by
    show (((p t.state).result t.game).1, { t with game := ((p t.state).result t.game).2 }) = _
    rw [halike.state, hg']
  rw [hs, ht]
  exact ⟨rfl, halike.state, halike.plays, hleft, hright⟩

theorem agree_rulesFor {state : GameState} (hstate : state.PlaysIn w) (choice : Choice) :
    Play.Agree (Alike w)
      (withGame fun _ => Game.withEngine fun files => Engine.rulesFor files choice { state })
      (withGame fun _ => Game.withEngine fun files => Engine.rulesFor files choice { state }) := by
  apply agree_withGame
  intro g _ hserves _
  obtain ⟨g', hrules, hkept, -⟩ := hserves.result_rulesFor hstate choice
  exact ⟨g', hrules, hkept⟩

theorem agree_bookOf : Play.Agree (Alike w) (withGame Game.bookOf) (withGame Game.bookOf) := by
  apply agree_withGame
  intro g state hserves hstate
  obtain ⟨g', hbook, hkept, -⟩ := hserves.result_bookOf hstate
  exact ⟨g', hbook, hkept⟩

theorem agree_currentSection :
    Play.Agree (Alike w) (withGame Game.currentSection) (withGame Game.currentSection) := by
  apply agree_withGame
  intro g state hserves hstate
  obtain ⟨g', hsection, hkept, -⟩ := hserves.result_currentSection hstate
  exact ⟨g', hsection, hkept⟩

/-- Effects lead alike sessions to alike sessions. -/
theorem agree_moveTo (reached : Section) (effects : List Effect) :
    Play.Agree (Alike w) (moveTo reached effects) (moveTo reached effects) := by
  intro s t halike
  have hsame : s.context.SameGame (applyAll s.context effects).1 :=
    sameGame_applyAll s.context effects
  unfold moveTo
  rw [Play.result_ofFunction, Play.result_ofFunction, halike.state]
  show _ = _ ∧ _
  cases happly : applyAll { state := s.state } effects with
  | mk c failed =>
      have hstate : c.state = { s.state with character := c.character } := by
        have hall := hsame.state
        rwa [show applyAll s.context effects = (c, failed) from happly] at hall
      have hplays : c.state.PlaysIn w := by
        rw [hstate]
        exact ⟨halike.plays.bookId, halike.plays.series⟩
      cases failed with
      | none => exact ⟨rfl, rfl, ⟨hplays.bookId, hplays.series⟩, halike.left, halike.right⟩
      | some f => exact ⟨rfl, rfl, hplays, halike.left, halike.right⟩

/-- **A choice with a given roll comes to the same at both tables.** -/
theorem agree_applyChoice (choice : Choice) (n : Int) (picked : Option RandomOutcome) :
    Play.Agree (Alike w) (applyChoice choice (.int n) picked)
      (applyChoice choice (.int n) picked) := by
  have hgiven : Json.int n ≠ .null := nofun
  refine agree_applyChoice_of (fun s t halike => ?_) (fun s t halike rules => ?_)
    (agree_rollFor_of_given hgiven) agree_bookOf agree_moveTo picked
  · rw [halike.state]
    exact agree_rulesFor halike.plays choice
  · rw [halike.state]

end Session

end Questbook
