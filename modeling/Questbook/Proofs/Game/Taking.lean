import Questbook.Game.Session
import Questbook.Proofs.Outcome

set_option autoImplicit false

/-! # The ways in which a choice is taken

Taking a choice runs through a fixed order of checks before it changes anything. `Session.Takes`
lists the ways in which it can end, each with all that was found out before: a fault of a check, the
three answers that are no application, the application, and an effect that fails. Every run of
`Session.applyChoice` is one of them (`Session.takes_of_applyChoice`), so that what taking a choice
does is read off by cases.

Only the last two ways change the state. The table is kept by all of them: the files are not
touched, and the shelf forgets no book (`Game.Keeps`).
-/

namespace Questbook

/-! ## What is kept -/

/-- **The table goes on as it was,** except that the engine may have worked and that the shelf may
have read more books. -/
structure Game.Keeps (g h : Game) : Prop where
  files : h.files = g.files
  slots : h.slots = g.slots
  newId : h.newId = g.newId
  known : ∀ id book, g.shelf.known.lookup id = some book → h.shelf.known.lookup id = some book

theorem Game.Keeps.refl (g : Game) : g.Keeps g :=
  ⟨rfl, rfl, rfl, fun _ _ h => h⟩

theorem Game.Keeps.trans {g h k : Game} (hgh : g.Keeps h) (hhk : h.Keeps k) : g.Keeps k where
  files := hhk.files.trans hgh.files
  slots := hhk.slots.trans hgh.slots
  newId := hhk.newId.trans hgh.newId
  known id book hk := hhk.known id book (hgh.known id book hk)

theorem Bookshelf.lookup_known_getNamed (b : Bookshelf) (files : FileTree) (name id : String)
    (book : Book) (h : b.known.lookup id = some book) :
    (b.getNamed files name).2.known.lookup id = some book := by
  unfold Bookshelf.getNamed
  split
  · exact h
  · split
    · exact h
    · unfold Bookshelf.fetch
      dsimp only
      split
      · split
        · simp [List.lookup_append, h]
        · exact h
      · exact h

/-- The shelf forgets no book. -/
theorem Bookshelf.lookup_known_get (b : Bookshelf) (files : FileTree) (j : Json) (id : String)
    (book : Book) (h : b.known.lookup id = some book) :
    (b.get files j).2.known.lookup id = some book := by
  unfold Bookshelf.get
  split
  · exact h
  · split
    · exact Bookshelf.lookup_known_getNamed b files _ id book h
    · exact h

/-- Looking up the current section leaves the table that asking for the book leaves. -/
theorem Game.left_currentSection (state : GameState) (g : Game) :
    ((currentSection state).result g).2 = ((bookOf state).result g).2 := by
  unfold currentSection
  rw [Play.result_bind]
  split
  · next hbook => exact congrArg Prod.snd hbook.symm
  · next hbook => exact congrArg Prod.snd hbook.symm

/-- The state is kept, and so is the table. -/
structure Session.Keeps (s t : Session) : Prop where
  state : t.state = s.state
  game : s.game.Keeps t.game

namespace Session

theorem Keeps.refl (s : Session) : s.Keeps s := ⟨rfl, Game.Keeps.refl _⟩

theorem Keeps.trans {s t u : Session} (hst : s.Keeps t) (htu : t.Keeps u) : s.Keeps u :=
  ⟨htu.state.trans hst.state, hst.game.trans htu.game⟩

variable {α : Type}

/-- **A computation of the engine keeps the state and the table.** -/
theorem keeps_withEngine (p : GameState → FileTree → Play Engine α) (s : Session) :
    s.Keeps ((withGame fun state => Game.withEngine (p state)).result s).2 :=
  ⟨rfl, rfl, rfl, rfl, fun _ _ h => h⟩

/-- Asking for the book keeps the state and the table. -/
theorem keeps_bookOf (s : Session) : s.Keeps ((withGame Game.bookOf).result s).2 :=
  ⟨rfl, rfl, rfl, rfl,
    fun id book => s.game.shelf.lookup_known_get s.game.files s.state.bookId id book⟩

/-- Looking up the current section keeps the state and the table. -/
theorem keeps_currentSection (s : Session) :
    s.Keeps ((withGame Game.currentSection).result s).2 := by
  have hbook := keeps_bookOf s
  have hsession : ((withGame Game.currentSection).result s).2 =
      ((withGame Game.bookOf).result s).2 :=
    congrArg (fun game => { s with game }) (Game.left_currentSection s.state s.game)
  rwa [hsession]

/-! ## What is found out -/

/-- What the requirements of a choice are asked of, and its effects applied to. -/
def context (s : Session) : Context := { state := s.state }

/-- The rule catalog of the series that is played. -/
def HasCatalog (s : Session) (catalog : Catalog) : Prop :=
  ∃ key, Series.keyOfJson s.state.series = .ok key ∧
    ((Engine.catalogOf s.game.files key).result s.game.engine).1 = .ok catalog

/-- The book that is played. -/
def HasBook (s : Session) (book : Book) : Prop :=
  (s.game.shelf.get s.game.files s.state.bookId).1 = .ok book

/-- **The requirements and effects that govern a choice.** -/
def Governs (s : Session) (choice : Choice) (rules : RuleSet) : Prop :=
  ∃ catalog, s.HasCatalog catalog ∧ catalog.rulesFor choice = .ok rules

/-- **The roll that decides a choice:** the one that is given, or else the next one of the
source. -/
def Rolls (s : Session) : (given roll : Json) → Prop
  | .null, roll => s.game.engine.source.roll.1 = .ok roll
  | given, roll => roll = given

/-- What the roll decides about a choice. -/
def Settles (s : Session) (choice : Choice) (given : Json) (picked : Option RandomOutcome)
    (v : Verdict) : Prop :=
  (choice.outcomes = [] ∧ v = .settled given none) ∨
    ∃ roll os, choice.outcomes ≠ [] ∧ s.Rolls given roll ∧ choice.matching roll = .ok os ∧
      v = Verdict.ofMatches roll picked os

/-- **What a choice that may be taken leads to,** once the roll has settled it: the outcome, where
to go in which book, and what to apply on the way. -/
structure Leads (s : Session) (choice : Choice) (given : Json) (picked : Option RandomOutcome)
    (rules : RuleSet) (roll : Json) (outcome : Option RandomOutcome) (target : Json)
    (effects : List Effect) (book : Book) : Prop where
  governs : s.Governs choice rules
  permits : allHold s.context rules.requirements = .ok true
  settles : s.Settles choice given picked (.settled roll outcome)
  target : targetOf choice outcome = .ok target
  effects : effectsOf rules outcome = .ok effects
  book : s.HasBook book

/-- **The ways in which a choice is taken,** with the result and the session that is left. -/
inductive Takes (s : Session) (choice : Choice) (given : Json) (picked : Option RandomOutcome) :
    Except Fault ChoiceResult → Session → Prop
  /-- A fault comes before any effect. -/
  | stops {f : Fault} {t : Session} (keeps : s.Keeps t) : Takes s choice given picked (.error f) t
  | refuses {rules : RuleSet} {t : Session} (governs : s.Governs choice rules)
      (fails : allHold s.context rules.requirements = .ok false) (keeps : s.Keeps t) :
      Takes s choice given picked (.ok (.refused choice)) t
  | waits {rules : RuleSet} {roll : Json} {os : List RandomOutcome} {t : Session}
      (governs : s.Governs choice rules)
      (permits : allHold s.context rules.requirements = .ok true)
      (settles : s.Settles choice given picked (.contested roll os)) (keeps : s.Keeps t) :
      Takes s choice given picked (.ok (.undecided roll os)) t
  | strays {rules : RuleSet} {roll : Json} {outcome : Option RandomOutcome} {target : Json}
      {effects : List Effect} {book : Book} {t : Session}
      (leads : s.Leads choice given picked rules roll outcome target effects book)
      (absent : book.sectionAt? target = none) (keeps : s.Keeps t) :
      Takes s choice given picked (.ok (.strayed roll outcome target)) t
  | arrives {rules : RuleSet} {roll : Json} {outcome : Option RandomOutcome} {target : Json}
      {effects : List Effect} {book : Book} {reached : Section} {c : Context} {t : Session}
      (leads : s.Leads choice given picked rules roll outcome target effects book)
      (present : book.sectionAt? target = some reached)
      (applies : applyAll s.context effects = (c, none))
      (state : t.state = { c.state with sectionId := .str reached.id })
      (keeps : s.game.Keeps t.game) :
      Takes s choice given picked (.ok (.applied roll outcome reached effects)) t
  /-- An effect fails after others have been applied. -/
  | breaks {rules : RuleSet} {roll : Json} {outcome : Option RandomOutcome} {target : Json}
      {effects : List Effect} {book : Book} {reached : Section} {c : Context} {f : Fault}
      {t : Session} (leads : s.Leads choice given picked rules roll outcome target effects book)
      (present : book.sectionAt? target = some reached)
      (applies : applyAll s.context effects = (c, some f)) (state : t.state = c.state)
      (keeps : s.game.Keeps t.game) :
      Takes s choice given picked (.error f) t

/-! ## Every run is one of the ways -/

/-- Two engines with the same source of rolls. -/
def SameSource (e e' : Engine) : Prop := e'.source = e.source

/-- What governs a choice is found without rolling. -/
theorem within_rulesFor (files : FileTree) (choice : Choice) (c : Context) :
    Play.Within SameSource (Engine.rulesFor files choice c) := by
  have hrefl : ∀ e, SameSource e e := fun _ => rfl
  have htrans : ∀ {e e' e''}, SameSource e e' → SameSource e' e'' → SameSource e e'' :=
    fun h h' => h'.trans h
  unfold Engine.rulesFor
  refine Play.within_bind (R := SameSource) htrans (Play.within_ofExcept hrefl _) fun key => ?_
  refine Play.within_bind (R := SameSource) htrans (fun _ => rfl) fun catalog => ?_
  exact Play.within_ofExcept hrefl _

theorem rulesFor_spec {s u : Session} {choice : Choice} {r : Except Fault RuleSet}
    (h : (withGame fun _ => Game.withEngine fun files =>
      Engine.rulesFor files choice s.context).result s = (r, u)) :
    s.Keeps u ∧ u.game.engine.source = s.game.engine.source ∧ u.game.shelf = s.game.shelf ∧
      ∀ rules, r = .ok rules → s.Governs choice rules := by
  have hr : ((Engine.rulesFor s.game.files choice s.context).result s.game.engine).1 = r :=
    congrArg Prod.fst h
  have hu : { s with game := { s.game with engine :=
      ((Engine.rulesFor s.game.files choice s.context).result s.game.engine).2 } } = u :=
    congrArg Prod.snd h
  have hkeeps := keeps_withEngine (fun _ files => Engine.rulesFor files choice s.context) s
  rw [h] at hkeeps
  refine ⟨hkeeps, ?_, ?_, ?_⟩
  · rw [← hu]
    exact within_rulesFor s.game.files choice s.context s.game.engine
  · rw [← hu]
  · rintro rules rfl
    unfold Engine.rulesFor at hr
    rcases Play.result_bind_eq (Prod.ext hr rfl) with ⟨f, hf, -⟩ | ⟨key, e, hkey, hrest⟩
    · cases hf
    · rcases Play.result_bind_eq hrest with ⟨f, hf, -⟩ | ⟨catalog, e', hcat, hrules⟩
      · cases hf
      · obtain ⟨hseries, rfl⟩ := Play.result_ofExcept_eq.mp hkey
        exact ⟨catalog, ⟨key, hseries, congrArg Prod.fst hcat⟩, congrArg Prod.fst hrules⟩

theorem rollFor_spec {s u : Session} {given : Json} {r : Except Fault Json}
    (h : (rollFor given).result s = (r, u)) :
    s.Keeps u ∧ u.game.shelf = s.game.shelf ∧ ∀ roll, r = .ok roll → s.Rolls given roll := by
  unfold rollFor at h
  split at h
  · have hkeeps := keeps_withEngine (fun _ _ => Engine.roll) s
    rw [h] at hkeeps
    have hr : s.game.engine.source.roll.1 = r := congrArg Prod.fst h
    have hu : u.game.shelf = s.game.shelf := by
      rw [← show _ = u from congrArg Prod.snd h]
      rfl
    exact ⟨hkeeps, hu, fun roll hroll => hr.trans hroll⟩
  · next hnull =>
    rcases Play.result_bind_eq h with ⟨f, rfl, hf⟩ | ⟨ok, v, hok, hrest⟩
    · obtain ⟨-, rfl⟩ := Play.result_ofExcept_eq.mp hf
      exact ⟨Keeps.refl s, rfl, fun roll hroll => by cases hroll⟩
    · obtain ⟨-, rfl⟩ := Play.result_ofExcept_eq.mp hok
      split at hrest
      · obtain ⟨rfl, rfl⟩ := Play.result_pure_eq.mp hrest
        refine ⟨Keeps.refl s, rfl, ?_⟩
        rintro roll hroll
        cases hroll
        cases given <;> first | rfl | exact absurd rfl hnull
      · obtain ⟨rfl, rfl⟩ := Play.result_ofExcept_eq.mp hrest
        exact ⟨Keeps.refl s, rfl, fun roll hroll => by cases hroll⟩

theorem settle_spec {s u : Session} {choice : Choice} {given : Json}
    {picked : Option RandomOutcome} {r : Except Fault Verdict}
    (h : (settle choice given picked).result s = (r, u)) :
    s.Keeps u ∧ u.game.shelf = s.game.shelf ∧
      ∀ v, r = .ok v → s.Settles choice given picked v := by
  unfold settle at h
  by_cases hroll : choice.needsRoll = true
  · rw [if_pos hroll] at h
    have hne : choice.outcomes ≠ [] := by
      intro hnil
      simp [Choice.needsRoll, hnil] at hroll
    rcases Play.result_bind_eq h with ⟨f, rfl, hf⟩ | ⟨roll, v, hv, hrest⟩
    · obtain ⟨hkeeps, hshelf, -⟩ := rollFor_spec hf
      exact ⟨hkeeps, hshelf, fun v hv => by cases hv⟩
    · obtain ⟨hkeeps, hshelf, hrolls⟩ := rollFor_spec hv
      rcases Play.result_bind_eq hrest with ⟨f, rfl, hf⟩ | ⟨os, w, hos, hlast⟩
      · obtain ⟨-, rfl⟩ := Play.result_ofExcept_eq.mp hf
        exact ⟨hkeeps, hshelf, fun v hv => by cases hv⟩
      · obtain ⟨hmatching, rfl⟩ := Play.result_ofExcept_eq.mp hos
        obtain ⟨rfl, rfl⟩ := Play.result_pure_eq.mp hlast
        refine ⟨hkeeps, hshelf, ?_⟩
        rintro v hv
        cases hv
        exact Or.inr ⟨roll, os, hne, hrolls roll rfl, hmatching, rfl⟩
  · rw [if_neg hroll] at h
    obtain ⟨rfl, rfl⟩ := Play.result_pure_eq.mp h
    refine ⟨Keeps.refl s, rfl, ?_⟩
    rintro v hv
    cases hv
    refine Or.inl ⟨?_, rfl⟩
    simpa [Choice.needsRoll] using hroll

/-- The moves of a choice that may be taken. -/
theorem takes_of_follow {s u t : Session} {choice : Choice} {given : Json}
    {picked : Option RandomOutcome} {rules : RuleSet} {roll : Json}
    {outcome : Option RandomOutcome} {r : Except Fault ChoiceResult}
    (governs : s.Governs choice rules)
    (permits : allHold s.context rules.requirements = .ok true)
    (settles : s.Settles choice given picked (.settled roll outcome)) (keeps : s.Keeps u)
    (shelf : u.game.shelf = s.game.shelf)
    (h : (follow choice rules roll outcome).result u = (r, t)) :
    s.Takes choice given picked r t := by
  unfold follow at h
  rcases Play.result_bind_eq h with ⟨f, rfl, hf⟩ | ⟨target, v, htarget, h⟩
  · obtain ⟨-, rfl⟩ := Play.result_ofExcept_eq.mp hf
    exact .stops keeps
  obtain ⟨hto, rfl⟩ := Play.result_ofExcept_eq.mp htarget
  rcases Play.result_bind_eq h with ⟨f, rfl, hf⟩ | ⟨effects, v, heffects, h⟩
  · obtain ⟨-, rfl⟩ := Play.result_ofExcept_eq.mp hf
    exact .stops keeps
  obtain ⟨hon, rfl⟩ := Play.result_ofExcept_eq.mp heffects
  have hbook := keeps.trans (keeps_bookOf u)
  rcases Play.result_bind_eq h with ⟨f, rfl, hf⟩ | ⟨book, v, hb, h⟩
  · rw [hf] at hbook
    exact .stops hbook
  rw [hb] at hbook
  have leads : s.Leads choice given picked rules roll outcome target effects book := by
    refine ⟨governs, permits, settles, hto, hon, ?_⟩
    have hget : (u.game.shelf.get u.game.files u.state.bookId).1 = .ok book :=
      congrArg Prod.fst hb
    rwa [shelf, keeps.game.files, keeps.state] at hget
  have hcontext : ({ state := v.state } : Context) = s.context := by
    rw [hbook.state]
    rfl
  split at h
  · next habsent =>
    obtain ⟨rfl, rfl⟩ := Play.result_pure_eq.mp h
    exact .strays leads habsent hbook
  · next reached hpresent =>
    rcases Play.result_bind_eq h with ⟨f, rfl, hf⟩ | ⟨_, w, hmove, h⟩
    · unfold moveTo at hf
      rw [Play.result_ofFunction, hcontext] at hf
      split at hf
      · cases (Prod.mk.inj hf).1
      · next c f' happlies =>
        obtain ⟨hf', rfl⟩ := Prod.mk.inj hf
        cases hf'
        exact .breaks leads hpresent happlies rfl hbook.game
    · unfold moveTo at hmove
      rw [Play.result_ofFunction, hcontext] at hmove
      split at hmove
      · next c happlies =>
        obtain ⟨-, rfl⟩ := Prod.mk.inj hmove
        obtain ⟨rfl, rfl⟩ := Play.result_pure_eq.mp h
        exact .arrives leads hpresent happlies rfl hbook.game
      · cases (Prod.mk.inj hmove).1

/-- **Every run of taking a choice is one of the ways.** -/
theorem takes_of_applyChoice {s t : Session} {choice : Choice} {given : Json}
    {picked : Option RandomOutcome} {r : Except Fault ChoiceResult}
    (h : (applyChoice choice given picked).result s = (r, t)) :
    s.Takes choice given picked r t := by
  unfold applyChoice at h
  rcases Play.result_bind_eq h with ⟨f, rfl, hf⟩ | ⟨s', u, hget, h⟩
  · cases hf
  cases hget
  rcases Play.result_bind_eq h with ⟨f, rfl, hf⟩ | ⟨rules, u, hrules, h⟩
  · exact .stops (rulesFor_spec hf).1
  obtain ⟨hkeeps, hsource, hshelf, hgoverns⟩ := rulesFor_spec hrules
  have governs := hgoverns rules rfl
  rcases Play.result_bind_eq h with ⟨f, rfl, hf⟩ | ⟨e, v, he, h⟩
  · obtain ⟨-, rfl⟩ := Play.result_ofExcept_eq.mp hf
    exact .stops hkeeps
  obtain ⟨hevaluate, rfl⟩ := Play.result_ofExcept_eq.mp he
  obtain ⟨isAvailable, hholds, hanswer⟩ := bind_eq_ok_iff.mp hevaluate
  cases hanswer
  cases isAvailable with
  | false =>
      obtain ⟨rfl, rfl⟩ := Play.result_pure_eq.mp h
      exact .refuses governs hholds hkeeps
  | true =>
      have hsettles : ∀ v, u.Settles choice given picked v → s.Settles choice given picked v := by
        rintro v (⟨hnil, rfl⟩ | ⟨roll, os, hne, hroll, hos, rfl⟩)
        · exact Or.inl ⟨hnil, rfl⟩
        · refine Or.inr ⟨roll, os, hne, ?_, hos, rfl⟩
          cases given <;> simp_all [Rolls]
      rcases Play.result_bind_eq h with ⟨f, rfl, hf⟩ | ⟨v, w, hv, h⟩
      · exact .stops (hkeeps.trans (settle_spec hf).1)
      obtain ⟨hkeeps', hshelf', hv⟩ := settle_spec hv
      have settles := hsettles v (hv v rfl)
      cases v with
      | contested roll os =>
          obtain ⟨rfl, rfl⟩ := Play.result_pure_eq.mp h
          exact .waits governs hholds settles (hkeeps.trans hkeeps')
      | settled roll outcome =>
          exact takes_of_follow governs hholds settles (hkeeps.trans hkeeps')
            (hshelf'.trans hshelf) h

/-- A choice that comes to an answer has found the rules. -/
theorem Takes.hasCatalog {s t : Session} {choice : Choice} {given : Json}
    {picked : Option RandomOutcome} {r : ChoiceResult} (h : s.Takes choice given picked (.ok r) t) :
    ∃ catalog, s.HasCatalog catalog := by
  have hgoverns : ∃ rules, s.Governs choice rules := by
    cases h with
    | refuses governs _ _ => exact ⟨_, governs⟩
    | waits governs _ _ _ => exact ⟨_, governs⟩
    | strays leads _ _ => exact ⟨_, leads.governs⟩
    | arrives leads _ _ _ _ => exact ⟨_, leads.governs⟩
  obtain ⟨rules, catalog, hcatalog, -⟩ := hgoverns
  exact ⟨catalog, hcatalog⟩

end Session

end Questbook
