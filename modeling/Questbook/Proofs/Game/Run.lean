import Questbook.Proofs.Game.Start
import Questbook.Proofs.SaveSlots

set_option autoImplicit false

/-! # Whole games

A `Sitting.Run` starts a book and goes on with any calls in any order: choices, rounds of combat,
saving, and loading what was saved on the way. A call may fail; the run goes on all the same.

What holds at the start holds all along (`run_continues`): the play stays in its book and at one of
its sections, the character stays sound, and nothing but section and character ever changes. Loading
needs that each file written on the way states such a game or none (`Sitting.SafeSlot`).
-/

namespace Questbook

/-! ## Runs -/

namespace Sitting

/-- **The runs of a book:** the start, and then any calls in any order. The first list holds the
slots in which the game has been saved, and only those are loaded from. Loading leaves the state of
the play aside, and the play may turn back to any state of the second list. -/
inductive Run (g : Game) (id : String) (first : GameState) :
    List Json → List GameState → Sitting → Prop
  | starts {s : Sitting} (h : (start (.str id) {}).result { game := g } = (.ok first, s)) :
      Run g id first [] [] s
  | chooses {saved : List Json} {aside : List GameState} {s : Sitting}
      (h : Run g id first saved aside s) (choice : Option Choice) (roll : Json)
      (picked : Option RandomOutcome) :
      Run g id first saved aside ((applyChoice choice roll picked).result s).2
  | fights {saved : List Json} {aside : List GameState} {s : Sitting}
      (h : Run g id first saved aside s) (enemySkill enemyEndurance roll : Json) :
      Run g id first saved aside ((fight enemySkill enemyEndurance roll).result s).2
  | saves {saved : List Json} {aside : List GameState} {s t : Sitting} {slot : Json} {p : Path}
      (h : Run g id first saved aside s) (hsaved : (save slot).result s = (.ok p, t)) :
      Run g id first (slot :: saved) aside t
  | failsToSave {saved : List Json} {aside : List GameState} {s t : Sitting} {slot : Json}
      {f : Fault} (h : Run g id first saved aside s)
      (hfailed : (save slot).result s = (.error f, t)) : Run g id first saved aside t
  | loads {saved : List Json} {aside : List GameState} {s : Sitting} {slot : Json}
      (h : Run g id first saved aside s) (hslot : slot ∈ saved) :
      Run g id first saved (s.state.toList ++ aside) ((load slot).result s).2
  | turns {saved : List Json} {aside : List GameState} {s : Sitting} {state : GameState}
      (h : Run g id first saved aside s) (hstate : state ∈ aside) :
      Run g id first saved (s.state.toList ++ aside) { s with state := some state }

/-- **Whether the file of a slot is safe to load:** it states a game that goes on, or none. -/
def SafeSlot (g : Game) (book : Book) (first : GameState) (slot : Json) : Prop :=
  ∃ place bytes, g.slots.HasPlace g.files slot place ∧
    g.files.node? place = some (.file bytes) ∧
    ∀ state, SaveSlots.States g.newId bytes state → state.Continues book first

/-- **What holds all along a run.** -/
structure OnCourse (newId id : String) (book : Book) (first : GameState) (saved : List Json)
    (aside : List GameState) (s : Sitting) : Prop where
  bookId : first.bookId = .str id
  state : ∃ state, s.state = some state ∧ state.Continues book first
  aside : ∀ state ∈ aside, state.Continues book first
  read : s.game.HasRead id book
  newId : s.game.newId = newId
  safe : ∀ slot ∈ saved, SafeSlot s.game book first slot

variable {newId id : String} {book : Book} {first : GameState} {saved : List Json}
  {aside : List GameState} {s : Sitting}

/-- A session that goes on keeps a sitting on its course. -/
theorem OnCourse.session {t : Session} (h : OnCourse newId id book first saved aside s)
    (hcontinues : t.state.Continues book first) (hkeeps : s.game.Keeps t.game) :
    OnCourse newId id book first saved aside { game := t.game, state := some t.state } := by
  refine ⟨h.bookId, ⟨t.state, rfl, hcontinues⟩, h.aside, h.read.keeps hkeeps,
    hkeeps.newId.trans h.newId, ?_⟩
  intro slot hslot
  obtain ⟨place, bytes, hplace, hnode, hstates⟩ := h.safe slot hslot
  refine ⟨place, bytes, ?_, ?_, ?_⟩
  · show t.game.slots.HasPlace t.game.files slot place
    rwa [hkeeps.slots, hkeeps.files]
  · show t.game.files.node? place = _
    rwa [hkeeps.files]
  · show ∀ state, SaveSlots.States t.game.newId bytes state → _
    rwa [hkeeps.newId]

/-- What a computation of a session does to a sitting at which the play has begun. -/
theorem result_inSession {α : Type} {p : Play Session α} {g : Game} {state : GameState}
    {r : Except Fault α} {t : Session} (h : p.result { game := g, state } = (r, t)) :
    (inSession p).result { game := g, state := some state } =
      (r, { game := t.game, state := some t.state }) := by
  have hresult : (inSession p).result { game := g, state := some state } =
      ((p.result ⟨g, state⟩).1,
        ⟨(p.result ⟨g, state⟩).2.game, some (p.result ⟨g, state⟩).2.state⟩) := rfl
  rw [hresult, h]

theorem OnCourse.chooses (h : OnCourse newId id book first saved aside s) (choice : Option Choice)
    (roll : Json) (picked : Option RandomOutcome) :
    OnCourse newId id book first saved aside ((applyChoice choice roll picked).result s).2 := by
  obtain ⟨g, _⟩ := s
  obtain ⟨state, rfl, hcontinues⟩ := h.state
  cases choice with
  | none => exact h
  | some choice =>
      show OnCourse newId id book first saved aside
        ((inSession (Session.applyChoice choice roll picked)).result ⟨g, some state⟩).2
      cases hrun : (Session.applyChoice choice roll picked).result { game := g, state } with
      | mk r t =>
          obtain ⟨hgoes, hkeeps⟩ :=
            (Session.takes_of_applyChoice hrun).continues h.read h.bookId hcontinues
          rw [result_inSession hrun]
          exact h.session hgoes hkeeps

theorem OnCourse.fights (h : OnCourse newId id book first saved aside s)
    (enemySkill enemyEndurance roll : Json) :
    OnCourse newId id book first saved aside ((fight enemySkill enemyEndurance roll).result s).2 := by
  obtain ⟨g, _⟩ := s
  obtain ⟨state, rfl, hcontinues⟩ := h.state
  show OnCourse newId id book first saved aside
    ((inSession (Session.fight enemySkill enemyEndurance roll)).result ⟨g, some state⟩).2
  cases hrun : (Session.fight enemySkill enemyEndurance roll).result { game := g, state } with
  | mk r t =>
      obtain ⟨hgoes, hkeeps⟩ := Session.continues_of_fight hcontinues hrun
      rw [result_inSession hrun]
      exact h.session hgoes hkeeps

/-- **Saving leaves safe files:** the one that is written is safe whether or not the writing came to
its end, and the others are as they were. -/
theorem OnCourse.saves (h : OnCourse newId id book first saved aside s)
    (hstart : ∀ state : GameState, state.Continues book first →
      state.Settled newId ∧ state.Plain) {slot : Json} {r : Except Fault Path} {t : Sitting}
    (hsave : (save slot).result s = (r, t)) :
    OnCourse newId id book first saved aside t ∧
      ∀ p, r = .ok p → SafeSlot t.game book first slot := by
  obtain ⟨g, _⟩ := s
  obtain ⟨state, rfl, hcontinues⟩ := h.state
  obtain ⟨hsettled, hplain⟩ := hstart state hcontinues
  cases hfiles : g.slots.save g.files slot state with
  | mk q files =>
      have hresult : (save slot).result { game := g, state := some state } =
          ((g.slots.save g.files slot state).1,
            { game := { g with files := (g.slots.save g.files slot state).2 },
              state := some state }) := rfl
      rw [hresult, hfiles] at hsave
      obtain ⟨rfl, rfl⟩ := Prod.mk.inj hsave
      obtain ⟨hsame, hkept, hwritten⟩ := SaveSlots.saves_of_save hfiles
      have hsafe : ∀ state', SaveSlots.States g.newId (SaveSlots.writtenBytes state) state' →
          state'.Continues book first := by
        intro state' hstates
        rw [SaveSlots.eq_of_states_written hplain (h.newId ▸ hsettled) hstates]
        exact hcontinues
      refine ⟨⟨h.bookId, ⟨state, rfl, hcontinues⟩, h.aside, ⟨h.read.named, h.read.known⟩,
        h.newId, ?_⟩, ?_⟩
      · intro other hother
        obtain ⟨place, bytes, hplace, hnode, hstates⟩ := h.safe other hother
        rcases hkept place bytes hnode with hnode | hnode
        · exact ⟨place, bytes, hplace.of_sameDirectories hsame, hnode, hstates⟩
        · exact ⟨place, _, hplace.of_sameDirectories hsame, hnode, hsafe⟩
      · intro p hp
        obtain ⟨place, hplace, hnode⟩ := hwritten p hp
        exact ⟨place, _, hplace, hnode, hsafe⟩

theorem OnCourse.loads (h : OnCourse newId id book first saved aside s) {slot : Json}
    (hslot : slot ∈ saved) :
    OnCourse newId id book first saved aside ((load slot).result s).2 := by
  obtain ⟨g, _⟩ := s
  obtain ⟨state, rfl, hcontinues⟩ := h.state
  obtain ⟨place, bytes, hplace, hnode, hstates⟩ := h.safe slot hslot
  have hresult : (onGame (Game.load slot)).result { game := g, state := some state } =
      (g.slots.load g.files g.newId slot, { game := g, state := some state }) := rfl
  unfold load
  cases hload : g.slots.load g.files g.newId slot with
  | error f =>
      rw [hload] at hresult
      rw [Play.result_bind_of_error hresult]
      exact h
  | ok loaded =>
      rw [hload] at hresult
      rw [Play.result_bind_of_ok hresult]
      cases loaded with
      | none => exact h
      | some state' =>
          have hgoes := hstates state' (SaveSlots.states_of_load hplace hnode hload)
          exact ⟨h.bookId, ⟨state', rfl, hgoes⟩, h.aside, h.read, h.newId, h.safe⟩

/-- The state of the play can be left aside. -/
theorem OnCourse.leaves (h : OnCourse newId id book first saved aside s) :
    ∀ state ∈ s.state.toList ++ aside, state.Continues book first := by
  obtain ⟨current, hcurrent, hcontinues⟩ := h.state
  intro state hstate
  rw [hcurrent] at hstate
  rcases List.mem_cons.mp hstate with rfl | hstate
  · exact hcontinues
  · exact h.aside state hstate

/-- **How every run starts.** -/
theorem Run.first_eq {g : Game} (hrun : Run g id first saved aside s)
    (hbook : (g.shelf.get g.files (.str id)).1 = .ok book) :
    ∃ series, first = Game.firstState g.newId (.str id) book series {} := by
  induction hrun with
  | starts h =>
      obtain ⟨_, hgame, -⟩ := start_spec h
      obtain ⟨book', series, hget, -, -, hfirst⟩ := Game.start_spec hgame
      obtain rfl : book = book' := Except.ok.inj (hbook.symm.trans hget)
      exact ⟨series, hfirst⟩
  | chooses _ _ _ _ ih => exact ih
  | fights _ _ _ _ ih => exact ih
  | saves _ _ ih => exact ih
  | failsToSave _ _ ih => exact ih
  | loads _ _ ih => exact ih
  | turns _ _ ih => exact ih

/-- **A run stays on its course.** -/
theorem Run.onCourse {g : Game} (hrun : Run g id first saved aside s)
    (hbook : (g.shelf.get g.files (.str id)).1 = .ok book) (hsections : book.sections ≠ [])
    (hid : book.id = .str id ∨ book.id.isGiven = false) :
    OnCourse g.newId id book first saved aside s := by
  obtain ⟨series, hfirst⟩ := hrun.first_eq hbook
  have hbookId : first.bookId = .str id := by
    rw [hfirst]
    exact Game.bookId_firstState hid
  have hreadable : ∀ state : GameState, state.Continues book first →
      state.Settled g.newId ∧ state.Plain := by
    intro state h
    rw [hfirst] at h
    exact ⟨h.belongs.settled hid, h.belongs.plain hid⟩
  induction hrun with
  | starts h =>
      obtain ⟨g', hgame, rfl⟩ := start_spec h
      obtain ⟨book', _, hget, hread, hnew, -⟩ := Game.start_spec hgame
      obtain rfl : book = book' := Except.ok.inj (hbook.symm.trans hget)
      refine ⟨hbookId, ⟨first, rfl, ?_⟩, fun _ haside => ?_, hread, hnew, fun _ hslot => ?_⟩
      · rw [hfirst]
        exact GameState.continues_firstState hsections
      · cases haside
      · cases hslot
  | chooses _ choice roll picked ih => exact ih.chooses choice roll picked
  | fights _ enemySkill enemyEndurance roll ih => exact ih.fights enemySkill enemyEndurance roll
  | saves _ hsaved ih =>
      obtain ⟨hcourse, hsafe⟩ := ih.saves hreadable hsaved
      refine ⟨hbookId, hcourse.state, hcourse.aside, hcourse.read, hcourse.newId, ?_⟩
      intro slot hslot
      rcases List.mem_cons.mp hslot with rfl | hslot
      · exact hsafe _ rfl
      · exact hcourse.safe slot hslot
  | failsToSave _ hfailed ih => exact (ih.saves hreadable hfailed).1
  | loads _ hslot ih =>
      have hcourse := ih.loads hslot
      exact ⟨hbookId, hcourse.state, ih.leaves, hcourse.read, hcourse.newId, hcourse.safe⟩
  | @turns _ _ _ state _ hstate ih =>
      exact ⟨hbookId, ⟨state, rfl, ih.aside state hstate⟩, ih.leaves, ih.read, ih.newId, ih.safe⟩

/-- The section of a state that goes on is found. -/
theorem result_currentSection {g : Game} {state : GameState} (hread : g.HasRead id book)
    (hid : state.bookId = .str id) (hin : book.HasSection state.sectionId) :
    ∃ x, state.sectionId = .str x.id ∧ (currentSection).result { game := g, state := some state } =
      (.ok (some x), { game := g, state := some state }) := by
  cases hx : book.sectionAt? state.sectionId with
  | none => exact absurd hin (Book.not_hasSection_of_sectionAt? hx)
  | some x =>
      have hbook : (Game.bookOf state).result g = (.ok book, g) := by
        show ((g.shelf.get g.files state.bookId).1,
          { g with shelf := (g.shelf.get g.files state.bookId).2 }) = _
        rw [hid, hread.get g.files]
      have hgame : (Game.currentSection state).result g = (.ok (some x), g) := by
        unfold Game.currentSection
        rw [Play.result_bind_of_ok hbook, ← hx]
        rfl
      have hsitting : (onGame (Game.currentSection state)).result ⟨g, some state⟩ =
          (.ok (some x), ⟨g, some state⟩) := by
        show (((Game.currentSection state).result g).1,
          Sitting.mk ((Game.currentSection state).result g).2 (some state)) = _
        rw [hgame]
      have hstate : playState.result ⟨g, some state⟩ = (.ok state, ⟨g, some state⟩) := rfl
      refine ⟨x, (Book.mem_of_sectionAt? hx).2, ?_⟩
      unfold currentSection
      rw [Play.result_bind_of_ok hstate]
      exact hsitting

end Sitting

/-- **Every state of a run** goes on with the game that was started, and its section is found. -/
theorem run_continues {g : Game} {id : String} {book : Book} {first : GameState}
    {saved : List Json} {aside : List GameState} {s : Sitting}
    (hbook : (g.shelf.get g.files (.str id)).1 = .ok book) (hsections : book.sections ≠ [])
    (hid : book.id = .str id ∨ book.id.isGiven = false)
    (hrun : Sitting.Run g id first saved aside s) :
    ∃ state, s.state = some state ∧ state.Continues book first ∧
      ∃ x, state.sectionId = .str x.id ∧ (Sitting.currentSection.result s).1 = .ok (some x) := by
  have hcourse := hrun.onCourse hbook hsections hid
  obtain ⟨table, _⟩ := s
  obtain ⟨state, rfl, hcontinues⟩ := hcourse.state
  have hbookId : state.bookId = .str id := hcontinues.bookId.trans hcourse.bookId
  obtain ⟨x, hx, hsection⟩ :=
    Sitting.result_currentSection hcourse.read hbookId hcontinues.inBook
  exact ⟨state, rfl, hcontinues, x, hx, congrArg Prod.fst hsection⟩

/-! ## A game that is saved and loaded -/

/-- A book with two sections. -/
def shortBook : Book where
  id := .str "b"
  series := .str "lw"
  sections := [{ id := "1" }, { id := "2" }]

/-- A table at which the book has been read. -/
def shortTable : Game where
  files := {}
  shelf := { directory := {}, known := [("b", shortBook)] }
  slots := { directory := { parts := ["saves"] } }
  engine := { source := .cycling [], catalogs := { values := [("lw", {})] } }
  newId := "c"

/-- A choice that wounds the character and grants a discipline. -/
def onward : Choice where
  target := .str "2"
  effects := [.str "endurance:damage:2", .str "discipline:Hunting"]

/-- The sitting at which the book has been started. -/
def shortSitting : Sitting where
  game := shortTable
  state := some (Game.firstState "c" (.str "b") shortBook "lw" {})

/-- The game is saved in the first section, goes on to the second one, and is loaded again. -/
theorem run_continues_loaded :
    (shortTable.shelf.get shortTable.files (.str "b")).1 = .ok shortBook ∧
      shortBook.sections ≠ [] ∧ shortBook.id = .str "b" ∧
      ∃ first aside s, Sitting.Run shortTable "b" first [.str "slot"] aside s ∧
        ∃ state, s.state = some state ∧ state.Continues shortBook first ∧
          ∃ x, state.sectionId = .str x.id ∧
            (Sitting.currentSection.result s).1 = .ok (some x) := by
  have hbook : (shortTable.shelf.get shortTable.files (.str "b")).1 = .ok shortBook := rfl
  have hsections : shortBook.sections ≠ [] := by simp [shortBook]
  have hid : shortBook.id = .str "b" := rfl
  have hstarted : Sitting.Run shortTable "b" (Game.firstState "c" (.str "b") shortBook "lw" {}) []
      [] shortSitting := .starts rfl
  have hsaves : ((Sitting.save (.str "slot")).result shortSitting).1.toBool = true := by
    decide +kernel
  cases hsaved : (Sitting.save (.str "slot")).result shortSitting with
  | mk r t =>
      cases r with
      | error f =>
          rw [hsaved] at hsaves
          cases hsaves
      | ok p =>
          have hrun := ((hstarted.saves hsaved).chooses (some onward) .null none).loads
            (List.mem_singleton_self _)
          exact ⟨hbook, hsections, hid, _, _, _, hrun,
            run_continues hbook hsections (Or.inl hid) hrun⟩

end Questbook
