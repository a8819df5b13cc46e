import Questbook.Proofs.Game.Owner
import Questbook.Proofs.Series.Lookup

set_option autoImplicit false

/-! # Tables that answer alike

A table is asked for books, for rule catalogs and for combat tables. It may have to read them from its
files, and keeps what it has read. Two tables answer alike if they give the same to each of these
questions, now and later (`Game.SameAnswers`): asking changes no answer (`Bookshelf.result_get_after`,
`Game.sameAnswers_withEngine`). What a choice or a round of combat comes to depends on the table by its
answers only, save for the rolls.

Sessions are followed in pairs (`Session.Twin`): both are in the same state, and each of them has the
source of rolls that is told. `Play.Agree` then says of what they do that it comes to the same and rolls
in neither.
-/

namespace Questbook

/-! ## Bookshelves -/

namespace Bookshelf

/-- What a file of the shelf gives. -/
def onFile (b : Bookshelf) (files : FileTree) (name : String) : Except Fault Book :=
  if files.pathExists (b.bookPath name) then loadBook files (b.bookPath name)
  else .error (.noBookFile (b.bookPath name).text)

/-- A book is fetched from its file, and kept if it can be read. -/
theorem fetch_eq (b : Bookshelf) (files : FileTree) (name : String) :
    b.fetch files name = (b.onFile files name,
      match b.onFile files name with
      | .ok book => { b with known := b.known ++ [(name, book)] }
      | .error _ => b) := by
  unfold fetch onFile
  by_cases hexists : files.pathExists (b.bookPath name) = true
  · simp only [hexists, if_true]
    cases loadBook files (b.bookPath name) <;> rfl
  · simp only [hexists, if_false, Bool.false_eq_true]

/-- What asking for a book leaves: the shelf as it was, or with the book that its file holds. -/
theorem left_get (b : Bookshelf) (files : FileTree) (id : Json) :
    (b.get files id).2 = b ∨ ∃ name book, b.onFile files name = .ok book ∧
      (b.get files id).2 = { b with known := b.known ++ [(name, book)] } := by
  cases id with
  | str name =>
      show (b.getNamed files name).2 = b ∨ ∃ name' book, b.onFile files name' = .ok book ∧
        (b.getNamed files name).2 = _
      unfold getNamed
      split
      · exact Or.inl rfl
      cases b.known.lookup name with
      | some book => exact Or.inl rfl
      | none =>
          simp only [fetch_eq]
          cases hfile : b.onFile files name with
          | error f => exact Or.inl rfl
          | ok book => exact Or.inr ⟨name, book, hfile, rfl⟩
  | _ => exact Or.inl rfl

/-- What is given for a name that is not blank: the book that is kept, or else what its file gives. -/
theorem result_getNamed {b : Bookshelf} {files : FileTree} {name : String}
    (h : Text.isBlank name = false) :
    (b.getNamed files name).1 = ((b.known.lookup name).map .ok).getD (b.onFile files name) := by
  unfold getNamed
  rw [h, if_neg Bool.false_ne_true]
  cases b.known.lookup name with
  | some book => rfl
  | none => simp only [fetch_eq, Option.map_none, Option.getD_none]

/-- **Asking for a book changes no answer,** neither to the same question nor to another one. -/
theorem result_get_after (b : Bookshelf) (files : FileTree) (id other : Json) :
    ((b.get files id).2.get files other).1 = (b.get files other).1 := by
  rcases b.left_get files id with hsame | ⟨name, book, hfile, hafter⟩
  · rw [hsame]
  rw [hafter]
  cases other with
  | str wanted =>
      show (getNamed _ files wanted).1 = (getNamed b files wanted).1
      cases hblank : Text.isBlank wanted with
      | true =>
          unfold getNamed
          rw [hblank]
          rfl
      | false =>
          rw [result_getNamed hblank, result_getNamed hblank, List.lookup_append]
          cases b.known.lookup wanted with
          | some found => rfl
          | none =>
              by_cases hwanted : wanted = name
              · -- the book that is kept now is the one that its file gives
                subst hwanted
                rw [List.lookup_cons_self, hfile]
                rfl
              · rw [List.lookup_cons, beq_eq_false_iff_ne.mpr hwanted]
                rfl
  | _ => rfl

end Bookshelf

/-! ## Tables -/

namespace Game

/-- **Whether two tables answer alike.** -/
structure SameAnswers (g h : Game) : Prop where
  book : ∀ id, (h.shelf.get h.files id).1 = (g.shelf.get g.files id).1
  catalog : ∀ key, ((Engine.catalogOf h.files key).result h.engine).1 =
    ((Engine.catalogOf g.files key).result g.engine).1
  table : ∀ key, ((Engine.tableOf h.files key).result h.engine).1 =
    ((Engine.tableOf g.files key).result g.engine).1

variable {g h k : Game}

theorem SameAnswers.refl (g : Game) : g.SameAnswers g :=
  ⟨fun _ => rfl, fun _ => rfl, fun _ => rfl⟩

theorem SameAnswers.symm (hgh : g.SameAnswers h) : h.SameAnswers g :=
  ⟨fun id => (hgh.book id).symm, fun key => (hgh.catalog key).symm, fun key => (hgh.table key).symm⟩

theorem SameAnswers.trans (hgh : g.SameAnswers h) (hhk : h.SameAnswers k) : g.SameAnswers k :=
  ⟨fun id => (hhk.book id).trans (hgh.book id), fun key => (hhk.catalog key).trans (hgh.catalog key),
    fun key => (hhk.table key).trans (hgh.table key)⟩

/-- **What a computation does to a table:** it may make it load something, but not roll. -/
structure Loads (g h : Game) : Prop where
  answers : g.SameAnswers h
  source : h.engine.source = g.engine.source

theorem loads_bookOf (state : GameState) (g : Game) : g.Loads ((bookOf state).result g).2 :=
  ⟨⟨fun other => g.shelf.result_get_after g.files state.bookId other, fun _ => rfl, fun _ => rfl⟩, rfl⟩

theorem SameAnswers.bookOf (hgh : g.SameAnswers h) (state : GameState) :
    ((bookOf state).result h).1 = ((Game.bookOf state).result g).1 :=
  hgh.book state.bookId

end Game

/-! ## What is looked up for a series -/

namespace Engine

variable {α β : Type}

/-- A computation that looks something up for a series, and goes on with what it finds. -/
def lookUp (look : Option String → Play Engine β) (next : β → Except Fault α) (series : Json) :
    Play Engine α := do
  let key ← .ofExcept (Series.keyOfJson series)
  let found ← look key
  .ofExcept (next found)

theorem result_lookUp (look : Option String → Play Engine β) (next : β → Except Fault α)
    (series : Json) (e : Engine) :
    (lookUp look next series).result e =
      match Series.keyOfJson series with
      | .ok key => (((look key).result e).1 >>= next, ((look key).result e).2)
      | .error f => (.error f, e) := by
  unfold lookUp
  cases Series.keyOfJson series with
  | error f => rfl
  | ok key =>
      show (look key >>= fun found => Play.ofExcept (next found)).result e =
        (((look key).result e).1 >>= next, ((look key).result e).2)
      rw [Play.result_bind]
      cases (look key).result e with
      | mk r e' => cases r <;> rfl

end Engine

namespace Game

variable {α β : Type} {g h : Game}

/-- What a table gives for a series comes from the answers to what is looked up. -/
theorem result_withEngine_congr {look : FileTree → Option String → Play Engine β}
    (hlook : ∀ key, ((look h.files key).result h.engine).1 = ((look g.files key).result g.engine).1)
    (next : β → Except Fault α) (series : Json) :
    ((withEngine fun files => Engine.lookUp (look files) next series).result h).1 =
      ((withEngine fun files => Engine.lookUp (look files) next series).result g).1 := by
  show ((Engine.lookUp (look h.files) next series).result h.engine).1 =
    ((Engine.lookUp (look g.files) next series).result g.engine).1
  rw [Engine.result_lookUp, Engine.result_lookUp]
  cases Series.keyOfJson series with
  | error f => rfl
  | ok key => exact congrArg (· >>= next) (hlook key)

/-- Looking something up for a series loads at most. -/
theorem loads_withEngine {look : FileTree → Option String → Play Engine β}
    (hlook : ∀ key, Engine.SameAnswers g.files g.engine ((look g.files key).result g.engine).2 ∧
      ((look g.files key).result g.engine).2.source = g.engine.source)
    (next : β → Except Fault α) (series : Json) :
    g.Loads ((withEngine fun files => Engine.lookUp (look files) next series).result g).2 := by
  show g.Loads
    { g with engine := ((Engine.lookUp (look g.files) next series).result g.engine).2 }
  rw [Engine.result_lookUp]
  cases Series.keyOfJson series with
  | error f => exact ⟨.refl g, rfl⟩
  | ok key =>
      obtain ⟨hanswers, hsource⟩ := hlook key
      exact ⟨⟨fun _ => rfl, hanswers.catalog, hanswers.table⟩, hsource⟩

end Game

/-! ## Sessions in pairs -/

namespace Session

/-- **Whether two sessions are in the same state** at tables that answer as another one does. Their
sources of rolls may be different ones. -/
structure Twin (g : Game) (a b : RollSource) (s t : Session) : Prop where
  state : t.state = s.state
  left : g.SameAnswers s.game
  right : g.SameAnswers t.game
  leftSource : s.game.engine.source = a
  rightSource : t.game.engine.source = b

variable {g : Game} {a b : RollSource} {α β : Type}

/-- What does not roll and depends on the answers only comes to the same. -/
theorem agree_twin {p : GameState → Play Game α}
    (hresult : ∀ {h k : Game} (state : GameState), h.SameAnswers k →
      ((p state).result k).1 = ((p state).result h).1)
    (hloads : ∀ (h : Game) (state : GameState), h.Loads ((p state).result h).2) :
    Play.Agree (Twin g a b) (withGame p) (withGame p) := by
  intro s t htwin
  have hs := hloads s.game s.state
  have ht := hloads t.game t.state
  refine ⟨?_, htwin.state, htwin.left.trans hs.answers, htwin.right.trans ht.answers,
    hs.source.trans htwin.leftSource, ht.source.trans htwin.rightSource⟩
  show ((p s.state).result s.game).1 = ((p t.state).result t.game).1
  rw [htwin.state]
  exact (hresult s.state (htwin.left.symm.trans htwin.right)).symm

theorem agree_twin_bookOf :
    Play.Agree (Twin g a b) (withGame Game.bookOf) (withGame Game.bookOf) :=
  agree_twin (fun state hsame => hsame.bookOf state) (fun h state => Game.loads_bookOf state h)

theorem agree_twin_rulesFor (choice : Choice) (c : Context) :
    Play.Agree (Twin g a b)
      (withGame fun _ => Game.withEngine fun files => Engine.rulesFor files choice c)
      (withGame fun _ => Game.withEngine fun files => Engine.rulesFor files choice c) :=
  agree_twin
    (fun _ hsame => Game.result_withEngine_congr hsame.catalog
      (fun catalog => catalog.rulesFor choice) c.state.series)
    (fun h _ => Game.loads_withEngine
      (fun key => ⟨Engine.sameAnswers_catalogOf h.files key h.engine, rfl⟩)
      (fun catalog => catalog.rulesFor choice) c.state.series)

theorem agree_twin_round (player : Character) (enemySkill enemyEndurance roll series : Json) :
    Play.Agree (Twin g a b)
      (withGame fun _ => Game.withEngine fun files =>
        Engine.fight files player enemySkill enemyEndurance roll series)
      (withGame fun _ => Game.withEngine fun files =>
        Engine.fight files player enemySkill enemyEndurance roll series) :=
  agree_twin
    (fun _ hsame => Game.result_withEngine_congr hsame.table
      (fun table => resolveRound player enemySkill enemyEndurance roll table) series)
    (fun h _ => Game.loads_withEngine
      (fun key => ⟨Engine.sameAnswers_tableOf h.files key h.engine, rfl⟩)
      (fun table => resolveRound player enemySkill enemyEndurance roll table) series)

/-- A change of the state alone is the same for both. -/
theorem agree_twin_of_state {p : Play Session α} {f : GameState → Except Fault α × GameState}
    (h : ∀ s : Session, p.result s = ((f s.state).1, { s with state := (f s.state).2 })) :
    Play.Agree (Twin g a b) p p := by
  intro s t htwin
  rw [h, h, htwin.state]
  exact ⟨rfl, rfl, htwin.left, htwin.right, htwin.leftSource, htwin.rightSource⟩

theorem agree_twin_moveTo (reached : Section) (effects : List Effect) :
    Play.Agree (Twin g a b) (moveTo reached effects) (moveTo reached effects) := by
  refine agree_twin_of_state
    (f := fun state =>
      ((applyAll { state } effects).2.elim (.ok ()) .error,
        (applyAll { state } effects).2.elim
          { (applyAll { state } effects).1.state with sectionId := .str reached.id }
          fun _ => (applyAll { state } effects).1.state)) fun s => ?_
  rw [moveTo, Play.result_ofFunction]
  cases applyAll { state := s.state } effects with
  | mk c failed => cases failed <;> rfl

theorem agree_twin_endure (endurance : Int) :
    Play.Agree (Twin g a b) (endure endurance) (endure endurance) :=
  agree_twin_of_state
    (f := fun state => (.ok (), { state with character := { state.character with endurance } }))
    fun _ => rfl

end Session

end Questbook
