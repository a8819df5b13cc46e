import Questbook.Proofs.Game.Flow
import Questbook.Proofs.Token.Effects

set_option autoImplicit false

/-! # What choices and rounds of combat keep

A state belongs to a game (`GameState.Belongs`) if nothing but section and character has changed and
the character is the same sound one. It goes on with the game (`GameState.Continues`) if it is also in
one of the sections of the book. Choices and rounds of combat lead from such a state to such a state,
also when they fail (`Session.Takes.belongs`, `Session.Takes.continues`, `Session.continues_of_fight`).
A choice that is not applied leaves the state as it is (`Session.Takes.state_eq_of_not_applied`).
-/

namespace Questbook

/-! ## What goes on -/

/-- **Whether a state belongs to the game that another one began.** -/
structure GameState.Belongs (s first : GameState) : Prop where
  placed : ∃ id, s.sectionId = .str id
  sound : s.character.Sound
  bearer : first.character.SameBearer s.character
  bookId : s.bookId = first.bookId
  series : s.series = first.series
  profile : s.profile = first.profile
  flags : s.flags = first.flags

/-- **Whether a state goes on with the game that another one began.** -/
structure GameState.Continues (s : GameState) (book : Book) (first : GameState) : Prop where
  inBook : book.HasSection s.sectionId
  sound : s.character.Sound
  bearer : first.character.SameBearer s.character
  bookId : s.bookId = first.bookId
  series : s.series = first.series
  profile : s.profile = first.profile
  flags : s.flags = first.flags

/-- A state that goes on with a game belongs to it. -/
theorem GameState.Continues.belongs {s first : GameState} {book : Book} (h : s.Continues book first) :
    s.Belongs first := by
  obtain ⟨x, -, hsection⟩ := h.inBook
  exact ⟨⟨x.id, hsection⟩, h.sound, h.bearer, h.bookId, h.series, h.profile, h.flags⟩

/-- **Whether a table has read a book** under an id. -/
structure Game.HasRead (g : Game) (id : String) (book : Book) : Prop where
  named : Text.isBlank id = false
  known : g.shelf.known.lookup id = some book

theorem Game.HasRead.keeps {g h : Game} {id : String} {book : Book} (hread : g.HasRead id book)
    (hkeeps : g.Keeps h) : h.HasRead id book :=
  ⟨hread.named, hkeeps.known id book hread.known⟩

/-- A book that has been read is not read again. -/
theorem Game.HasRead.get {g : Game} {id : String} {book : Book} (hread : g.HasRead id book)
    (files : FileTree) : g.shelf.get files (.str id) = (.ok book, g.shelf) := by
  show g.shelf.getNamed files id = _
  unfold Bookshelf.getNamed
  rw [hread.named, hread.known]
  rfl

theorem Bookshelf.lookup_known_of_fetch {b : Bookshelf} {files : FileTree} {id : String}
    {book : Book} (hnew : b.known.lookup id = none) (h : (b.fetch files id).1 = .ok book) :
    (b.fetch files id).2.known.lookup id = some book := by
  unfold Bookshelf.fetch at h ⊢
  dsimp only at h ⊢
  split at h
  · next hexists =>
    rw [if_pos hexists]
    split at h
    · next book' hload =>
      cases h
      simp [List.lookup_append, hnew]
    · cases h
  · cases h

/-- A book that is asked for has been read. -/
theorem Bookshelf.lookup_known_of_get {b : Bookshelf} {files : FileTree} {id : String} {book : Book}
    (h : (b.get files (.str id)).1 = .ok book) :
    Text.isBlank id = false ∧ (b.get files (.str id)).2.known.lookup id = some book := by
  have hget : b.get files (.str id) = b.getNamed files id := rfl
  rw [hget] at h ⊢
  unfold Bookshelf.getNamed at h ⊢
  cases hblank : Text.isBlank id with
  | true =>
      rw [hblank] at h
      cases h
  | false =>
      rw [hblank] at h
      refine ⟨rfl, ?_⟩
      rw [if_neg Bool.false_ne_true] at h ⊢
      cases hknown : b.known.lookup id with
      | some book' =>
          rw [hknown] at h
          cases h
          exact hknown
      | none =>
          rw [hknown] at h
          exact lookup_known_of_fetch hknown h

/-! ## Choices -/

theorem Effect.wellFormed_of_mapM {tokens : List Json} {es : List Effect}
    (h : tokens.mapM Effect.ofJson = .ok es) : ∀ e ∈ es, e.change.WellFormed := by
  intro e he
  obtain ⟨token, -, htoken⟩ := mem_of_mapM h e he
  obtain ⟨raw, -, hparse⟩ := bind_eq_ok_iff.mp htoken
  obtain ⟨change, hchange, rfl⟩ := map_eq_ok_iff.mp hparse
  exact Change.wellFormed_of_parse hchange

namespace Session

variable {s t : Session} {choice : Choice} {given : Json} {picked : Option RandomOutcome}

/-- All effects of a choice are read from tokens. -/
theorem Leads.wellFormed {rules : RuleSet} {roll : Json} {outcome : Option RandomOutcome}
    {target : Json} {effects : List Effect} {book : Book}
    (h : s.Leads choice given picked rules roll outcome target effects book) :
    ∀ e ∈ effects, e.change.WellFormed := by
  obtain ⟨catalog, -, hrules⟩ := h.governs
  obtain ⟨-, hown⟩ := Catalog.mapM_of_rulesFor hrules
  obtain ⟨more, hmore, rfl⟩ := append_of_effectsOf h.effects
  intro e he
  rcases List.mem_append.mp he with he | he
  · exact Effect.wellFormed_of_mapM hown e he
  · exact Effect.wellFormed_of_mapM hmore e he

variable {r : Except Fault ChoiceResult}

/-- A choice keeps the table. -/
theorem Takes.keepsGame (h : s.Takes choice given picked r t) : s.game.Keeps t.game := by
  cases h with
  | stops keeps => exact keeps.game
  | refuses _ _ keeps => exact keeps.game
  | waits _ _ _ keeps => exact keeps.game
  | strays _ _ keeps => exact keeps.game
  | arrives _ _ _ _ keeps => exact keeps
  | breaks _ _ _ _ keeps => exact keeps

/-- **A choice leaves the state as it is, or it is applied as a whole:** no effect fails on a
well-typed character. -/
theorem Takes.stays_or_arrives (htakes : s.Takes choice given picked r t)
    (htyped : s.state.character.WellTyped) :
    t.state = s.state ∨ ∃ rules roll outcome target effects book reached c,
      r = .ok (.applied roll outcome reached effects) ∧
      s.Leads choice given picked rules roll outcome target effects book ∧
      book.sectionAt? target = some reached ∧ applyAll s.context effects = (c, none) ∧
      t.state = { c.state with sectionId := .str reached.id } := by
  cases htakes with
  | stops keeps => exact Or.inl keeps.state
  | refuses _ _ keeps => exact Or.inl keeps.state
  | waits _ _ _ keeps => exact Or.inl keeps.state
  | strays _ _ keeps => exact Or.inl keeps.state
  | arrives leads present applies state _ =>
      exact Or.inr ⟨_, _, _, _, _, _, _, _, rfl, leads, present, applies, state⟩
  | @breaks _ _ _ _ effects _ _ _ _ _ _ _ applies _ _ =>
      obtain ⟨d, hd, -⟩ :=
        applyAll_wellTyped (show s.context.character.WellTyped from htyped) effects
      rw [applies] at hd
      cases (Prod.mk.inj hd).2

theorem Takes.state_eq_of_not_applied (htakes : s.Takes choice given picked r t)
    (htyped : s.state.character.WellTyped) (h : ∀ c, r = .ok c → c.isApplied = false) :
    t.state = s.state := by
  rcases htakes.stays_or_arrives htyped with hstays | ⟨_, _, _, _, _, _, _, _, happlied, -⟩
  · exact hstays
  · cases h _ happlied

/-- **A choice stays in the game,** whatever comes of it. -/
theorem Takes.belongs {first : GameState} (htakes : s.Takes choice given picked r t)
    (h : s.state.Belongs first) : t.state.Belongs first := by
  rcases htakes.stays_or_arrives h.sound.toWellTyped with
    hstays | ⟨_, _, _, _, effects, _, reached, c, -, leads, -, applies, state⟩
  · rwa [hstays]
  · have hsame : s.context.SameGame c := by
      have hall := sameGame_applyAll s.context effects
      rwa [applies] at hall
    obtain ⟨d, hd, -, hsound⟩ := applyAll_wellTyped
      (show s.context.character.WellTyped from h.sound.toWellTyped) effects
    rw [applies] at hd
    obtain rfl : c = d := (Prod.mk.inj hd).1
    rw [state, hsame.state]
    exact ⟨⟨reached.id, rfl⟩, hsound leads.wellFormed h.sound, h.bearer.trans hsame.bearer,
      h.bookId, h.series, h.profile, h.flags⟩

/-- **A choice goes on with the game,** whatever comes of it. -/
theorem Takes.continues {id : String} {book : Book} {first : GameState}
    (htakes : s.Takes choice given picked r t) (hread : s.game.HasRead id book)
    (hid : first.bookId = .str id) (h : s.state.Continues book first) :
    t.state.Continues book first ∧ s.game.Keeps t.game := by
  refine ⟨?_, htakes.keepsGame⟩
  have hin : book.HasSection t.state.sectionId := by
    rcases htakes.stays_or_arrives h.sound.toWellTyped with
      hstays | ⟨_, _, _, _, _, book', reached, _, -, leads, present, -, state⟩
    · rw [hstays]
      exact h.inBook
    · have hbook : book' = book := by
        have hget : (s.game.shelf.get s.game.files s.state.bookId).1 = .ok book' := leads.book
        rw [h.bookId, hid, hread.get] at hget
        exact (Except.ok.inj hget).symm
      obtain ⟨hmem, -⟩ := Book.mem_of_sectionAt? present
      rw [hbook] at hmem
      rw [state]
      exact ⟨reached, hmem, rfl⟩
  obtain ⟨-, sound, bearer, bookId, series, profile, flags⟩ := htakes.belongs h.belongs
  exact ⟨hin, sound, bearer, bookId, series, profile, flags⟩

end Session

/-! ## Rounds of combat -/

/-- A round leaves endurance that is not negative. -/
theorem playerEndurance_nonneg {player : Character} {enemySkill enemyEndurance roll : Json}
    {table : CombatTable} {result : RoundResult}
    (h : resolveRound player enemySkill enemyEndurance roll table = .ok result) :
    0 ≤ result.playerEndurance := by
  obtain ⟨effective, -, h⟩ := bind_eq_ok_iff.mp h
  obtain ⟨skill, -, h⟩ := bind_eq_ok_iff.mp h
  obtain ⟨enemy, -, h⟩ := bind_eq_ok_iff.mp h
  obtain ⟨ratio, -, h⟩ := bind_eq_ok_iff.mp h
  obtain ⟨endurance, -, h⟩ := bind_eq_ok_iff.mp h
  obtain ⟨enemyLeft, -, h⟩ := bind_eq_ok_iff.mp h
  obtain ⟨line, -, h⟩ := bind_eq_ok_iff.mp h
  cases h
  exact Int.le_max_left 0 _

theorem Engine.playerEndurance_nonneg {files : FileTree} {player : Character}
    {enemySkill enemyEndurance roll series : Json} {e : Engine} {result : RoundResult}
    (h : ((Engine.fight files player enemySkill enemyEndurance roll series).result e).1 =
      .ok result) : 0 ≤ result.playerEndurance := by
  unfold Engine.fight at h
  rcases Play.result_bind_eq (Prod.ext h rfl) with ⟨f, hf, -⟩ | ⟨key, e', -, hrest⟩
  · cases hf
  rcases Play.result_bind_eq hrest with ⟨f, hf, -⟩ | ⟨table, e'', -, hround⟩
  · cases hf
  obtain ⟨hround, -⟩ := Play.result_ofExcept_eq.mp hround
  exact Questbook.playerEndurance_nonneg hround

namespace Session

variable {s t : Session} {given : Json}

/-- **A round changes nothing but endurance,** and nothing at all if it meets a fault. -/
theorem fight_spec {enemySkill enemyEndurance : Json} {r : Except Fault RoundResult}
    (h : (fight enemySkill enemyEndurance given).result s = (r, t)) :
    s.game.Keeps t.game ∧ (t.state = s.state ∨ ∃ n : Int, 0 ≤ n ∧
      t.state = { s.state with character := { s.state.character with endurance := n } }) := by
  unfold fight at h
  rcases Play.result_bind_eq h with ⟨f, rfl, hf⟩ | ⟨s', u, hget, h⟩
  · cases hf
  cases hget
  have hroll := keeps_withEngine (fun _ _ => Engine.rollUnless given) s
  rcases Play.result_bind_eq h with ⟨f, rfl, hf⟩ | ⟨roll, u, hr, h⟩
  · rw [hf] at hroll
    exact ⟨hroll.game, Or.inl hroll.state⟩
  rw [hr] at hroll
  have hround := keeps_withEngine (fun _ files => Engine.fight files s.state.character enemySkill
    enemyEndurance roll s.state.series) u
  rcases Play.result_bind_eq h with ⟨f, rfl, hf⟩ | ⟨result, v, hresult, h⟩
  · rw [hf] at hround
    exact ⟨(hroll.trans hround).game, Or.inl (hroll.trans hround).state⟩
  rw [hresult] at hround
  have hkept := hroll.trans hround
  rcases Play.result_bind_eq h with ⟨f, rfl, hf⟩ | ⟨_, w, hendure, h⟩
  · cases hf
  cases hendure
  cases h
  refine ⟨hkept.game, Or.inr ⟨result.playerEndurance, ?_, ?_⟩⟩
  · exact Engine.playerEndurance_nonneg (congrArg Prod.fst hresult)
  · show { v.state with character := { v.state.character with
      endurance := result.playerEndurance } } = _
    rw [hkept.state]

theorem continues_of_fight {enemySkill enemyEndurance : Json} {r : Except Fault RoundResult}
    {book : Book} {first : GameState} (h : s.state.Continues book first)
    (hfight : (fight enemySkill enemyEndurance given).result s = (r, t)) :
    t.state.Continues book first ∧ s.game.Keeps t.game := by
  obtain ⟨hkeeps, hstate | ⟨n, hn, hstate⟩⟩ := fight_spec hfight
  · rw [hstate]
    exact ⟨h, hkeeps⟩
  · rw [hstate]
    exact ⟨⟨h.inBook, h.sound.withEndurance hn, ⟨h.bearer.id, h.bearer.name, h.bearer.coreSkills⟩, h.bookId,
      h.series, h.profile, h.flags⟩, hkeeps⟩

end Session

end Questbook
