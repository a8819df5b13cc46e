import Questbook.Game.Sitting
import Questbook.Proofs.Game.Continuing
import Questbook.Proofs.GameState

set_option autoImplicit false

/-! # How a game starts

The state in which a book is started goes on with itself (`GameState.continues_firstState`). All that
a game has from its start on is plain and is never taken for missing, so that a state that goes on
with it can be saved and read back.
-/

namespace Questbook

/-! ## The start -/

theorem NameMap.Whole.setAll {m : NameMap Json} (h : m.Whole) {es : List (String × Json)}
    (hes : ∀ e ∈ es, ∃ n, e.2 = .int n) : (m.setAll es).Whole := by
  induction es generalizing m with
  | nil => exact h
  | cons e es ih =>
      obtain ⟨n, hn⟩ := hes e (by simp)
      have hset : (m.set e.1 e.2).Whole := by
        rw [hn]
        exact h.set e.1 n
      exact ih hset fun e' he' => hes e' (by simp [he'])

theorem Series.whole_wholeFields (fs : List (String × Int)) :
    ((NameMap.empty : NameMap Json).setAll (wholeFields fs)).Whole := by
  apply NameMap.whole_empty.setAll
  intro e he
  obtain ⟨f, -, rfl⟩ := List.mem_map.mp he
  exact ⟨f.2, rfl⟩

/-- The items that a series gives have names and categories. -/
theorem Series.items_of_profileOf? {key : Option String} {p : SeriesProfile}
    (h : profileOf? key = some p) : ∀ i ∈ p.items, i.1 ≠ "" ∧ i.2 ≠ "" := by
  have hall : ∀ q ∈ profiles.map Prod.snd, ∀ i ∈ q.items, i.1 ≠ "" ∧ i.2 ≠ "" := by decide
  obtain ⟨before, after, hprofiles, -⟩ := List.lookup_eq_some_iff.mp h
  apply hall
  rw [hprofiles]
  simp

/-- **A new character is sound.** -/
theorem Series.sound_newCharacter (newId : String) (key : Option String) :
    (newCharacter newId key).Sound := by
  unfold newCharacter
  dsimp only
  split
  · have htyped : (Character.blank newId).WellTyped :=
      ⟨nofun, nofun, NameMap.whole_empty, NameMap.whole_empty, NameMap.whole_empty⟩
    exact ⟨htyped, Int.le_refl 0, ⟨[], rfl, List.nodup_nil⟩, nofun⟩
  · next p hp =>
    have hnamed : ∀ i ∈ [] ++ p.items.map
        fun i => ({ name := .str i.1, category := .str i.2 } : Item), i.IsNamed := by
      intro i hi
      obtain ⟨given, hgiven, rfl⟩ := List.mem_map.mp hi
      obtain ⟨hname, hcategory⟩ := items_of_profileOf? hp given hgiven
      exact ⟨given.1, given.2, rfl, hname, hcategory⟩
    refine ⟨⟨nofun, ?_, NameMap.whole_empty, whole_wholeFields _, whole_wholeFields _⟩,
      Int.le_refl 0, ⟨[], rfl, List.nodup_nil⟩, hnamed⟩
    intro i hi
    obtain ⟨name, category, rfl, -⟩ := hnamed i hi
    exact ⟨name, rfl⟩

theorem Series.id_newCharacter (newId : String) (key : Option String) :
    (newCharacter newId key).id = .str newId := by
  unfold newCharacter
  dsimp only
  split <;> rfl

theorem Series.name_newCharacter (newId : String) (key : Option String) :
    (newCharacter newId key).name = .str "" := by
  unfold newCharacter
  dsimp only
  split <;> rfl

/-- **A started game belongs to itself.** -/
theorem GameState.belongs_firstState (newId id series : String) (book : Book) :
    (Game.firstState newId (.str id) book series {}).Belongs
      (Game.firstState newId (.str id) book series {}) :=
  ⟨⟨book.firstSectionId, rfl⟩, Series.sound_newCharacter newId (some series), .refl _, rfl, rfl, rfl,
    rfl⟩

/-- **A started game goes on with itself.** -/
theorem GameState.continues_firstState {newId id series : String} {book : Book}
    (hsections : book.sections ≠ []) :
    (Game.firstState newId (.str id) book series {}).Continues book
      (Game.firstState newId (.str id) book series {}) := by
  obtain ⟨-, sound, bearer, bookId, series, profile, flags⟩ :=
    GameState.belongs_firstState newId id series book
  refine ⟨?_, sound, bearer, bookId, series, profile, flags⟩
  show book.HasSection (.str book.firstSectionId)
  unfold Book.firstSectionId
  cases hs : book.sections with
  | nil => exact absurd hs hsections
  | cons x xs => exact ⟨x, by simp [hs], rfl⟩

/-- A book that states the id by which it was asked for, or none, goes by this id. -/
theorem Json.orElse_asked {j : Json} {id : String} (hid : j = .str id ∨ j.isGiven = false) :
    j.orElse (.str id) = .str id := by
  rcases hid with rfl | hid
  · unfold Json.orElse
    split <;> rfl
  · unfold Json.orElse
    rw [hid]
    rfl

theorem Game.bookId_firstState {newId id series : String} {book : Book}
    (hid : book.id = .str id ∨ book.id.isGiven = false) :
    (firstState newId (.str id) book series {}).bookId = .str id :=
  Json.orElse_asked hid

theorem Game.id_firstState (newId id series : String) (book : Book) :
    (firstState newId (.str id) book series {}).character.id = .str newId :=
  Series.id_newCharacter newId (some series)

theorem Game.name_firstState (newId id series : String) (book : Book) :
    (firstState newId (.str id) book series {}).character.name = .str "" :=
  Series.name_newCharacter newId (some series)

/-- The new character is the only one that the profile knows of. -/
theorem Game.progress_firstState (newId id series : String) (book : Book) :
    (firstState newId (.str id) book series {}).profile.series.entries =
      [(series, ⟨true, .str newId⟩)] := by
  rw [← id_firstState newId id series book]
  rfl

/-- A book that is found is started. -/
theorem Game.result_start {g : Game} {id series : String} {book : Book} {profile : PlayerProfile}
    (hbook : (g.shelf.get g.files (.str id)).1 = .ok book) (hseries : book.series = .str series) :
    (start (.str id) profile).result g = (.ok (firstState g.newId (.str id) book series profile),
      { g with shelf := (g.shelf.get g.files (.str id)).2 }) := by
  have hfound : (Game.book (.str id)).result g =
      (.ok book, { g with shelf := (g.shelf.get g.files (.str id)).2 }) := by
    rw [← hbook]
    rfl
  unfold start
  rw [Play.result_bind_of_ok hfound, hseries]
  rfl

/-- The state in which a book is started, and the table that it leaves. -/
theorem Game.start_eq {g h : Game} {id : String} {profile : PlayerProfile} {first : GameState}
    (hstart : (start (.str id) profile).result g = (.ok first, h)) :
    ∃ book series, (g.shelf.get g.files (.str id)).1 = .ok book ∧
      h = { g with shelf := (g.shelf.get g.files (.str id)).2 } ∧
      first = firstState g.newId (.str id) book series profile := by
  unfold start at hstart
  rcases Play.result_bind_eq hstart with ⟨f, hf, -⟩ | ⟨found, u, hbook, hstart⟩
  · cases hf
  have hget : (g.shelf.get g.files (.str id)).1 = .ok found := congrArg Prod.fst hbook
  obtain rfl : { g with shelf := (g.shelf.get g.files (.str id)).2 } = u := congrArg Prod.snd hbook
  rcases Play.result_bind_eq hstart with ⟨f, hf, -⟩ | ⟨series, v, hseries, hstart⟩
  · cases hf
  obtain ⟨-, rfl⟩ := Play.result_ofExcept_eq.mp hseries
  cases hstart
  exact ⟨found, series, hget, rfl, rfl⟩

/-- What starting a book comes to. -/
theorem Game.start_spec {g h : Game} {id : String} {profile : PlayerProfile} {first : GameState}
    (hstart : (start (.str id) profile).result g = (.ok first, h)) :
    ∃ book series, (g.shelf.get g.files (.str id)).1 = .ok book ∧ h.HasRead id book ∧
      h.newId = g.newId ∧ first = firstState g.newId (.str id) book series profile := by
  obtain ⟨book, series, hget, rfl, hfirst⟩ := start_eq hstart
  obtain ⟨hnamed, hknown⟩ := Bookshelf.lookup_known_of_get hget
  exact ⟨book, series, hget, ⟨hnamed, hknown⟩, rfl, hfirst⟩

/-- A computation of the game leaves the state of the play alone. -/
theorem Sitting.result_onGame_eq {α : Type} {p : Play Game α} {s t : Sitting} {r : Except Fault α}
    (h : (onGame p).result s = (r, t)) :
    p.result s.game = (r, t.game) ∧ t = { s with game := t.game } := by
  have hr : (p.result s.game).1 = r := congrArg Prod.fst h
  have ht : { s with game := (p.result s.game).2 } = t := congrArg Prod.snd h
  rw [← ht]
  exact ⟨Prod.ext hr rfl, rfl⟩

theorem Sitting.start_spec {g : Game} {id : String} {profile : PlayerProfile} {first : GameState}
    {s : Sitting} (h : (start (.str id) profile).result { game := g } = (.ok first, s)) :
    ∃ h, (Game.start (.str id) profile).result g = (.ok first, h) ∧
      s = { game := h, state := some first } := by
  unfold start at h
  rcases Play.result_bind_eq h with ⟨f, hf, -⟩ | ⟨state, u, hgame, h⟩
  · cases hf
  cases h
  exact ⟨u.game, (result_onGame_eq hgame).1, rfl⟩

/-! ## Saved games -/

namespace GameState

variable {state : GameState} {newId id series : String} {book : Book}

/-- Nothing in a game is taken for missing. -/
theorem Belongs.settled (hid : book.id = .str id ∨ book.id.isGiven = false)
    (h : state.Belongs (Game.firstState newId (.str id) book series {})) :
    state.Settled newId := by
  refine ⟨?_, ?_, h.placed, ⟨?_, ?_, ?_⟩, ?_⟩
  · rw [h.bookId, Game.bookId_firstState hid, orElse_str]
  · rw [h.series]
    exact orElse_str series
  · rw [h.bearer.id, Game.id_firstState]
    unfold Json.orElse
    split <;> rfl
  · rw [h.bearer.name, Game.name_firstState]
    rfl
  · intro i hi
    obtain ⟨name, category, rfl, -, hcategory⟩ := h.sound.named i hi
    exact Json.orElse_of_isGiven (by simp [hcategory])
  · rw [h.profile]
    rfl

/-- All values in a game are plain. -/
theorem Belongs.plain (hid : book.id = .str id ∨ book.id.isGiven = false)
    (h : state.Belongs (Game.firstState newId (.str id) book series {})) : state.Plain := by
  obtain ⟨placed, hsection⟩ := h.placed
  refine ⟨?_, ?_, ?_, ⟨?_, ?_, ?_, ?_, ?_, ?_, ?_⟩, ?_, ?_, ?_⟩
  · rw [h.bookId, Game.bookId_firstState hid]
    trivial
  · rw [h.series]
    trivial
  · rw [hsection]
    trivial
  · rw [h.bearer.id, Game.id_firstState]
    trivial
  · rw [h.bearer.name, Game.name_firstState]
    trivial
  · intro d hd
    obtain ⟨name, rfl⟩ := h.sound.disciplines d hd
    trivial
  · exact h.sound.attributes.plain
  · exact h.sound.coreSkills.plain
  · intro i hi
    obtain ⟨name, category, rfl, -⟩ := h.sound.named i hi
    exact ⟨trivial, trivial⟩
  · exact h.sound.counters.plain
  · rw [h.profile]
    trivial
  · rw [h.profile, Game.progress_firstState]
    intro e he
    rw [List.mem_singleton.mp he]
    trivial
  · rw [h.flags]
    exact NameMap.whole_empty.plain

end GameState

end Questbook
