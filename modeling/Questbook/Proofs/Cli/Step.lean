import Questbook.Proofs.Cli.Turn
import Questbook.Proofs.Game.SavedOver
import Questbook.Proofs.SavedGames

set_option autoImplicit false

/-! # Commands in step with turns

A command that takes a choice in a slot goes in step with a turn of a session whose state the slot
holds (`Cli.inStep_choose`). It succeeds if and only if the turn applies a choice and reaches a state
that can be stored, and the output takes the lines that show the section of this state. What is applied
and can be stored is stored in any case, and no other file changes.
-/

namespace Questbook

/-! ## Saving and showing -/

/-- **What a game needs to be shown and saved** in all its states. -/
structure Setting.Admits (w : Setting) (first : GameState) : Prop where
  readable : w.book.IsReadable
  shown : ∀ s ∈ w.book.sections, s.IsShown
  plays : first.PlaysIn w
  complete : first.Complete
  plain : ∀ state : GameState, state.Belongs first → state.Plain

section

variable {w : Setting} {first state : GameState}

theorem GameState.Belongs.playsIn (h : state.Belongs first) (hfirst : first.PlaysIn w) :
    state.PlaysIn w :=
  ⟨h.bookId.trans hfirst.bookId, by rw [h.series]; exact hfirst.series⟩

/-- Nothing is missing in a game that has started with nothing missing. -/
theorem GameState.Belongs.complete (h : state.Belongs first) (hfirst : first.Complete) :
    state.Complete := by
  refine ⟨?_, ?_, h.placed, ⟨?_, ?_⟩, ?_⟩
  · rw [h.bookId]
    exact hfirst.bookId
  · rw [h.series]
    exact hfirst.series
  · rw [h.bearer.id]
    exact hfirst.character.id
  · rw [h.bearer.name]
    exact hfirst.character.name
  · rw [h.profile]
    exact hfirst.profile

end

/-- **The lines that show the section of a session.** -/
def Session.sectionLines (s : Session) : List String :=
  ((Cli.showSection s.state).result { game := s.game }).2.out

namespace Cli

open Session

variable {place : List String} {start : FileTree} {id slot : String} {book : Book}
  {key : Option String} {first state : GameState} {c : Console}

/-- Saving, as a command does it. -/
theorem result_save {a : Except Fault Path} {files : FileTree}
    (h : c.game.slots.save c.game.files (.str slot) state = (a, files)) :
    (onGame (Game.save (.str slot) state)).result c =
      (a, { c with game := { c.game with files } }) := by
  apply result_onGame
  unfold Game.save
  rw [Play.result_ofFunction, h]

/-- A game that is saved is shown, with status zero if this comes to its end. -/
theorem result_saveAndShow {p : Path} {files : FileTree} {shown : Except Fault Unit} {d : Console}
    (hsave : c.game.slots.save c.game.files (.str slot) state = (.ok p, files))
    (hshow : (showSection state).result { c with game := { c.game with files } } = (shown, d)) :
    (saveAndShow (.str slot) state).result c = (shown.map fun _ => 0, d) := by
  unfold saveAndShow
  rw [Play.result_bind_of_ok (result_save hsave)]
  cases shown with
  | error f => exact Play.result_bind_of_error hshow
  | ok u => exact Play.result_bind_of_ok hshow

/-- The lines of a session are those that are printed at its table. -/
theorem sectionLines_eq {I : Game → Prop} {s : Session} {lines : List String} (hgame : I s.game)
    (h : Prints I (showSection s.state) lines ()) : s.sectionLines = lines := by
  obtain ⟨g, -, hresult⟩ := h { game := s.game } hgame
  unfold Session.sectionLines
  rw [hresult]
  exact List.takeWhile_eq_self_iff.mpr fun _ _ => rfl

/-- **A game that can be stored is saved over the one before,** and shown by the lines of the session
that has reached it. -/
theorem saveAndShow_of_storable {t : Session}
    (hserves : c.game.Serves (.savedOver place start id book key))
    (hplace : c.game.slots.HasPlace c.game.files (.str slot) place)
    (hadmits : (Setting.savedOver place start id book key).Admits first)
    (hrules : (Setting.savedOver place start id book key).HasRules) (hstate : t.state.Belongs first)
    (hsession : t.game.Serves (.savedOver place start id book key))
    (hstorable : t.state.toJson.Storable) :
    ∃ d, (saveAndShow (.str slot) t.state).result c =
        (if t.sectionLines.all c.takes then .ok 0 else .error .unencodable, d) ∧
      FileTree.DifferAt place c.game.files d.game.files ∧
      d.game.files.node? place = some (.file (SaveSlots.writtenBytes t.state)) := by
  obtain ⟨bytes, _, hnode, -⟩ := hserves.files.holds
  obtain ⟨p, files, hsave, hdiffer, hwritten⟩ := SaveSlots.save_of_hasPlace hplace hnode t.state
  rw [SaveSlots.answer_of_storable hstorable] at hsave
  -- the slot now states the new state, so the table goes on serving the game and can show it
  have hon : ({ c.game with files } : Game).Serves (.savedOver place start id book key) :=
    hserves.withFiles
      (hserves.files.saved hdiffer hwritten (SaveSlots.readBytes_writtenBytes hstorable))
  obtain ⟨lines, hlines⟩ := exists_prints_showSection (hstate.playsIn hadmits.plays) hstate.placed
    hstate.sound.toWellTyped hadmits.readable hadmits.shown hrules
  rw [sectionLines_eq ⟨hsession, .refl _⟩ (hlines t.game)]
  obtain ⟨g, ⟨-, hkeeps⟩, hshow⟩ :=
    hlines { c.game with files } { c with game := { c.game with files } } ⟨hon, .refl _⟩
  have hfiles : g.files = files := hkeeps.files
  rw [← hfiles] at hdiffer hwritten
  refine ⟨_, (result_saveAndShow hsave hshow).trans (congrArg (·, _) ?_), hdiffer, hwritten⟩
  split <;> rfl

/-- A game that cannot be stored leaves what could be written of it, and a fault. -/
theorem saveAndShow_of_not_storable (hserves : c.game.Serves (.savedOver place start id book key))
    (hplace : c.game.slots.HasPlace c.game.files (.str slot) place) (hplain : state.Plain)
    (hnot : ¬ state.toJson.Storable) :
    ∃ f d, (saveAndShow (.str slot) state).result c = (.error f, d) ∧
      FileTree.DifferAt place c.game.files d.game.files := by
  obtain ⟨bytes, _, hnode, -⟩ := hserves.files.holds
  obtain ⟨p, files, hsave, hdiffer, -⟩ := SaveSlots.save_of_hasPlace hplace hnode state
  obtain ⟨f, hf⟩ := SaveSlots.exists_answer_of_not_storable hplain hnot p
  rw [hf] at hsave
  unfold saveAndShow
  rw [Play.result_bind_of_error (result_save hsave)]
  exact ⟨f, _, rfl, hdiffer⟩

/-! ## A command in step with a turn -/

/-- **A command in step with a turn of a session:** it succeeds if and only if a choice is applied, the
state that is reached can be stored, and the output takes every line that shows its section. Otherwise
the command fails. What is applied and can be stored is what the file of the slot states. No file but
that of the slot has changed, and none at all unless a choice was applied. -/
structure InStep (slots : SaveSlots) (slot : String) (takes : String → Bool) (files : FileTree)
    (s : Session) (r : Except Fault Nat) (files' : FileTree)
    (q : Except Fault (Option ChoiceResult)) (t : Session) : Prop where
  succeeds : exitStatus r = 0 ↔
    Applied q ∧ t.state.toJson.Storable ∧ ∀ line ∈ t.sectionLines, takes line = true
  fails : exitStatus r ≠ 0 → Fails r
  saved : Applied q → t.state.toJson.Storable →
    ∀ newId, slots.load files' newId (.str slot) = .ok (some t.state)
  alone : Applied q →
    ∃ place, slots.HasPlace files (.str slot) place ∧ FileTree.DifferAt place files files'
  kept : ¬ Applied q → files' = files ∧ t.state = s.state

section

variable {w : Setting} {s t : Session} {q : Except Fault (Option ChoiceResult)}

/-- **A game in step with a session:** the file of the slot states the state of the session, and the
session has a table that serves the game. -/
structure Accord (w : Setting) (slots : SaveSlots) (slot : String) (place : List String)
    (first : GameState) (files : FileTree) (s : Session) : Prop where
  stands : slots.HasPlace files (.str slot) place
  node : files.node? place = some (.file (SaveSlots.writtenBytes s.state))
  storable : s.state.toJson.Storable
  files : w.trees files
  serves : s.game.Serves w
  belongs : s.state.Belongs first

variable {slots : SaveSlots} {files : FileTree} {takes : String → Bool}

/-- **The slot of a game in step with a session holds the state of the session.** -/
theorem Accord.load (h : Accord w slots slot place first files s) (hfirst : first.Complete)
    (newId : String) : slots.load files newId (.str slot) = .ok (some s.state) := by
  refine SaveSlots.load_of_states h.stands h.node (SaveSlots.states_writtenBytes ?_ h.storable newId)
  intro other
  rw [(h.belongs.complete hfirst).ofJson_toJson other,
    GameState.withCategories_eq_self h.belongs.sound.haveCategories]

/-- A game that is saved over the one before is in step with the session that has reached it. -/
theorem Accord.saved {files' : FileTree}
    (h : Accord (.savedOver place start id book key) slots slot place first files s)
    (hdiffer : FileTree.DifferAt place files files')
    (hwritten : files'.node? place = some (.file (SaveSlots.writtenBytes t.state)))
    (hstorable : t.state.toJson.Storable)
    (hserves : t.game.Serves (.savedOver place start id book key)) (hbelongs : t.state.Belongs first) :
    Accord (.savedOver place start id book key) slots slot place first files' t := by
  obtain ⟨p, hp, hresolve⟩ := h.stands
  have htree : start.SavedOver place files := h.files
  exact ⟨⟨p, hp, (hdiffer.resolve p).trans hresolve⟩, hwritten, hstorable,
    htree.saved hdiffer hwritten (SaveSlots.readBytes_writtenBytes hstorable), hserves, hbelongs⟩

/-- A command that fails and changes nothing is in step with a turn that applies nothing. -/
theorem InStep.of_refused {r : Except Fault Nat} (refused : ¬ Applied q) (fails : Fails r)
    (hstate : t.state = s.state) : InStep slots slot takes files s r files q t := by
  have hfailed : exitStatus r ≠ 0 := by
    rcases fails with hr | hr <;> omega
  refine ⟨?_, fun _ => fails, fun happlied => absurd happlied refused,
    fun happlied => absurd happlied refused, fun _ => ⟨rfl, hstate⟩⟩
  exact ⟨fun hr => absurd hr hfailed, fun happlied => absurd happlied.1 refused⟩

/-- A command that saves what a turn has reached, and prints the lines of its section, is in step with
it. -/
theorem InStep.of_saved {files' : FileTree} (applied : Applied q) (hstorable : t.state.toJson.Storable)
    (hload : ∀ newId, slots.load files' newId (.str slot) = .ok (some t.state))
    (hplace : slots.HasPlace files (.str slot) place)
    (hdiffer : FileTree.DifferAt place files files') :
    InStep slots slot takes files s
      (if t.sectionLines.all takes then .ok 0 else .error .unencodable) files' q t := by
  refine ⟨?_, fun hr => ?_, fun _ _ => hload, fun _ => ⟨place, hplace, hdiffer⟩,
    fun hnot => absurd applied hnot⟩
  · by_cases hall : t.sectionLines.all takes = true
    · rw [if_pos hall]
      exact iff_of_true rfl ⟨applied, hstorable, List.all_eq_true.mp hall⟩
    · rw [if_neg hall]
      exact iff_of_false Nat.one_ne_zero fun hshown => hall (List.all_eq_true.mpr hshown.2.2)
  · split at hr
    · exact absurd rfl hr
    · next hstops =>
      rw [if_neg hstops]
      exact Or.inl rfl

/-- A command that cannot save what a turn has reached is in step with it. -/
theorem InStep.of_fault {files' : FileTree} {f : Fault} (applied : Applied q)
    (hnot : ¬ t.state.toJson.Storable) (hplace : slots.HasPlace files (.str slot) place)
    (hdiffer : FileTree.DifferAt place files files') :
    InStep slots slot takes files s (.error f) files' q t := by
  have hfailed : exitStatus (.error f) ≠ 0 := Nat.one_ne_zero
  refine ⟨?_, fun _ => Or.inl rfl, fun _ hstorable => absurd hstorable hnot,
    fun _ => ⟨place, hplace, hdiffer⟩, fun hrefused => absurd applied hrefused⟩
  exact ⟨fun hr => absurd hr hfailed, fun hall => absurd hall.2.1 hnot⟩

/-- **A command that takes a choice goes in step with a turn.** -/
theorem inStep_choose {n roll : Int} {pick : Option Int}
    (h : Accord (.savedOver place start id book key) c.game.slots slot place first c.game.files s)
    (hserves : c.game.Serves (.savedOver place start id book key))
    (hadmits : (Setting.savedOver place start id book key).Admits first)
    (hrules : (Setting.savedOver place start id book key).RulesReadable)
    (hturn : (turn n roll pick).result s = (q, t)) :
    ∃ r d, (choose slot (.value n) (some (.value roll)) (pick.map .value)).result c = (r, d) ∧
      InStep c.game.slots slot c.takes c.game.files s r d.game.files q t ∧
      ((Applied q → t.state.toJson.Storable) →
        Accord (.savedOver place start id book key) c.game.slots slot place first d.game.files t) := by
  have hplays := h.belongs.playsIn hadmits.plays
  have halike : Alike (.savedOver place start id book key) ⟨c.game, s.state⟩ s :=
    ⟨rfl, hplays, hserves, h.serves⟩
  obtain ⟨hbelongs, hunchanged⟩ := turn_spec h.belongs hturn
  have hserves' : t.game.Serves (.savedOver place start id book key) := by
    have hagree : Play.Agree (Alike (.savedOver place start id book key)) (turn n roll pick)
        (turn n roll pick) := agree_turn
    have hafter := (hagree s s ⟨rfl, hplays, h.serves, h.serves⟩).2.left
    rwa [hturn] at hafter
  have hfollows := follows_choose halike (h.load hadmits.complete c.game.newId) hturn
  generalize (choose slot (.value n) (some (.value roll)) (pick.map .value)).result c = x at hfollows ⊢
  cases hfollows with
  | @ends r d refused fails same =>
      have hstate := hunchanged refused
      refine ⟨r, d, rfl, ?_, fun _ => ?_⟩
      · rw [same]
        exact .of_refused refused fails hstate
      · rw [same]
        exact ⟨h.stands, hstate ▸ h.node, hstate ▸ h.storable, h.files, hserves', hbelongs⟩
  | @saves d applied serves keeps takes =>
      have happlied := applied
      -- a choice was applied, so the rules were found, and the section can be shown
      obtain ⟨result, rfl, -⟩ := applied
      obtain ⟨catalog, hcatalog⟩ := exists_catalog_of_turn h.serves hplays hturn
      have hstands : d.game.slots.HasPlace d.game.files (.str slot) place := by
        rw [keeps.slots, keeps.files]
        exact h.stands
      by_cases hstorable : t.state.toJson.Storable
      · obtain ⟨e, hresult, hdiffer, hwritten⟩ := saveAndShow_of_storable serves hstands hadmits
          ⟨catalog, hcatalog, hrules catalog hcatalog⟩ hbelongs hserves' hstorable
        rw [keeps.files] at hdiffer
        rw [takes] at hresult
        have haccord := h.saved hdiffer hwritten hstorable hserves' hbelongs
        exact ⟨_, e, hresult, .of_saved happlied hstorable (haccord.load hadmits.complete) h.stands
          hdiffer, fun _ => haccord⟩
      · obtain ⟨f, e, hresult, hdiffer⟩ := saveAndShow_of_not_storable serves hstands
          (hadmits.plain t.state hbelongs) hstorable
        rw [keeps.files] at hdiffer
        exact ⟨_, e, hresult, .of_fault happlied hstorable h.stands hdiffer, fun hstores =>
          absurd (hstores happlied) hstorable⟩

end

end Cli

end Questbook
