import Questbook.Proofs.Cli.Step

set_option autoImplicit false

/-! # Starting a game

A command line that starts a book in a slot saves the first state and shows it (`Cli.Starts.steps`).
The slot is then in step with the session that has been opened (`Cli.Starts.leaves`), and unless the
book is read from the file of the slot, every later table serves the same game (`Cli.Starts.serves`).
-/

namespace Questbook

namespace Cli

open Session

/-! ## Runs -/

theorem checkSettings_eq {i : Invocation} {bookId : String} {slot : Argument String}
    {settings : Settings} (hstart : Invocation.checkSettings ⟨settings, .start bookId slot⟩ = .ok ())
    (hbooks : i.settings.booksDirectory = settings.booksDirectory)
    (hsaves : i.settings.savesDirectory = settings.savesDirectory)
    (hseed : i.settings.seed ≠ some .emptyList) : i.checkSettings = .ok () := by
  obtain ⟨books, hb, hstart⟩ := bind_eq_ok_iff.mp hstart
  obtain ⟨saves, hs, -⟩ := bind_eq_ok_iff.mp hstart
  have hchecked : (i.settings.seed.forM fun s => do
      let _ ← s.needed
      : Except Fault Unit) = .ok () := by
    cases hgiven : i.settings.seed with
    | none => rfl
    | some given =>
        cases given with
        | value n => rfl
        | emptyList => exact absurd hgiven hseed
  unfold Invocation.checkSettings
  rw [hbooks, hsaves, hb, hs]
  cases i.command <;> first | rfl | exact hchecked

/-- A run of a command line whose settings are in order carries out its command. -/
theorem run_eq {files : FileTree} {newId : String} {seed : Int} {takes : String → Bool}
    {line : List String} {i : Invocation} (hparse : Invocation.parse line = .ok i)
    (hcheck : i.checkSettings = .ok ()) :
    run files newId seed takes line =
      .ok (i.command.execute.result { game := i.settings.game files newId seed, takes }) := by
  have hexecute : i.execute = (.ofExcept (.ok ()) >>= fun _ => i.command.execute) := by
    rw [← hcheck]
    rfl
  unfold run
  rw [hparse]
  exact congrArg (fun p : Play Console Nat =>
    Except.ok (p.result { game := i.settings.game files newId seed, takes })) hexecute

/-! ## The start -/

/-- The slots of runs with some settings. -/
def Settings.slots (settings : Settings) : SaveSlots where
  directory := settings.savesDirectory.getD {}

/-- The shelf of runs with some settings, before any book has been read. -/
def Settings.shelf (settings : Settings) : Bookshelf where
  directory := settings.booksDirectory.getD {}

/-- **Whether a command line starts a book in a slot:** the book is found, and the run succeeds. -/
structure Starts (line : List String) (files : FileTree) (newId : String) (seed : Int)
    (takes : String → Bool) (settings : Settings) (id slot : String) (book : Book)
    (console : Console) (first : GameState) : Prop where
  parses : Invocation.parse line = .ok ⟨settings, .start id (.value slot)⟩
  given : newId ≠ ""
  book : (settings.shelf.get files (.str id)).1 = .ok book
  first : ((Game.start (.str id) {}).result (settings.game files newId seed)).1 = .ok first
  runs : run files newId seed takes line = .ok (.ok 0, console)

section

variable {id slot : String} {book : Book} {first state : GameState} {c : Console}

/-- What is reported with status zero has come to a value, and was gone on with. -/
theorem exists_of_orReport {α : Type} {isExpected : Fault → Bool} {report : Fault → String}
    {p : Play Console α} {next : α → Play Console Nat} {d : Console}
    (h : (orReport isExpected report p next).result c = (.ok 0, d)) :
    ∃ a e, p.result c = (.ok a, e) ∧ (next a).result e = (.ok 0, d) := by
  cases hp : p.result c with
  | mk b e =>
      cases b with
      | ok a =>
          rw [result_orReport_of_ok hp] at h
          exact ⟨a, e, rfl, h⟩
      | error f =>
          have hget : (get : Play Console Console).result c = (.ok c, c) := rfl
          unfold orReport at h
          rw [Play.result_bind_of_ok hget, hp] at h
          have hset : (set e : Play Console Unit).result c = (.ok (), e) := rfl
          dsimp only at h
          rw [Play.result_bind_of_ok hset] at h
          split at h
          · cases h
          · cases h

/-- What is saved and shown with status zero was saved, and shown to the end. -/
theorem exists_of_saveAndShow {d : Console}
    (h : (saveAndShow (.str slot) state).result c = (.ok 0, d)) :
    ∃ p files, c.game.slots.save c.game.files (.str slot) state = (.ok p, files) ∧
      (showSection state).result { c with game := { c.game with files } } = (.ok (), d) := by
  cases hsave : c.game.slots.save c.game.files (.str slot) state with
  | mk a files =>
      have hsaved := result_save hsave
      unfold saveAndShow at h
      cases a with
      | error f =>
          rw [Play.result_bind_of_error hsaved] at h
          cases h
      | ok p =>
          rw [Play.result_bind_of_ok hsaved] at h
          rcases Play.result_bind_eq h with ⟨f, hf, -⟩ | ⟨_, e, hshow, hpure⟩
          · cases hf
          · cases hpure
            exact ⟨p, files, rfl, hshow⟩

/-- The table of a start that has saved the game and goes on to show it. -/
def Settings.opened (settings : Settings) (files : FileTree) (newId : String) (seed : Int)
    (id : String) (saved : FileTree) : Game :=
  { settings.game files newId seed with
    files := saved
    shelf := (settings.shelf.get files (.str id)).2 }

variable {line : List String} {files : FileTree} {newId : String} {seed : Int}
  {takes : String → Bool} {settings : Settings} {console : Console} {place : List String}
  {key : Option String}

/-- **The steps of a start that succeeds.** -/
theorem Starts.steps (h : Starts line files newId seed takes settings id slot book console first) :
    ∃ series p saved, book.series = .str series ∧
      first = Game.firstState newId (.str id) book series {} ∧
      Invocation.checkSettings ⟨settings, .start id (.value slot)⟩ = .ok () ∧
      settings.slots.save files (.str slot) first = (.ok p, saved) ∧
      (showSection first).result { game := settings.opened files newId seed id saved, takes } =
        (.ok (), console) := by
  obtain ⟨_, _, -, -, -, series, hseries⟩ :=
    exists_read_of_loadBook (Bookshelf.loadBook_of_get rfl h.book)
  have hruns := h.runs
  unfold run at hruns
  rw [h.parses] at hruns
  have hexecute := Except.ok.inj hruns
  rcases Play.result_bind_eq hexecute with ⟨f, hf, -⟩ | ⟨_, c, hchecked, hstart⟩
  · cases hf
  obtain ⟨hcheck, rfl⟩ := Play.result_ofExcept_eq.mp hchecked
  obtain ⟨state, c, hstarted, hsaves⟩ := exists_of_orReport hstart
  have hgame := @Game.result_start (settings.game files newId seed) id series book {} h.book hseries
  have hfirst := h.first
  rw [hgame] at hfirst
  obtain rfl : Game.firstState newId (.str id) book series {} = first := Except.ok.inj hfirst
  have hconsole := result_onGame (c := { game := settings.game files newId seed, takes }) hgame
  rw [hconsole] at hstarted
  obtain ⟨hstate, rfl⟩ := Prod.mk.inj hstarted
  obtain rfl := Except.ok.inj hstate
  obtain ⟨p, saved, hsave, hshow⟩ := exists_of_saveAndShow hsaves
  exact ⟨series, p, saved, hseries, rfl, hcheck, hsave, hshow⟩

/-- **A start that reads its book, saves the game and shows it succeeds.** -/
theorem Starts.of_steps {series : String} {p : Path} {saved : FileTree}
    (hparse : Invocation.parse line = .ok ⟨settings, .start id (.value slot)⟩)
    (hcheck : Invocation.checkSettings ⟨settings, .start id (.value slot)⟩ = .ok ())
    (hgiven : newId ≠ "") (hbook : (settings.shelf.get files (.str id)).1 = .ok book)
    (hseries : book.series = .str series)
    (hsave : settings.slots.save files (.str slot) (Game.firstState newId (.str id) book series {}) =
      (.ok p, saved))
    (hshow : (showSection (Game.firstState newId (.str id) book series {})).result
      { game := settings.opened files newId seed id saved, takes } = (.ok (), console)) :
    Starts line files newId seed takes settings id slot book console
      (Game.firstState newId (.str id) book series {}) := by
  have hstart := @Game.result_start (settings.game files newId seed) id series book {} hbook hseries
  have hstarted := result_onGame (c := { game := settings.game files newId seed, takes }) hstart
  refine ⟨hparse, hgiven, hbook, congrArg Prod.fst hstart, ?_⟩
  rw [run_eq hparse hcheck]
  show Except.ok ((start id (.value slot)).result _) = _
  unfold start
  rw [result_orReport_of_ok hstarted]
  have hsaved : (saveAndShow (.str slot) (Game.firstState newId (.str id) book series {})).result
      { game := { settings.game files newId seed with
          shelf := (settings.shelf.get files (.str id)).2 }, takes } =
        ((Except.ok ()).map fun _ => 0, console) :=
    result_saveAndShow hsave hshow
  exact congrArg Except.ok hsaved

/-- **What a start leaves:** the slot in step with the session that has been opened, and everything else
as it was. -/
structure Leaves (files : FileTree) (settings : Settings) (id slot : String) (book : Book)
    (console : Console) (first : GameState) (place : List String) (key : Option String) : Prop where
  series : Series.keyOfJson book.series = .ok key
  accord : Accord (.savedOver place console.game.files id book key) settings.slots slot place first
    console.game.files ⟨console.game, first⟩
  admits : (Setting.savedOver place console.game.files id book key).Admits first
  saved : (settings.slots.save files (.str slot) first).2 = console.game.files
  directories : files.SameDirectories console.game.files
  kept : ∀ other node, other ≠ place → files.node? other = some node →
    console.game.files.node? other = some node

/-- **A start that succeeds puts the slot in step with the session that it has opened,** and takes
nothing else away. -/
theorem Starts.leaves (h : Starts line files newId seed takes settings id slot book console first)
    (hnamed : book.id = .str id) (hreadable : book.IsReadable) :
    ∃ place key, Leaves files settings id slot book console first place key := by
  obtain ⟨series, p, saved, hseries, hfirst, -, hsave, hshow⟩ := h.steps
  obtain ⟨hnotBlank, hknown⟩ := Bookshelf.lookup_known_of_get h.book
  obtain ⟨place, hstands, hnode, hwhole, hkept⟩ := SaveSlots.written_of_save hsave
  have hbelongs : first.Belongs first := by
    rw [hfirst]
    exact GameState.belongs_firstState newId id series book
  have hplain : ∀ state : GameState, state.Belongs first → state.Plain := by
    intro state hstate
    rw [hfirst] at hstate
    exact hstate.plain (Or.inl hnamed)
  have hstorable := SaveSlots.storable_of_writtenDocument (hplain first hbelongs) hwhole
  have hplays : first.PlaysIn (.savedOver place saved id book (some series)) := by
    rw [hfirst]
    exact ⟨Game.bookId_firstState (Or.inl hnamed), rfl⟩
  have hshown := isShown_of_loadBook (Bookshelf.loadBook_of_get rfl h.book)
  have htree : saved.SavedOver place saved :=
    ⟨rfl, fun _ _ => rfl, _, _, hnode, SaveSlots.readBytes_writtenBytes hstorable⟩
  have hopened : (settings.opened files newId seed id saved).Serves
      (.savedOver place saved id book (some series)) := by
    refine Game.serves_savedOver htree htree (fun now _ => ?_) rfl rfl
    have hhas : (settings.opened files newId seed id saved).HasRead id book := ⟨hnotBlank, hknown⟩
    rw [hhas.get now]
  -- showing only prints, so the files are still those that were saved
  have hconsole := (meets_showSection (g := settings.opened files newId seed id saved) hplays).keeps
    { game := settings.opened files newId seed id saved, takes } ⟨hopened, .refl _⟩
  rw [hshow] at hconsole
  obtain ⟨hserves, hkeeps⟩ := hconsole
  have hkey : Series.keyOfJson book.series = .ok (some series) := by
    rw [hseries]
    rfl
  have hcomplete : first.Complete := by
    rw [hfirst]
    exact GameState.complete_firstState h.given book (Or.inl ⟨"", rfl⟩)
  obtain rfl : console.game.files = saved := hkeeps.files
  exact ⟨place, some series, hkey, ⟨hstands, hnode, hstorable, htree, hserves, hbelongs⟩,
    ⟨hreadable, hshown, hplays, hcomplete, hplain⟩, congrArg Prod.snd hsave,
    (SaveSlots.saves_of_save hsave).sameDirectories, hkept⟩

/-- Whether new tables serve a game on all its files. -/
def Settings.Serve (settings : Settings) (w : Setting) : Prop :=
  ∀ own : Settings, own.booksDirectory = settings.booksDirectory → ∀ now, w.trees now →
    ∀ newId seed, (own.game now newId seed).Serves w

/-- **The book is read again as it was,** unless its file is that of the slot. -/
theorem Starts.loadBook_again (h : Starts line files newId seed takes settings id slot book console first)
    (hleaves : Leaves files settings id slot book console first place key)
    (hapart : ∀ p, settings.slots.slotPath (.str slot) = .ok p →
      console.game.files.resolve (settings.shelf.bookPath id) ≠ console.game.files.resolve p)
    {tree : FileTree} (htree : FileTree.SavedOver place console.game.files tree) :
    loadBook tree (settings.shelf.bookPath id) = .ok book := by
  have hload := Bookshelf.loadBook_of_get rfl h.book
  obtain ⟨bytes, _, hread, -⟩ := exists_read_of_loadBook hload
  obtain ⟨q, hq, hresolve⟩ := hleaves.accord.stands
  have hplace : console.game.files.resolve (settings.shelf.bookPath id) ≠ .ok place := by
    rw [← hresolve]
    exact hapart q hq
  have hstarted : FileTree.SavedOver place console.game.files console.game.files :=
    hleaves.accord.files
  -- the start has kept the file of the book, and later commands write to the slot only
  have hread' := FileTree.read_of_kept hleaves.directories hleaves.kept hread hplace
  rw [hstarted.loadBook_eq htree hplace, loadBook_eq_of_read (hread'.trans hread.symm)]
  exact hload

/-- **New tables serve the game,** unless the book is read from the file of the slot. -/
theorem Starts.serves (h : Starts line files newId seed takes settings id slot book console first)
    (hleaves : Leaves files settings id slot book console first place key)
    (hapart : ∀ p, settings.slots.slotPath (.str slot) = .ok p →
      console.game.files.resolve (settings.shelf.bookPath id) ≠ console.game.files.resolve p) :
    settings.Serve (.savedOver place console.game.files id book key) := by
  intro own hbooks now hnow newId seed
  obtain ⟨hnotBlank, -⟩ := Bookshelf.lookup_known_of_get h.book
  have hshelf : (own.game now newId seed).shelf = settings.shelf := by
    show ({ directory := own.booksDirectory.getD {} } : Bookshelf) = _
    rw [hbooks]
    rfl
  refine Game.serves_savedOver hleaves.accord.files hnow (fun tree htree => ?_) rfl rfl
  rw [hshelf, Bookshelf.get_of_loadBook hnotBlank rfl (h.loadBook_again hleaves hapart htree)]

end

/-! ## Openings -/

/-- **An opening:** a working directory in which a book is started in the slot `s`. The book has its
rules from a file, and the output is in UTF-8. -/
structure Opening where
  id : String := "b"
  document : List (String × Json)
  text : String := (Json.obj document).render
  rules : String := "\x7b\x7d"
  place : List String := ["books", "b.json"]

namespace Opening

variable (o : Opening)

/-- The files of the directory. -/
def files : FileTree where
  nodes := [(["books"], .directory), (["saves"], .directory), (o.place, .file o.text.toUTF8),
    (["my.json"], .file o.rules.toUTF8)]

/-- The book that the document states. -/
def book : Book := (Book.ofJson (.obj o.document)).toOption.getD {}

/-- The state in which the book is started. -/
def first : GameState := Game.firstState "c" (.str o.id) o.book "my.json" {}

/-- The files when the game has been saved. -/
def saved : FileTree := ((Settings.slots {}).save o.files (.str "s") o.first).2

/-- The table of the game, with the book that has been read. -/
def table : Game :=
  { Settings.game {} o.saved "c" 0 with
    shelf := { Settings.shelf {} with known := [(o.id, o.book)] } }

/-- The console when the first section has been shown. -/
def console : Console := ((showSection o.first).result { game := o.table, takes := inUtf8 }).2

/-- The session that has been opened. -/
def session : Session := ⟨o.console.game, o.first⟩

/-- The command line that starts the book. -/
def line : List String := ["start", o.id, "--slot", "s"]

/-- Whether the document states a book that can be read, and the game is saved and shown. -/
def Checks : Prop :=
  Text.isBlank o.id = false ∧ (Book.ofJson (.obj o.document)).toBool = true ∧
    o.book.IsReadable ∧ ((Settings.slots {}).save o.files (.str "s") o.first).1.toBool = true ∧
    ((showSection o.first).result { game := o.table, takes := inUtf8 }).1.toBool = true

instance : Decidable o.Checks :=
  inferInstanceAs (Decidable (_ ∧ _ ∧ _ ∧ _ ∧ _))

/-- **Whether a book can be started:** it is read, and the game is saved and shown. -/
structure IsSound : Prop where
  parses : Invocation.parse o.line = .ok ⟨{}, .start o.id (.value "s")⟩
  reads : o.files.read ((Settings.shelf {}).bookPath o.id) = .ok o.text.toUTF8
  states : Json.readBytes o.text.toUTF8 = .ok (.obj o.document)
  named : o.book.id = .str o.id
  series : o.book.series = .str "my.json"
  checks : o.Checks

variable {o}

/-- **A sound opening is a start.** -/
theorem IsSound.starts (h : o.IsSound) :
    Starts o.line o.files "c" 0 inUtf8 {} o.id "s" o.book o.console o.first := by
  obtain ⟨hnotBlank, hstates, -, hsaves, hshows⟩ := h.checks
  obtain ⟨stated, hstated⟩ := exists_of_toBool hstates
  obtain ⟨p, hsaved⟩ := exists_of_toBool hsaves
  obtain ⟨_, hshown⟩ := exists_of_toBool hshows
  have hbook : Book.ofJson (.obj o.document) = .ok o.book := by
    unfold book
    rw [hstated]
    rfl
  have hload := loadBook_of_read h.reads h.states hbook h.series (by decide)
  have hget := Bookshelf.get_of_loadBook (b := Settings.shelf {}) hnotBlank rfl hload
  have htable : Settings.opened {} o.files "c" 0 o.id o.saved = o.table := by
    unfold Settings.opened
    rw [hget]
    rfl
  refine Starts.of_steps h.parses rfl (by decide) (congrArg Prod.fst hget) h.series
    (Prod.ext hsaved rfl) ?_
  show (showSection o.first).result
    { game := Settings.opened {} o.files "c" 0 o.id o.saved, takes := inUtf8 } = _
  rw [htable]
  exact Prod.ext hshown rfl

theorem IsSound.readable (h : o.IsSound) : o.book.IsReadable :=
  h.checks.2.2.1

theorem IsSound.leaves (h : o.IsSound) :
    ∃ place key, Leaves o.files {} o.id "s" o.book o.console o.first place key :=
  h.starts.leaves h.named h.readable

theorem IsSound.files_eq (h : o.IsSound) : o.console.game.files = o.saved := by
  obtain ⟨_, _, hleaves⟩ := h.leaves
  exact hleaves.saved.symm

end Opening

end Cli

end Questbook
