import Questbook.Proofs.Cli.Start
import Questbook.Proofs.Json.Same

set_option autoImplicit false

/-! # Playing through commands

A game that a command line has started in a slot can be played through further command lines, each of
which reads the slot and writes it again, or in one session that is never interrupted. Both come to the
same (`Cli.commands_refine_session`), under conditions that cannot be left out
(`Cli.commands_part_from_session`).
-/

namespace Questbook

namespace Cli

open Session

/-! ## Command lines -/

/-- **Whether a command line takes a choice** with a roll, and an outcome if one is picked, in a slot of
the same directories. -/
def TakesTurn (settings : Settings) (slot : String) (n roll : Int) (pick : Option Int)
    (line : List String) : Prop :=
  ∃ own : Settings,
    Invocation.parse line =
      .ok ⟨own, .choose slot (.value n) (some (.value roll)) (pick.map .value)⟩ ∧
    own.booksDirectory = settings.booksDirectory ∧ own.savesDirectory = settings.savesDirectory ∧
    own.seed ≠ some .emptyList

/-- **Playing through separate commands** after a start, and at the same time in one session. Each
command works on the files that the one before has left, with an engine of its own. There is no next
command once a state is reached that cannot be stored. -/
inductive Playthrough (settings : Settings) (slot : String) (files₀ : FileTree) (s₀ : Session) :
    FileTree → Session → Prop
  | starts : Playthrough settings slot files₀ s₀ files₀ s₀
  | turns {files : FileTree} {s t : Session} {line : List String} {n roll : Int} {pick : Option Int}
      {newId : String} {seed : Int} {takes : String → Bool} {r : Except Fault Nat} {console : Console}
      {q : Except Fault (Option ChoiceResult)} (h : Playthrough settings slot files₀ s₀ files s)
      (hline : TakesTurn settings slot n roll pick line)
      (hrun : run files newId seed takes line = .ok (r, console))
      (hturn : (turn n roll pick).result s = (q, t))
      (hstores : Applied q → t.state.toJson.Storable) :
      Playthrough settings slot files₀ s₀ console.game.files t

/-- **What a book needs to be played through commands:** its document has the id by which it is asked
for, its choices can be read, and its file is not that of the slot. -/
structure Conforms (settings : Settings) (files : FileTree) (id slot : String) (book : Book) :
    Prop where
  named : book.id = .str id
  readable : book.IsReadable
  apart : ∀ p, settings.slots.slotPath (.str slot) = .ok p →
    files.resolve (settings.shelf.bookPath id) ≠ files.resolve p

/-! ## In step -/

section

variable {line : List String} {settings : Settings} {id slot : String} {book : Book}
  {first : GameState}

variable {place : List String} {key : Option String} {s t : Session} {now : FileTree} {n roll : Int}
  {pick : Option Int} {q : Except Fault (Option ChoiceResult)}

/-- A command line that takes a choice carries out its command. -/
theorem TakesTurn.run_eq (h : TakesTurn settings slot n roll pick line)
    (hcheck : Invocation.checkSettings ⟨settings, .start id (.value slot)⟩ = .ok ())
    (now : FileTree) (newId : String) (seed : Int) (takes : String → Bool) :
    ∃ own : Settings, own.booksDirectory = settings.booksDirectory ∧
      (own.game now newId seed).slots = settings.slots ∧
      run now newId seed takes line = .ok ((choose slot (.value n) (some (.value roll))
        (pick.map .value)).result { game := own.game now newId seed, takes }) := by
  obtain ⟨own, hparse, hbooks, hsaves, hseed⟩ := h
  refine ⟨own, hbooks, ?_, Cli.run_eq hparse (checkSettings_eq hcheck hbooks hsaves hseed)⟩
  show ({ directory := own.savesDirectory.getD {} } : SaveSlots) = _
  rw [hsaves]
  rfl

/-- **A command line that takes a choice goes in step with a turn.** -/
theorem inStep_run {files₀ : FileTree}
    (h : Accord (.savedOver place files₀ id book key) settings.slots slot place first now s)
    (hadmits : (Setting.savedOver place files₀ id book key).Admits first)
    (hrules : (Setting.savedOver place files₀ id book key).RulesReadable)
    (hcheck : Invocation.checkSettings ⟨settings, .start id (.value slot)⟩ = .ok ())
    (hserves : settings.Serve (.savedOver place files₀ id book key))
    (hline : TakesTurn settings slot n roll pick line) (hturn : (turn n roll pick).result s = (q, t))
    (newId : String) (seed : Int) (takes : String → Bool) :
    ∃ r console, run now newId seed takes line = .ok (r, console) ∧
      InStep settings.slots slot takes now s r console.game.files q t ∧
      ((Applied q → t.state.toJson.Storable) →
        Accord (.savedOver place files₀ id book key) settings.slots slot place first
          console.game.files t) := by
  obtain ⟨own, hbooks, hslots, hrun⟩ := hline.run_eq hcheck now newId seed takes
  have htable := hserves own hbooks now h.files newId seed
  rw [← hslots] at h ⊢
  obtain ⟨r, console, hresult, hstep, haccord⟩ :=
    inStep_choose (c := { game := own.game now newId seed, takes }) h htable hadmits hrules hturn
  rw [hresult] at hrun
  exact ⟨r, console, hrun, hstep, haccord⟩

/-- **A playthrough keeps the slot in step with the session.** -/
theorem Playthrough.accord {files₀ : FileTree} {s₀ : Session}
    (h : Playthrough settings slot files₀ s₀ now s)
    (h₀ : Accord (.savedOver place files₀ id book key) settings.slots slot place first files₀ s₀)
    (hadmits : (Setting.savedOver place files₀ id book key).Admits first)
    (hrules : (Setting.savedOver place files₀ id book key).RulesReadable)
    (hcheck : Invocation.checkSettings ⟨settings, .start id (.value slot)⟩ = .ok ())
    (hserves : settings.Serve (.savedOver place files₀ id book key)) :
    Accord (.savedOver place files₀ id book key) settings.slots slot place first now s := by
  induction h with
  | starts => exact h₀
  | @turns _ _ _ _ _ _ _ newId seed takes _ _ _ _ hline hrun hturn hstores ih =>
      obtain ⟨r, console, hrun', -, haccord⟩ :=
        inStep_run ih hadmits hrules hcheck hserves hline hturn newId seed takes
      obtain ⟨-, rfl⟩ := Prod.mk.inj (Except.ok.inj (hrun'.symm.trans hrun))
      exact haccord hstores

end

/-- **Playing through commands refines playing in one session.** After a start, at every point of a
playthrough the slot holds the state of the session, and the next command goes in step with the next
turn. The rules that come with the program can all be read (`Series.isReadable_of_loadCatalog`), so
that only rules of the author's own have to be looked at. -/
theorem commands_refine_session {line next : List String} {files now : FileTree}
    {newId newId' : String} {seed seed' : Int} {takes takes' : String → Bool} {settings : Settings}
    {id slot : String} {book : Book} {console : Console} {first : GameState} {s t : Session}
    {n roll : Int} {pick : Option Int} {q : Except Fault (Option ChoiceResult)}
    (hstarts : Starts line files newId seed takes settings id slot book console first)
    (hconforms : Conforms settings console.game.files id slot book)
    (hcatalog : ∀ key catalog, Series.keyOfJson book.series = .ok key →
      Series.loadCatalog console.game.files (some (Series.normalKey key)) = .ok catalog →
      catalog.IsReadable)
    (hplay : Playthrough settings slot console.game.files ⟨console.game, first⟩ now s)
    (hnext : TakesTurn settings slot n roll pick next)
    (hturn : (turn n roll pick).result s = (q, t)) :
    (∀ other, settings.slots.load now other (.str slot) = .ok (some s.state)) ∧
      ∃ r after, run now newId' seed' takes' next = .ok (r, after) ∧
        InStep settings.slots slot takes' now s r after.game.files q t := by
  obtain ⟨_, _, _, -, -, hcheck, -⟩ := hstarts.steps
  obtain ⟨place, key, hleaves⟩ := hstarts.leaves hconforms.named hconforms.readable
  have hrules : (Setting.savedOver place console.game.files id book key).RulesReadable :=
    fun catalog => hcatalog key catalog hleaves.series
  have hserves := hstarts.serves hleaves hconforms.apart
  have hnow := hplay.accord hleaves.accord hleaves.admits hrules hcheck hserves
  obtain ⟨r, after, hrun, hstep, -⟩ := inStep_run hnow hleaves.admits hrules hcheck hserves
    hnext hturn newId' seed' takes'
  exact ⟨hnow.load hleaves.admits.complete, r, after, hrun, hstep⟩

/-! ## A book that is played -/

namespace Opening

/-- A document of a book with two sections, in each of which a choice leads to the other. -/
def twoSections (id : String) (there back : List (String × Json)) : List (String × Json) :=
  [("id", .str id), ("seriesId", .str "my.json"), ("sections", .arr [
    .obj [("id", .str "1"), ("choices", .arr [.obj (("targetId", .str "2") :: there)])],
    .obj [("id", .str "2"), ("choices", .arr [.obj (("targetId", .str "1") :: back)])]])]

/-- The command line that takes the first choice with a roll. -/
def choosing (roll : Int) : List String := ["choose", "s", "1", "--roll", toString roll]

/-- The session after a turn that takes the first choice. -/
def turned (o : Opening) (roll : Int) : Session := ((turn 1 roll none).result o.session).2

theorem result_turn (s : Session) (roll : Int) : (turn 1 roll none).result s =
    (((turn 1 roll none).result s).1, ((turn 1 roll none).result s).2) :=
  rfl

theorem result_turned (o : Opening) (roll : Int) : (turn 1 roll none).result o.session =
    (((turn 1 roll none).result o.session).1, o.turned roll) :=
  result_turn o.session roll

theorem takesTurn_choosing : TakesTurn {} "s" 1 0 none (choosing 0) :=
  ⟨{}, by rfl, rfl, rfl, nofun⟩

theorem slotPath_s : (Settings.slots {}).slotPath (.str "s") = .ok (Path.parse "saves/s.json") := by
  rfl

variable {o : Opening}

/-- Whether the book is not kept in the file of the slot. -/
def Apart (o : Opening) : Prop :=
  (o.saved.resolve ((Settings.shelf {}).bookPath o.id)).toOption ≠
    (o.saved.resolve (Path.parse "saves/s.json")).toOption

instance : Decidable o.Apart :=
  inferInstanceAs (Decidable (_ ≠ _))

theorem IsSound.conforms (h : o.IsSound) (hapart : o.Apart) :
    Conforms {} o.console.game.files o.id "s" o.book := by
  refine ⟨h.named, h.readable, fun p hp hsame => hapart ?_⟩
  obtain rfl := Except.ok.inj (slotPath_s.symm.trans hp)
  rw [h.files_eq] at hsame
  rw [hsame]

/-- Whether the file of the rules states rules that can be read. -/
def StatesRules (o : Opening) : Prop :=
  ∀ catalog, Series.loadCatalog o.saved (some "my.json") = .ok catalog → catalog.IsReadable

instance : Decidable o.StatesRules :=
  decidableForallOk _ Catalog.IsReadable

/-- Then so can the rules of the book, once it has been started. -/
theorem IsSound.isReadable_of_loadCatalog (h : o.IsSound) (hrules : o.StatesRules)
    {key : Option String} {catalog : Catalog} (hkey : Series.keyOfJson o.book.series = .ok key)
    (hload : Series.loadCatalog o.console.game.files (some (Series.normalKey key)) = .ok catalog) :
    catalog.IsReadable := by
  rw [h.series] at hkey
  obtain rfl : some "my.json" = key := Except.ok.inj hkey
  rw [h.files_eq] at hload
  exact hrules catalog hload

/-- A file under the name of the book in the directory of books is that of the book. -/
theorem reads_of_b (hid : o.id = "b") (hplace : o.place = ["books", "b.json"]) :
    o.files.read ((Settings.shelf {}).bookPath o.id) = .ok o.text.toUTF8 := by
  unfold files
  rw [hid, hplace]
  rfl

/-- A book in which one can go there and back. -/
def thereAndBack : Opening where
  document := twoSections "b" [] []

theorem isSound_thereAndBack : thereAndBack.IsSound where
  parses := by rfl
  reads := reads_of_b rfl rfl
  states := Json.Storable.readBytes_render (j := .obj thereAndBack.document) (by decide +kernel)
  named := by rfl
  series := by rfl
  checks := by decide +kernel

end Opening

open Opening

theorem commands_refine_session_there_and_back :
    ∃ now, Playthrough {} "s" thereAndBack.console.game.files thereAndBack.session now
        (thereAndBack.turned 0) ∧
      (∀ other, (Settings.slots {}).load now other (.str "s") =
        .ok (some (thereAndBack.turned 0).state)) ∧
      ∃ r after, run now "e" 0 inUtf8 (choosing 0) = .ok (r, after) ∧
        InStep (Settings.slots {}) "s" inUtf8 now (thereAndBack.turned 0) r after.game.files
          ((turn 1 0 none).result (thereAndBack.turned 0)).1
          ((turn 1 0 none).result (thereAndBack.turned 0)).2 := by
  have hrules : thereAndBack.StatesRules := by decide +kernel
  -- one command is carried out, and the theorem is about the next one
  have hstorable : (thereAndBack.turned 0).state.toJson.Storable := by decide +kernel
  have hcheck : Invocation.checkSettings ⟨{}, .start "b" (.value "s")⟩ = .ok () := rfl
  obtain ⟨_, -, -, hrun⟩ :=
    takesTurn_choosing.run_eq hcheck thereAndBack.console.game.files "d" 0 inUtf8
  have hplay : Playthrough {} "s" thereAndBack.console.game.files thereAndBack.session _
      (thereAndBack.turned 0) :=
    .turns .starts takesTurn_choosing hrun (thereAndBack.result_turned 0) fun _ => hstorable
  exact ⟨_, hplay, commands_refine_session isSound_thereAndBack.starts
    (isSound_thereAndBack.conforms (by decide +kernel))
    (fun _ _ => isSound_thereAndBack.isReadable_of_loadCatalog hrules) hplay takesTurn_choosing
    (result_turn _ 0)⟩

/-! ## Where commands and sessions part -/

/-- The exit status of a command line. -/
def status : Except Stop (Except Fault Nat × Console) → Nat
  | .error stop => stop.status
  | .ok (r, _) => exitStatus r

namespace Opening

variable {o : Opening}

/-- **Whether a command parts ways with a session:** a book with its own id, and with texts for tokens,
is started; the session applies the first choice of the first section, and the command that takes it
does not succeed. -/
structure PartsWays (o : Opening) (roll : Int) : Prop where
  starts : Starts o.line o.files "c" 0 inUtf8 {} o.id "s" o.book o.console o.first
  named : o.book.id = .str o.id
  readable : o.book.IsReadable
  applied : Applied ((turn 1 roll none).result o.session).1
  fails : status (run o.console.game.files "d" 0 inUtf8 (choosing roll)) ≠ 0

theorem IsSound.partsWays (h : o.IsSound) {roll : Int}
    (happlied : Applied ((turn 1 roll none).result o.session).1)
    (hfails : status (run o.console.game.files "d" 0 inUtf8 (choosing roll)) ≠ 0) : o.PartsWays roll :=
  ⟨h.starts, h.named, h.readable, happlied, hfails⟩

/-- The command line takes no roll that is not one of the die. -/
theorem partsWays_thereAndBack : thereAndBack.PartsWays 12 := by
  refine isSound_thereAndBack.partsWays (by decide +kernel) ?_
  have hrefused : Invocation.parse (choosing 12) = .error .refused := by rfl
  unfold run
  rw [hrefused]
  decide

/-- Half a character. -/
def half : String := String.singleton (Text.ofHalf 0xd800)

/-- A book whose first choice gives a discipline with half a character for its name. -/
def broken : Opening where
  document := twoSections "b" [("effects", .arr [.str ("discipline:" ++ half)])] []
  text := "\x7b\"id\":\"b\",\"seriesId\":\"my.json\",\"sections\":[" ++
    "\x7b\"id\":\"1\",\"choices\":[" ++
    "\x7b\"targetId\":\"2\",\"effects\":[\"discipline:\\ud800\"]\x7d]\x7d," ++
    "\x7b\"id\":\"2\",\"choices\":[\x7b\"targetId\":\"1\"\x7d]\x7d]\x7d"

theorem isSound_broken : broken.IsSound where
  parses := by rfl
  reads := reads_of_b rfl rfl
  states := by
    rw [Json.readBytes_toUTF8]
    exact Json.eq_ok_of_isSame (by decide +kernel)
  named := by rfl
  series := by rfl
  checks := by decide +kernel

/-- What succeeds reaches a state that can be stored, in a section that can be printed. -/
theorem IsSound.of_status_eq_zero (h : o.IsSound) (hapart : o.Apart) (hrules : o.StatesRules)
    (hzero : status (run o.console.game.files "d" 0 inUtf8 (choosing 0)) = 0) :
    (o.turned 0).state.toJson.Storable ∧ ∀ line ∈ (o.turned 0).sectionLines, inUtf8 line = true := by
  obtain ⟨place, key, hleaves⟩ := h.leaves
  have hserves := h.starts.serves hleaves (h.conforms hapart).apart
  have hreadable : (Setting.savedOver place o.console.game.files o.id o.book key).RulesReadable :=
    fun _ => h.isReadable_of_loadCatalog hrules hleaves.series
  obtain ⟨r, console, hrun, hstep, -⟩ := inStep_run hleaves.accord hleaves.admits hreadable rfl
    hserves takesTurn_choosing (o.result_turned 0) "d" 0 inUtf8
  rw [hrun] at hzero
  exact (hstep.succeeds.mp hzero).2

/-- A state with half a character cannot be saved. -/
theorem partsWays_broken : broken.PartsWays 0 := by
  refine isSound_broken.partsWays (by decide +kernel) fun hzero => ?_
  have hnot : ¬ (broken.turned 0).state.toJson.Storable := by decide +kernel
  exact hnot (isSound_broken.of_status_eq_zero (by decide +kernel) (by decide +kernel) hzero).1

/-- A book whose second section has a choice with half a character for its text. -/
def unprintable : Opening where
  document := twoSections "b" [] [("text", .str half)]
  text := "\x7b\"id\":\"b\",\"seriesId\":\"my.json\",\"sections\":[" ++
    "\x7b\"id\":\"1\",\"choices\":[\x7b\"targetId\":\"2\"\x7d]\x7d," ++
    "\x7b\"id\":\"2\",\"choices\":[\x7b\"targetId\":\"1\",\"text\":\"\\ud800\"\x7d]\x7d]\x7d"

theorem isSound_unprintable : unprintable.IsSound where
  parses := by rfl
  reads := reads_of_b rfl rfl
  states := by
    rw [Json.readBytes_toUTF8]
    exact Json.eq_ok_of_isSame (by decide +kernel)
  named := by rfl
  series := by rfl
  checks := by decide +kernel

/-- A section with half a character cannot be printed. -/
theorem partsWays_unprintable : unprintable.PartsWays 0 := by
  refine isSound_unprintable.partsWays (by decide +kernel) fun hzero => ?_
  have hnot : ¬ ∀ line ∈ (unprintable.turned 0).sectionLines, inUtf8 line = true := by decide +kernel
  exact hnot
    (isSound_unprintable.of_status_eq_zero (by decide +kernel) (by decide +kernel) hzero).2

/-- What the command that takes the first choice comes to on a slot that holds a state, if the book is
read from its file. -/
theorem run_choosing {now : FileTree} {state : GameState} {id : String} {book : Book}
    (hid : state.bookId = .str id) (hnotBlank : Text.isBlank id = false)
    (hload : (Settings.slots {}).load now "d" (.str "s") = .ok (some state))
    (hbook : loadBook now ((Settings.shelf {}).bookPath id) = .ok book) :
    run now "d" 0 inUtf8 (choosing 0) = .ok
      ((match (book.sectionAt? state.sectionId).bind fun x => nth? x.choices 1 with
        | none => do
          let asked ← .ofExcept ((Argument.value (1 : Int)).toJson .int).text
          printError ("Error: no choice " ++ asked ++ " in the current section")
          pure 2
        | some choice => takeChoice (.str "s") choice (some (.value 0)) none state :
            Play Console Nat).result
          { game := { Settings.game {} now "d" 0 with
              shelf := { Settings.shelf {} with known := [(id, book)] } },
            takes := inUtf8 }) := by
  have hparse : Invocation.parse (choosing 0) =
      .ok ⟨{}, .choose "s" (.value 1) (some (.value 0)) none⟩ := by rfl
  have hget := Bookshelf.get_of_loadBook (b := Settings.shelf {}) hnotBlank rfl hbook
  rw [← hid] at hget
  rw [run_eq hparse rfl]
  exact congrArg Except.ok (result_choose hload (Game.result_currentSection_of_get hget))

/-- A book with the rules of a file, which state a number for a requirement. -/
def unruly : Opening where
  document := twoSections "b" [] [("ruleIds", .arr [.str "r"])]
  rules := "\x7b\"rules\":[\x7b\"id\":\"r\",\"requirements\":[5]\x7d]\x7d"

theorem isSound_unruly : unruly.IsSound where
  parses := by rfl
  reads := reads_of_b rfl rfl
  states := Json.Storable.readBytes_render (j := .obj unruly.document) (by decide +kernel)
  named := by rfl
  series := by rfl
  checks := by decide +kernel

/-- A section cannot be shown if the rules of its choices cannot be read. -/
theorem partsWays_unruly : unruly.PartsWays 0 := by
  refine isSound_unruly.partsWays (by decide +kernel) ?_
  obtain ⟨_, _, hleaves⟩ := isSound_unruly.leaves
  have hload := hleaves.accord.load hleaves.admits.complete "d"
  have hbook := isSound_unruly.starts.loadBook_again hleaves
    (isSound_unruly.conforms (by decide +kernel)).apart hleaves.accord.files
  -- the choice is saved before the next section fails to be shown
  rw [run_choosing (by rfl) (by decide) hload hbook, isSound_unruly.files_eq]
  decide +kernel

/-- A book that is kept in the file of the slot. -/
def overwritten : Opening where
  id := "../saves/s"
  document := twoSections "../saves/s" [] []
  place := ["saves", "s.json"]

theorem isSound_overwritten : overwritten.IsSound where
  parses := by rfl
  reads := by
    have hreads : ∀ o : Opening, o.place = ["saves", "s.json"] →
        o.files.read ((Settings.shelf {}).bookPath "../saves/s") = .ok o.text.toUTF8 := by
      intro o hplace
      unfold files
      rw [hplace]
      rfl
    exact hreads overwritten rfl
  states := Json.Storable.readBytes_render (j := .obj overwritten.document) (by decide +kernel)
  named := by rfl
  series := by rfl
  checks := by decide +kernel

/-- The game has been saved over a book that is kept in the file of the slot. -/
theorem partsWays_overwritten : overwritten.PartsWays 0 := by
  refine isSound_overwritten.partsWays (by decide +kernel) ?_
  obtain ⟨_, _, hleaves⟩ := isSound_overwritten.leaves
  have hload := hleaves.accord.load hleaves.admits.complete "d"
  obtain ⟨p, hp, hresolve⟩ := hleaves.accord.stands
  obtain rfl := Except.ok.inj (slotPath_s.symm.trans hp)
  have hsame : overwritten.saved.resolve ((Settings.shelf {}).bookPath "../saves/s") =
      overwritten.saved.resolve (Path.parse "saves/s.json") := by
    have hslot : (overwritten.saved.resolve (Path.parse "saves/s.json")).toOption =
        some ["saves", "s.json"] := by decide +kernel
    have hfile : (overwritten.saved.resolve ((Settings.shelf {}).bookPath "../saves/s")).toOption =
        some ["saves", "s.json"] := by decide +kernel
    exact (eq_ok_of_toOption hfile).trans (eq_ok_of_toOption hslot).symm
  rw [← isSound_overwritten.files_eq] at hsame
  have hread := FileTree.read_of_node? (hsame.trans hresolve) hleaves.accord.node
  -- read as a book, the saved game is a book without sections
  have hempty : Book.ofJson overwritten.first.toJson = .ok { series := .str "my.json" } := by rfl
  have hbook := loadBook_of_read hread (SaveSlots.readBytes_writtenBytes hleaves.accord.storable)
    hempty rfl (by decide)
  rw [run_choosing (by rfl) (by decide) hload hbook, isSound_overwritten.files_eq]
  decide +kernel

end Opening

/-- **A command need not succeed if a turn applies a choice:** the roll may not be one of the die, the
state that is reached may have half a character, so may the section that is shown, the rules may not be
readable, and the book may be kept in the file of the slot. -/
theorem commands_part_from_session :
    (Settings.shelf {}).directory ≠ (Settings.slots {}).directory ∧ thereAndBack.PartsWays 12 ∧
      broken.PartsWays 0 ∧ unprintable.PartsWays 0 ∧ unruly.PartsWays 0 ∧ overwritten.PartsWays 0 :=
  ⟨by decide +kernel, partsWays_thereAndBack, partsWays_broken, partsWays_unprintable,
    partsWays_unruly, partsWays_overwritten⟩

end Cli

end Questbook
