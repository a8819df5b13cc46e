import Questbook.Proofs.Book.Loading
import Questbook.Proofs.Game.Answers
import Questbook.Proofs.Game.Start
import Questbook.Proofs.Json.Same

set_option autoImplicit false

/-! # The first section

A book is found by the id it is asked for, and the state in which it is started remembers the id that the
document states, if it states one. The section of this state is looked up in the book that the remembered
id leads to (`Game.start_currentSection`). If it leads back to the book that was started, this is the first
section of the book, also when other sections have the same id.

An id leads back if the document states none, or the one that was asked for, or the name of the same file
(`Game.LeadsBack`). Otherwise there may be another book under the id, or none.
-/

namespace Questbook

/-- The first section has the id that a book starts at. -/
theorem Book.findSection?_firstSectionId (b : Book) :
    b.findSection? b.firstSectionId = b.sections.head? := by
  unfold findSection? firstSectionId
  cases b.sections with
  | nil => rfl
  | cons s rest => exact List.find?_cons_of_pos (by simp)

/-- **Whether the id that a document states leads back** to the book that was asked for by an id. -/
inductive Game.LeadsBack (g : Game) (id : String) (book : Book) : Prop
  | unnamed (h : book.id.isGiven = false)
  | asked (h : book.id = .str id)
  /-- The two ids are names of the same file, which has not been read yet. -/
  | sameFile {other : String} (h : book.id = .str other) (named : Text.isBlank other = false)
      (unread : g.shelf.known.lookup id = none) (unread' : g.shelf.known.lookup other = none)
      (file : g.files.resolve (g.shelf.bookPath other) = g.files.resolve (g.shelf.bookPath id))

namespace Game

variable {g h : Game} {id : String} {book : Book} {profile : PlayerProfile} {first : GameState}

/-- The section that a state is in is looked up in the book that its id leads to. -/
theorem result_currentSection_eq (state : GameState) (h : Game) :
    ((currentSection state).result h).1 =
      (h.shelf.get h.files state.bookId).1.map fun book => book.sectionAt? state.sectionId := by
  have hbook : (bookOf state).result h = ((h.shelf.get h.files state.bookId).1,
      { h with shelf := (h.shelf.get h.files state.bookId).2 }) := rfl
  unfold currentSection
  rw [Play.result_bind, hbook]
  cases (h.shelf.get h.files state.bookId).1 <;> rfl

/-- What is given for an id that has not been asked for yet comes from its file. -/
theorem get_of_unread {name : String} (hnamed : Text.isBlank name = false)
    (hunread : g.shelf.known.lookup name = none) :
    (g.shelf.get g.files (.str name)).1 = g.shelf.onFile g.files name := by
  show (g.shelf.getNamed g.files name).1 = _
  rw [Bookshelf.result_getNamed hnamed, hunread]
  rfl

/-- Two names of one file give the same book. -/
theorem onFile_of_same_file {b : Bookshelf} {files : FileTree} {name other : String}
    (hfile : files.resolve (b.bookPath other) = files.resolve (b.bookPath name))
    (hbook : b.onFile files name = .ok book) : b.onFile files other = .ok book := by
  unfold Bookshelf.onFile at hbook ⊢
  split at hbook
  · obtain ⟨bytes, -, hread, -⟩ := exists_read_of_loadBook hbook
    have hread' : files.read (b.bookPath other) = .ok bytes :=
      (FileTree.read_eq_of_resolve_eq hfile).trans hread
    rw [if_pos (FileTree.pathExists_of_read hread')]
    exact loadBook_of_same_bytes hread hread' hbook
  · cases hbook

/-- The book that the remembered id leads back to. -/
theorem LeadsBack.get (hback : g.LeadsBack id book)
    (hget : (g.shelf.get g.files (.str id)).1 = .ok book) :
    (g.shelf.get g.files (book.id.orElse (.str id))).1 = .ok book := by
  cases hback with
  | unnamed h =>
      rw [Json.orElse_asked (Or.inr h)]
      exact hget
  | asked h =>
      rw [Json.orElse_asked (Or.inl h)]
      exact hget
  | @sameFile other h named unread unread' file =>
      have hgiven : (Json.str other).isGiven = true := by
        rw [← Bool.not_eq_false]
        intro hmissing
        have hempty : other = "" := by simpa [Json.isGiven] using hmissing
        rw [hempty] at named
        revert named
        decide
      have hid := (Bookshelf.lookup_known_of_get hget).1
      rw [get_of_unread hid unread] at hget
      rw [h, Json.orElse_of_isGiven hgiven, get_of_unread named unread']
      exact onFile_of_same_file file hget

/-- The section of the state in which a book is started, at the table that the start leaves. -/
theorem result_currentSection_firstState (g : Game) (id series : String) (book : Book)
    (profile : PlayerProfile) :
    ((currentSection (firstState g.newId (.str id) book series profile)).result
        { g with shelf := (g.shelf.get g.files (.str id)).2 }).1 =
      (g.shelf.get g.files (book.id.orElse (.str id))).1.map fun found =>
        found.findSection? book.firstSectionId := by
  -- reading the book for the start changes no answer
  rw [← g.shelf.result_get_after g.files (.str id) (book.id.orElse (.str id))]
  exact result_currentSection_eq _ _

/-- **The section that a started game is in** is looked up in the book that the remembered id leads to,
by the id of the first section of the book that was started. It is this first section if the remembered id
leads back. -/
theorem start_currentSection (hstart : (start (.str id) profile).result g = (.ok first, h)) :
    ∃ book, (g.shelf.get g.files (.str id)).1 = .ok book ∧
      ((currentSection first).result h).1 =
        (g.shelf.get g.files (book.id.orElse (.str id))).1.map (fun found =>
          found.findSection? book.firstSectionId) ∧
      (g.LeadsBack id book → ((currentSection first).result h).1 = .ok book.sections.head?) := by
  obtain ⟨book, series, hget, rfl, rfl⟩ := start_eq hstart
  have hsection := result_currentSection_firstState g id series book profile
  refine ⟨book, hget, hsection, fun hback => ?_⟩
  rw [hsection, hback.get hget]
  exact congrArg Except.ok book.findSection?_firstSectionId

/-! ## A book under two names of its file, and one under another id -/

/-- A table with one file for a book, which has not been read yet. -/
def unreadTable (bytes : ByteArray) : Game where
  files := { nodes := [(["books"], .directory), (["books", "b.json"], .file bytes)] }
  shelf := { directory := { parts := ["books"] } }
  slots := { directory := { parts := ["saves"] } }
  engine := { source := .cycling [] }
  newId := "new"

theorem resolve_unreadTable (bytes : ByteArray) :
    (unreadTable bytes).files.resolve { parts := ["books", "b.json"] } = .ok ["books", "b.json"] :=
  FileTree.resolve_eq_ok_iff.mpr ⟨by decide +kernel, by decide +kernel, rfl⟩

/-- A book is found under each name of its file. -/
theorem get_unreadTable {bytes : ByteArray} {fs : List (String × Json)} {name series : String}
    (hpath : (unreadTable bytes).shelf.bookPath name = { parts := ["books", "b.json"] })
    (hnamed : Text.isBlank name = false) (hbytes : Json.readBytes bytes = .ok (.obj fs))
    (hbook : Book.ofJson (.obj fs) = .ok book) (hseries : book.series = .str series)
    (hblank : Text.isBlank series = false) :
    ((unreadTable bytes).shelf.get (unreadTable bytes).files (.str name)).1 = .ok book := by
  have hread : (unreadTable bytes).files.read { parts := ["books", "b.json"] } = .ok bytes :=
    FileTree.read_of_node? (resolve_unreadTable bytes) rfl
  rw [get_of_unread hnamed rfl, Bookshelf.onFile, hpath, FileTree.pathExists_of_read hread, if_pos rfl]
  exact loadBook_of_read hread hbytes hbook hseries hblank

/-- The text of a book that states the id `b` and has two sections of the same id. -/
def twinSections : ByteArray :=
  ("\x7b\"id\":\"b\",\"seriesId\":\"lw\",\"sections\":[\x7b\"id\":\"1\",\"title\":\"x\"\x7d," ++
    "\x7b\"id\":\"1\",\"title\":\"y\"\x7d]\x7d").toUTF8

/-- The text of a book that states the id `c`. -/
def strayBook : ByteArray :=
  "\x7b\"id\":\"c\",\"seriesId\":\"lw\",\"sections\":[\x7b\"id\":\"1\"\x7d]\x7d".toUTF8

/-- The book that states the id `c`. -/
def strayContents : Book where
  id := .str "c"
  series := .str "lw"
  sections := [{ id := "1" }]

/-- A book that is asked for by another name of its file starts at the first of its sections. -/
theorem start_currentSection_twin : ∃ first h,
    (start (.str "./b") {}).result (unreadTable twinSections) = (.ok first, h) ∧
      ((currentSection first).result h).1 = .ok (some { id := "1", title := .str "x" }) := by
  have hbytes : Json.readBytes twinSections = .ok (.obj [("id", .str "b"), ("seriesId", .str "lw"),
      ("sections", .arr [.obj [("id", .str "1"), ("title", .str "x")],
        .obj [("id", .str "1"), ("title", .str "y")]])]) :=
    Json.eq_ok_of_isSame (by decide +kernel)
  have hbook : Book.ofJson (.obj [("id", .str "b"), ("seriesId", .str "lw"),
      ("sections", .arr [.obj [("id", .str "1"), ("title", .str "x")],
        .obj [("id", .str "1"), ("title", .str "y")]])]) =
      .ok { id := .str "b", series := .str "lw",
            sections := [{ id := "1", title := .str "x" }, { id := "1", title := .str "y" }] } := rfl
  have hpath : (unreadTable twinSections).shelf.bookPath "./b" = { parts := ["books", "b.json"] } := by
    decide +kernel
  have hpath' : (unreadTable twinSections).shelf.bookPath "b" = { parts := ["books", "b.json"] } := by
    decide +kernel
  have hget := get_unreadTable hpath (by decide +kernel) hbytes hbook rfl (by decide +kernel)
  have hstart : (start (.str "./b") {}).result (unreadTable twinSections) = _ :=
    result_start hget rfl
  refine ⟨_, _, hstart, ?_⟩
  obtain ⟨book, hfound, -, hfirst⟩ := start_currentSection hstart
  obtain rfl := Except.ok.inj (hfound.symm.trans hget)
  exact hfirst (.sameFile rfl (by decide +kernel) rfl rfl (by rw [hpath, hpath']))

/-- **A book that states another id** is started, and then its first section is not found. -/
theorem stray_currentSection : ∃ first h,
    (start (.str "b") {}).result (unreadTable strayBook) = (.ok first, h) ∧
      ((unreadTable strayBook).shelf.get (unreadTable strayBook).files (.str "b")).1 =
        .ok strayContents ∧
      ((currentSection first).result h).1 = .error (.noBookFile "books/c.json") := by
  have hbytes : Json.readBytes strayBook = .ok (.obj [("id", .str "c"), ("seriesId", .str "lw"),
      ("sections", .arr [.obj [("id", .str "1")]])]) :=
    Json.eq_ok_of_isSame (by decide +kernel)
  have hpath : (unreadTable strayBook).shelf.bookPath "b" = { parts := ["books", "b.json"] } := by
    decide +kernel
  have hget : ((unreadTable strayBook).shelf.get (unreadTable strayBook).files (.str "b")).1 =
      .ok strayContents :=
    get_unreadTable hpath (by decide +kernel) hbytes rfl rfl (by decide +kernel)
  refine ⟨_, _, result_start hget rfl, hget, ?_⟩
  have hpath' : (unreadTable strayBook).shelf.bookPath "c" = { parts := ["books", "c.json"] } := by
    decide +kernel
  have htext : Path.text { parts := ["books", "c.json"] } = "books/c.json" := by decide +kernel
  have hmissing : (unreadTable strayBook).files.pathExists { parts := ["books", "c.json"] } = false := by
    decide +kernel
  have hother : ((unreadTable strayBook).shelf.get (unreadTable strayBook).files (.str "c")).1 =
      .error (.noBookFile "books/c.json") := by
    rw [get_of_unread (by decide +kernel) rfl, Bookshelf.onFile, hpath', hmissing, htext,
      if_neg Bool.false_ne_true]
  have hid : strayContents.id.orElse (.str "b") = .str "c" :=
    Json.orElse_of_isGiven (by decide +kernel)
  rw [result_currentSection_firstState, hid, hother]
  rfl

end Game

end Questbook
