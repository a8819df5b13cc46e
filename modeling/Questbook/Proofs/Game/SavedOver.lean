import Questbook.Proofs.Book
import Questbook.Proofs.Game.Serving

set_option autoImplicit false

/-! # Games that are saved over each other

As long as a game is saved again and again in one slot, the files of the table differ in the file of
this slot only (`FileTree.SavedOver`). The rules of a series are the same on all these files
(`FileTree.SavedOver.loadCatalog_eq`), and so is a book whose file is not that of the slot. Tables that
are laid on any of them serve the same game (`Game.serves_of_fresh`).
-/

namespace Questbook

/-! ## The files -/

/-- **Whether a tree is another one with a game saved at a place.** -/
structure FileTree.SavedOver (place : List String) (t u : FileTree) : Prop where
  home : u.home = t.home
  kept : ∀ other, other ≠ place → u.node? other = t.node? other
  holds : ∃ bytes state, u.node? place = some (.file bytes) ∧
    Json.readBytes bytes = .ok (GameState.toJson state)

namespace FileTree

variable {place : List String} {t u v : FileTree} {p : Path}

theorem SavedOver.differAt (hu : SavedOver place t u) (hv : SavedOver place t v) :
    DifferAt place u v := by
  obtain ⟨a, _, ha, -⟩ := hu.holds
  obtain ⟨b, _, hb, -⟩ := hv.holds
  exact ⟨hv.home.trans hu.home.symm,
    fun other hother => (hv.kept other hother).trans (hu.kept other hother).symm, ⟨a, ha⟩, ⟨b, hb⟩⟩

/-- A game that is saved at the place takes the place of the one before. -/
theorem SavedOver.saved (hu : SavedOver place t u) (hdiffer : DifferAt place u v) {bytes : ByteArray}
    {state : GameState} (hnode : v.node? place = some (.file bytes))
    (hstates : Json.readBytes bytes = .ok state.toJson) : SavedOver place t v :=
  ⟨hdiffer.home.trans hu.home,
    fun other hother => (hdiffer.kept other hother).trans (hu.kept other hother), bytes, state, hnode,
    hstates⟩

/-- A saved game states no rules. -/
theorem SavedOver.loadCatalog_slot (hu : SavedOver place t u) (hp : u.resolve p = .ok place) :
    (Series.readObject u p >>= fun document => Catalog.ofJson (document.getD .null)) = .ok {} := by
  obtain ⟨bytes, state, hnode, hstates⟩ := hu.holds
  have hdocument : Series.readObject u p = .ok (some state.toJson) := by
    unfold Series.readObject
    rw [read_of_node? hp hnode]
    simp only [hstates]
    rfl
  rw [hdocument]
  rfl

/-- **The rules of a series are the same** on all trees that a game is saved over. -/
theorem SavedOver.loadCatalog_eq (hu : SavedOver place t u) (hv : SavedOver place t v)
    (key : Option String) : Series.loadCatalog v key = Series.loadCatalog u key := by
  have hdiffer := hu.differAt hv
  unfold Series.loadCatalog Series.loadDocument
  cases key with
  | none => rfl
  | some key =>
      dsimp only
      split
      · rfl
      · rw [hdiffer.isFile]
        split
        · by_cases hp : u.resolve (Path.parse (Text.trim key)) = .ok place
          · rw [hu.loadCatalog_slot hp, hv.loadCatalog_slot ((hdiffer.resolve _).trans hp)]
          · unfold Series.readObject
            rw [hdiffer.read hp]
        · rfl

/-- A book whose file is not that of the slot is the same. -/
theorem SavedOver.loadBook_eq (hu : SavedOver place t u) (hv : SavedOver place t v)
    (hp : u.resolve p ≠ .ok place) : loadBook v p = loadBook u p :=
  loadBook_eq_of_read ((hu.differAt hv).read hp)

end FileTree

/-! ## Books that have not been read -/

namespace Bookshelf

variable {b : Bookshelf} {files : FileTree} {id : String} {book : Book}

/-- A book that is found for the first time is read from its file. -/
theorem loadBook_of_get (hnew : b.known.lookup id = none)
    (h : (b.get files (.str id)).1 = .ok book) : loadBook files (b.bookPath id) = .ok book := by
  have hget : b.get files (.str id) = b.getNamed files id := rfl
  rw [hget] at h
  unfold getNamed at h
  split at h
  · cases h
  · rw [hnew] at h
    unfold fetch at h
    dsimp only at h
    split at h
    · split at h
      · next found hload =>
        cases h
        exact hload
      · cases h
    · cases h

/-- A book that can be read from its file is found, and kept. -/
theorem get_of_loadBook (hid : Text.isBlank id = false) (hnew : b.known.lookup id = none)
    (h : loadBook files (b.bookPath id) = .ok book) :
    b.get files (.str id) = (.ok book, { b with known := b.known ++ [(id, book)] }) := by
  obtain ⟨bytes, -, hread, -⟩ := exists_read_of_loadBook h
  have hexists : files.pathExists (b.bookPath id) = true := by
    obtain ⟨node, hstat, -⟩ := bind_eq_ok_iff.mp hread
    unfold FileTree.pathExists
    rw [hstat]
    rfl
  have hget : b.get files (.str id) = b.getNamed files id := rfl
  rw [hget]
  unfold getNamed fetch
  rw [hid, hnew]
  simp only [hexists, h]
  rfl

end Bookshelf

/-- The section of a state is looked up in the book that the shelf gives. -/
theorem Game.result_currentSection_of_get {g : Game} {state : GameState} {book : Book}
    {shelf : Bookshelf} (hget : g.shelf.get g.files state.bookId = (.ok book, shelf)) :
    (Game.currentSection state).result g =
      (.ok (book.sectionAt? state.sectionId), { g with shelf }) := by
  have hread : (Game.bookOf state).result g = (.ok book, { g with shelf }) := by
    show ((g.shelf.get g.files state.bookId).1,
      { g with shelf := (g.shelf.get g.files state.bookId).2 }) = _
    rw [hget]
  unfold Game.currentSection
  rw [Play.result_bind_of_ok hread]
  rfl

/-! ## Tables -/

/-- **A table whose engine has loaded nothing serves a game** if book and rules are the same on all
trees it may stand on. -/
theorem Game.serves_of_fresh {g : Game} {w : Setting} (hfiles : w.trees g.files)
    (hbook : ∀ files, w.trees files → (g.shelf.get files (.str w.id)).1 = .ok w.book)
    (hcatalogs : g.engine.catalogs = {}) (hloaders : g.engine.loaders = .standard)
    (hcatalog : ∀ files, w.trees files →
      Series.loadCatalog files (some (Series.normalKey w.key)) = w.catalog) : g.Serves w := by
  refine ⟨hfiles, hbook, ?_⟩
  intro files htrees
  show (g.engine.catalogs.getOrLoad w.key (g.engine.loaders.catalog files)).result = w.catalog
  -- a cache that is empty loads, and loading gives the same on all trees
  rw [hcatalogs, hloaders, SeriesCache.result_getOrLoad]
  exact hcatalog files htrees

/-- **The setting of a game that is saved over and over** at a place of a tree. -/
def Setting.savedOver (place : List String) (start : FileTree) (id : String) (book : Book)
    (key : Option String) : Setting where
  trees := FileTree.SavedOver place start
  id := id
  book := book
  key := key
  catalog := Series.loadCatalog start (some (Series.normalKey key))

section

variable {place : List String} {start : FileTree} {id : String} {book : Book} {key : Option String}

theorem Game.serves_savedOver {g : Game} (hstart : start.SavedOver place start)
    (hfiles : start.SavedOver place g.files)
    (hbook : ∀ files, start.SavedOver place files → (g.shelf.get files (.str id)).1 = .ok book)
    (hcatalogs : g.engine.catalogs = {}) (hloaders : g.engine.loaders = .standard) :
    g.Serves (.savedOver place start id book key) :=
  Game.serves_of_fresh hfiles hbook hcatalogs hloaders
    fun _ htree => hstart.loadCatalog_eq htree _

/-- A table goes on serving on another of the trees. -/
theorem Game.Serves.withFiles {g : Game} {w : Setting} (h : g.Serves w) {files : FileTree}
    (hfiles : w.trees files) : { g with files }.Serves w :=
  ⟨hfiles, h.book, h.catalog⟩

end

end Questbook
