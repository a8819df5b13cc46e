import Questbook.Book.Basic
import Questbook.Files.Document

set_option autoImplicit false

/-! # Bookshelves

A bookshelf is a directory of books, one document for each, named by the book's id. A book is read
when it is first asked for and kept from then on, whatever becomes of its file (`Bookshelf.get`).

The file of a book has to hold an object that states a book, and the book has to name its series
(`loadBook`).
-/

namespace Questbook

/-- **The book that a file holds.** -/
def loadBook (files : FileTree) (p : Path) : Except Fault Book := do
  let book ← Document.load (.badBook p.text) Book.ofJson files p
  if Text.isBlank (← book.series.asText) then .error (.badBook p.text .noSeries) else pure book

/-- **A directory of books,** with the books that have been read, under the ids by which they were
asked for. -/
structure Bookshelf where
  directory : Path
  known : List (String × Book) := []

namespace Bookshelf

/-- The path of the file of a book. -/
def bookPath (b : Bookshelf) (id : String) : Path :=
  b.directory.join (Document.fileName id)

/-- Reads the book of an id and keeps it. -/
def fetch (b : Bookshelf) (files : FileTree) (id : String) : Except Fault Book × Bookshelf :=
  let p := b.bookPath id
  if files.pathExists p then
    match loadBook files p with
    | .ok book => (.ok book, { b with known := b.known ++ [(id, book)] })
    | .error f => (.error f, b)
  else (.error (.noBookFile p.text), b)

/-- The book of an id, which must not be blank. -/
def getNamed (b : Bookshelf) (files : FileTree) (id : String) : Except Fault Book × Bookshelf :=
  if Text.isBlank id then (.error (.required "book_id"), b)
  else
    match b.known.lookup id with
    | some book => (.ok book, b)
    | none => b.fetch files id

/-- **The book of an id** of a document. Null and blank ids are missing. -/
def get (b : Bookshelf) (files : FileTree) (id : Json) : Except Fault Book × Bookshelf :=
  match id with
  | .null => (.error (.required "book_id"), b)
  | j =>
    match j.asText with
    | .ok id => b.getNamed files id
    | .error f => (.error f, b)

/-- The ids of the books on the shelf, sorted. -/
def ids (b : Bookshelf) (files : FileTree) : List String :=
  files.documents b.directory

end Bookshelf

end Questbook
