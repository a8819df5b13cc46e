import Questbook.Proofs.Book
import Questbook.Proofs.Files.Document
import Questbook.Proofs.Json.Same

set_option autoImplicit false

/-! # What comes of a file of a book

Reading a book stops where a value does not suit a record. All that can stop it lies in the document and
makes the file a damaged one, save an infinite number as a bound of an outcome (`Book.Overflows`). A file
is not reported as damaged in two more cases (`Book.Escapes`): the text has a numeral that is too long, or
the series of the book is a value that counts as given and is no text.

`loadBook_outcome` puts this together: a file gives a book of a named series, or it is damaged, or it is
one of these three cases.
-/

namespace Questbook

open Json

/-! ## Where the reading of a book overflows -/

theorem failsInDocument_blockText (j : Json) : FailsInDocument (blockText j) := by
  unfold blockText
  apply (failsInDocument_fieldOr j "text" .null).bind
  intro v
  split
  · exact failsInDocument_fieldOr j "html" (.str "")
  · exact failsOnlyBy_ok _

theorem ContentBlock.failsInDocument_ofJson (j : Json) :
    FailsInDocument (ContentBlock.ofJson j) :=
  (failsInDocument_blockText j).bind fun _ =>
    (failsInDocument_fieldOr j "kind" (.str "")).bind fun _ => failsOnlyBy_ok _

theorem FrontPage.failsInDocument_ofJson (j : Json) : FailsInDocument (FrontPage.ofJson j) :=
  (failsInDocument_blockText j).bind fun _ =>
    (failsInDocument_fieldOr j "id" (.str "")).bind fun _ =>
      (failsInDocument_fieldOr j "title" (.str "")).bind fun _ => failsOnlyBy_ok _

/-- **Whether an outcome has an infinite bound:** `min`, or `max` beside a `min` that is a whole
number. -/
def RandomOutcome.Overflows (j : Json) : Prop :=
  j.MeetsInfinity ["min", "max"]

theorem RandomOutcome.overflowsIf_ofJson (j : Json) :
    OverflowsIf Fault.inDocument (RandomOutcome.ofJson j) (RandomOutcome.Overflows j) := by
  unfold RandomOutcome.ofJson
  refine (overflowsIf_wholeOr j "min" 0).wholeOr_bind fun min => ?_
  refine (overflowsIf_wholeOr j "max" 9).wholeOr_bind fun max => ?_
  refine overflowsIf_nil ?_ j
  exact (failsInDocument_givenOr j "targetId" (.str "")).bind fun _ =>
    (failsInDocument_listed j "effects").bind fun _ => failsOnlyBy_ok _

/-- **Whether the first thing wrong with a choice** is an infinite bound of an outcome. -/
def Choice.Overflows (j : Json) : Prop :=
  (∃ xs, j.listed "requirements" = .ok xs) ∧ (∃ xs, j.listed "effects" = .ok xs) ∧
    j.StopsAt "randomOutcomes" RandomOutcome.ofJson RandomOutcome.Overflows

theorem Choice.overflowsIf_ofJson (j : Json) :
    OverflowsIf Fault.inDocument (Choice.ofJson j) (Choice.Overflows j) := by
  have houtcomes := overflowsIf_records (failsInDocument_listed j "randomOutcomes")
    RandomOutcome.overflowsIf_ofJson
  refine (overflowsIf_bind (failsInDocument_givenOr j "text" (.str "")) fun _ =>
    overflowsIf_bind (failsInDocument_givenOr j "targetId" (.str "")) fun _ =>
      overflowsIf_bind (failsInDocument_listed j "requirements") fun _ =>
        overflowsIf_bind (failsInDocument_listed j "effects") fun _ =>
          houtcomes.bind_of_caught fun _ =>
            (failsInDocument_listed j "ruleIds").bind fun _ => failsOnlyBy_ok _).congr ?_
  constructor
  · rintro ⟨-, -, -, -, requirements, hrequirements, effects, heffects, h⟩
    exact ⟨⟨requirements, hrequirements⟩, ⟨effects, heffects⟩, h⟩
  · rintro ⟨⟨requirements, hrequirements⟩, ⟨effects, heffects⟩, h⟩
    obtain ⟨fs, rfl⟩ := h.exists_obj
    obtain ⟨text, htext⟩ := exists_givenOr fs "text" (.str "")
    obtain ⟨target, htarget⟩ := exists_givenOr fs "targetId" (.str "")
    exact ⟨text, htext, target, htarget, requirements, hrequirements, effects, heffects, h⟩

/-- **Whether the first thing wrong with a section** is an infinite bound of an outcome. -/
def Section.Overflows (j : Json) : Prop :=
  (∃ id t, j.fieldOr "id" (.str "") = .ok id ∧ id.text = .ok t) ∧
    (∃ blocks, records ContentBlock.ofJson j "blocks" = .ok blocks) ∧
      j.StopsAt "choices" Choice.ofJson Choice.Overflows

theorem Section.overflowsIf_ofJson (j : Json) :
    OverflowsIf Fault.inDocument (Section.ofJson j) (Section.Overflows j) := by
  have hblocks := failsInDocument_records ContentBlock.failsInDocument_ofJson j "blocks"
  have hchoices := overflowsIf_records (failsInDocument_listed j "choices")
    Choice.overflowsIf_ofJson
  refine (overflowsIf_bind (failsInDocument_fieldOr j "id" (.str "")) fun id =>
    overflowsIf_bind (failsInDocument_text id) fun _ =>
      overflowsIf_bind (failsInDocument_givenOr j "title" (.str "")) fun _ =>
        overflowsIf_bind hblocks fun _ =>
          hchoices.bind_of_caught fun _ => failsOnlyBy_ok _).congr ?_
  constructor
  · rintro ⟨id, hid, t, ht, -, -, blocks, hread, h⟩
    exact ⟨⟨id, t, hid, ht⟩, ⟨blocks, hread⟩, h⟩
  · rintro ⟨⟨id, t, hid, ht⟩, ⟨blocks, hread⟩, h⟩
    obtain ⟨fs, rfl⟩ := h.exists_obj
    obtain ⟨title, htitle⟩ := exists_givenOr fs "title" (.str "")
    exact ⟨id, hid, t, ht, title, htitle, blocks, hread, h⟩

/-- **Whether the first thing wrong with a book** is an infinite bound of an outcome. -/
def Book.Overflows (j : Json) : Prop :=
  (∃ pages, records FrontPage.ofJson j "frontMatter" = .ok pages) ∧
    j.StopsAt "sections" Section.ofJson Section.Overflows

theorem Book.overflowsIf_ofJson (j : Json) :
    OverflowsIf Fault.inDocument (Book.ofJson j) (Book.Overflows j) := by
  have hpages := failsInDocument_records FrontPage.failsInDocument_ofJson j "frontMatter"
  have hsections := overflowsIf_records (failsInDocument_listed j "sections")
    Section.overflowsIf_ofJson
  refine (overflowsIf_bind (failsInDocument_givenOr j "id" (.str "")) fun _ =>
    overflowsIf_bind (failsInDocument_givenOr j "seriesId" (.str "")) fun _ =>
      overflowsIf_bind (failsInDocument_givenOr j "title" (.str "")) fun _ =>
        overflowsIf_bind hpages fun _ =>
          hsections.bind_of_caught fun _ => failsOnlyBy_ok _).congr ?_
  constructor
  · rintro ⟨-, -, -, -, -, -, pages, hread, h⟩
    exact ⟨⟨pages, hread⟩, h⟩
  · rintro ⟨⟨pages, hread⟩, h⟩
    obtain ⟨fs, rfl⟩ := h.exists_obj
    obtain ⟨id, hid⟩ := exists_givenOr fs "id" (.str "")
    obtain ⟨series, hseries⟩ := exists_givenOr fs "seriesId" (.str "")
    obtain ⟨title, htitle⟩ := exists_givenOr fs "title" (.str "")
    exact ⟨id, hid, series, hseries, title, htitle, pages, hread, h⟩

/-! ## Files of books -/

/-- **What is wrong with bytes** that are to state a book of a series. -/
inductive Book.Damages (bytes : ByteArray) : Damage → Prop
  | document {damage : Damage} (h : Document.Damages Book.ofJson bytes damage) :
      Book.Damages bytes damage
  | noSeries {book : Book} {series : String} (h : Document.States Book.ofJson bytes book)
      (hseries : book.series = .str series) (hblank : Text.isBlank series = true) :
      Book.Damages bytes .noSeries

/-- **The faults of bytes that are not reported as a damaged book.** -/
inductive Book.Escapes (bytes : ByteArray) : Fault → Prop
  | document {f : Fault} (h : Document.Escapes Book.Overflows bytes f) : Book.Escapes bytes f
  | notText {book : Book} (h : Document.States Book.ofJson bytes book)
      (hseries : ∀ series, book.series ≠ .str series) : Book.Escapes bytes .notText

section

variable {files : FileTree} {p : Path} {bytes : ByteArray} {book : Book}

theorem loadBook_of_load_error {f : Fault}
    (h : Document.load (.badBook p.text) Book.ofJson files p = .error f) :
    loadBook files p = .error f :=
  bind_eq_error_iff.mpr (Or.inl h)

theorem loadBook_of_load (h : Document.load (.badBook p.text) Book.ofJson files p = .ok book) :
    loadBook files p = (book.series.asText >>= fun series =>
      if Text.isBlank series then .error (.badBook p.text .noSeries) else pure book) := by
  unfold loadBook
  rw [h]
  rfl

theorem asText_of_not_str {j : Json} (h : ∀ s, j ≠ .str s) : j.asText = .error .notText := by
  cases j with
  | str s => exact absurd rfl (h s)
  | _ => rfl

theorem loadBook_of_str {series : String} (hseries : book.series = .str series)
    (h : Document.load (.badBook p.text) Book.ofJson files p = .ok book) :
    loadBook files p =
      if Text.isBlank series then .error (.badBook p.text .noSeries) else .ok book := by
  rw [loadBook_of_load h, hseries]
  rfl

theorem loadBook_of_not_str (hseries : ∀ series, book.series ≠ .str series)
    (h : Document.load (.badBook p.text) Book.ofJson files p = .ok book) :
    loadBook files p = .error .notText := by
  rw [loadBook_of_load h, asText_of_not_str hseries]
  rfl

theorem loadBook_of_escapes (hread : files.read p = .ok bytes) {f : Fault}
    (h : Book.Escapes bytes f) : loadBook files p = .error f := by
  cases h with
  | document h =>
      exact loadBook_of_load_error
        (Document.load_of_escapes hread (fun fs _ => Book.overflowsIf_ofJson (.obj fs)) h)
  | notText h hseries =>
      obtain ⟨fs, hbytes, hbook⟩ := h
      apply loadBook_of_not_str hseries
      rw [Document.load_of_readBytes hread hbytes, hbook]
      rfl

/-- A file gives the book that it states, or it is damaged, or it has a fault that is passed on. -/
theorem loadBook_cases (hread : files.read p = .ok bytes) :
    (∃ book series, loadBook files p = .ok book ∧ Document.States Book.ofJson bytes book ∧
        book.series = .str series ∧ Text.isBlank series = false) ∨
      (∃ damage, loadBook files p = .error (.badBook p.text damage) ∧ Book.Damages bytes damage) ∨
      ∃ f, loadBook files p = .error f ∧ Book.Escapes bytes f := by
  have hload := Document.load_outcome (.badBook p.text) hread
    fun fs _ => Book.overflowsIf_ofJson (.obj fs)
  rcases hload with ⟨book, hload, hbook⟩ | ⟨damage, hload, hdamage⟩ | ⟨f, hload, hf⟩
  · by_cases hseries : ∃ series, book.series = .str series
    · obtain ⟨series, hseries⟩ := hseries
      have hresult := loadBook_of_str hseries hload
      cases hblank : Text.isBlank series with
      | false =>
          rw [hblank] at hresult
          exact Or.inl ⟨book, series, hresult, hbook, hseries, hblank⟩
      | true =>
          rw [hblank] at hresult
          exact Or.inr (Or.inl ⟨.noSeries, hresult, .noSeries hbook hseries hblank⟩)
    · have hnone : ∀ series, book.series ≠ .str series := fun series h => hseries ⟨series, h⟩
      exact Or.inr (Or.inr ⟨.notText, loadBook_of_not_str hnone hload, .notText hbook hnone⟩)
  · exact Or.inr (Or.inl ⟨damage, loadBook_of_load_error hload, .document hdamage⟩)
  · exact Or.inr (Or.inr ⟨f, loadBook_of_load_error hload, .document hf⟩)

/-- **What comes of a file of a book:** the book that it states, of a series with a name; or the fault of
a damaged file; or one of the faults that are passed on. -/
theorem loadBook_outcome (hread : files.read p = .ok bytes) :
    ((∃ book series, loadBook files p = .ok book ∧ Document.States Book.ofJson bytes book ∧
        book.series = .str series ∧ Text.isBlank series = false) ∨
      (∃ damage, loadBook files p = .error (.badBook p.text damage) ∧ Book.Damages bytes damage) ∨
      ∃ f, loadBook files p = .error f ∧ Book.Escapes bytes f) ∧
    (∀ f, Book.Escapes bytes f → loadBook files p = .error f) ∧
    (Book.Escapes bytes .longNumeral →
      ∃ s, String.fromUTF8? bytes = some s ∧ HasLongRun s.toList) := by
  refine ⟨loadBook_cases hread, fun f => loadBook_of_escapes hread, ?_⟩
  rintro (hlong | -)
  exact hlong.exists_longRun

/-- Two paths that lead to the same bytes hold the same book. -/
theorem loadBook_of_same_bytes {q : Path} (hread : files.read p = .ok bytes)
    (hread' : files.read q = .ok bytes) (h : loadBook files p = .ok book) :
    loadBook files q = .ok book := by
  rcases loadBook_cases hread with ⟨other, series, hload, hstates, hseries, hblank⟩ | ⟨_, hload, -⟩ |
    ⟨_, hload, -⟩
  · obtain rfl : other = book := Except.ok.inj (hload.symm.trans h)
    obtain ⟨fs, hbytes, hbook⟩ := hstates
    exact loadBook_of_read hread' hbytes hbook hseries hblank
  · rw [hload] at h
    cases h
  · rw [hload] at h
    cases h

end

/-! ## A book with an endless outcome, and one with an odd series -/

/-- The text of a book with an outcome that has no end. -/
def endlessBook : ByteArray :=
  ("\x7b\"seriesId\":\"lw\",\"sections\":[\x7b\"choices\":[\x7b\"randomOutcomes\":" ++
    "[\x7b\"min\":5,\"max\":1e999\x7d]\x7d]\x7d]\x7d").toUTF8

/-- The text of a book whose series is a number. -/
def oddBook : ByteArray := "\x7b\"seriesId\":5\x7d".toUTF8

/-- A directory with one file. -/
def bookAlone (bytes : ByteArray) : FileTree where
  nodes := [(["b.json"], .file bytes)]

theorem read_bookAlone (bytes : ByteArray) :
    (bookAlone bytes).read { parts := ["b.json"] } = .ok bytes := by
  have hresolve : (bookAlone bytes).resolve { parts := ["b.json"] } = .ok ["b.json"] :=
    FileTree.resolve_eq_ok_iff.mpr ⟨by decide +kernel, by decide +kernel, rfl⟩
  exact FileTree.read_of_node? hresolve rfl

/-- The book without an end is not reported as damaged. -/
theorem loadBook_outcome_endless :
    (bookAlone endlessBook).read { parts := ["b.json"] } = .ok endlessBook ∧
      loadBook (bookAlone endlessBook) { parts := ["b.json"] } = .error .infinite := by
  have hread := read_bookAlone endlessBook
  have hbytes : readBytes endlessBook = .ok (.obj [("seriesId", .str "lw"), ("sections", .arr [.obj
      [("choices", .arr [.obj [("randomOutcomes", .arr [.obj [("min", .int 5),
        ("max", .float (.infinite false))]])]])]])]) :=
    eq_ok_of_isSame (by decide +kernel)
  have houtcome : RandomOutcome.Overflows
      (.obj [("min", .int 5), ("max", .float (.infinite false))]) :=
    Or.inr ⟨⟨5, rfl⟩, Or.inl ⟨false, rfl⟩⟩
  refine ⟨hread, (loadBook_outcome hread).2.1 _ (.document (.infinite hbytes ?_))⟩
  -- nothing before the outcome is wrong
  exact ⟨⟨_, rfl⟩, [], _, [], rfl, List.forall_mem_nil _, ⟨_, _, rfl, rfl⟩, ⟨_, rfl⟩, [], _, [], rfl,
    List.forall_mem_nil _, ⟨_, rfl⟩, ⟨_, rfl⟩, [], _, [], rfl, List.forall_mem_nil _, houtcome⟩

/-- **A book whose series is a number** is neither loaded nor reported as damaged. -/
theorem loadBook_not_reported :
    (bookAlone oddBook).read { parts := ["b.json"] } = .ok oddBook ∧
      (∀ book, loadBook (bookAlone oddBook) { parts := ["b.json"] } ≠ .ok book) ∧
        ∀ path damage,
          loadBook (bookAlone oddBook) { parts := ["b.json"] } ≠ .error (.badBook path damage) := by
  have hread := read_bookAlone oddBook
  have hbytes : readBytes oddBook = .ok (.obj [("seriesId", .int 5)]) :=
    eq_ok_of_isSame (by decide +kernel)
  have hbook : Book.ofJson (.obj [("seriesId", .int 5)]) = .ok { series := .int 5 } := rfl
  have hresult : loadBook (bookAlone oddBook) { parts := ["b.json"] } = .error .notText :=
    loadBook_of_escapes hread (.notText ⟨_, hbytes, hbook⟩ nofun)
  rw [hresult]
  exact ⟨hread, nofun, nofun⟩

end Questbook
