import Questbook.Bookshelf
import Questbook.Proofs.SaveSlots
import Questbook.Proofs.Json.Shown

set_option autoImplicit false

/-! # Books that are read

Everything that a player is shown of a section can be shown if the book was read from a file
(`isShown_of_loadBook`). Which book is read depends on the bytes of its file only
(`loadBook_eq_of_read`).
-/

namespace Questbook

open Json

variable {j : Json}

/-! ## Sections that can be shown -/

/-- **Whether a section can be shown:** its title, its blocks and the lines of its choices. -/
structure Section.IsShown (s : Section) : Prop where
  title : s.title.HasText
  blocks : ∀ b ∈ s.blocks, b.text.HasText
  choices : ∀ c ∈ s.choices, c.text.HasText ∧ c.target.HasText

theorem ContentBlock.hasText_of_ofJson (hj : j.HasText) {b : ContentBlock}
    (h : ContentBlock.ofJson j = .ok b) : b.text.HasText := by
  obtain ⟨text, htext, h⟩ := bind_eq_ok_iff.mp h
  obtain ⟨kind, -, h⟩ := bind_eq_ok_iff.mp h
  cases h
  obtain ⟨v, hv, htext⟩ := bind_eq_ok_iff.mp htext
  split at htext
  · exact handsDown_hasText.of_fieldOr hj (hasText_str "") htext
  · cases htext
    exact handsDown_hasText.of_fieldOr hj handsDown_hasText.null hv

theorem Choice.hasText_of_ofJson (hj : j.HasText) {c : Choice} (h : Choice.ofJson j = .ok c) :
    c.text.HasText ∧ c.target.HasText := by
  obtain ⟨text, htext, h⟩ := bind_eq_ok_iff.mp h
  obtain ⟨target, htarget, h⟩ := bind_eq_ok_iff.mp h
  obtain ⟨requirements, -, h⟩ := bind_eq_ok_iff.mp h
  obtain ⟨effects, -, h⟩ := bind_eq_ok_iff.mp h
  obtain ⟨outcomes, -, h⟩ := bind_eq_ok_iff.mp h
  obtain ⟨ruleIds, -, h⟩ := bind_eq_ok_iff.mp h
  cases h
  exact ⟨handsDown_hasText.of_givenOr hj (hasText_str "") htext,
    handsDown_hasText.of_givenOr hj (hasText_str "") htarget⟩

theorem Section.isShown_of_ofJson (hj : j.HasText) {s : Section} (h : Section.ofJson j = .ok s) :
    s.IsShown := by
  obtain ⟨written, -, h⟩ := bind_eq_ok_iff.mp h
  obtain ⟨id, -, h⟩ := bind_eq_ok_iff.mp h
  obtain ⟨title, htitle, h⟩ := bind_eq_ok_iff.mp h
  obtain ⟨blocks, hblocks, h⟩ := bind_eq_ok_iff.mp h
  obtain ⟨choices, hchoices, h⟩ := bind_eq_ok_iff.mp h
  cases h
  refine ⟨handsDown_hasText.of_givenOr hj (hasText_str "") htitle, ?_, ?_⟩
  · intro b hb
    obtain ⟨x, hx, hread⟩ := handsDown_hasText.exists_of_mem_records hj hblocks b hb
    exact ContentBlock.hasText_of_ofJson hx hread
  · intro c hc
    obtain ⟨x, hx, hread⟩ := handsDown_hasText.exists_of_mem_records hj hchoices c hc
    exact Choice.hasText_of_ofJson hx hread

theorem Book.isShown_of_ofJson (hj : j.HasText) {b : Book} (h : Book.ofJson j = .ok b) :
    ∀ s ∈ b.sections, s.IsShown := by
  obtain ⟨id, -, h⟩ := bind_eq_ok_iff.mp h
  obtain ⟨series, -, h⟩ := bind_eq_ok_iff.mp h
  obtain ⟨title, -, h⟩ := bind_eq_ok_iff.mp h
  obtain ⟨frontPages, -, h⟩ := bind_eq_ok_iff.mp h
  obtain ⟨sections, hsections, h⟩ := bind_eq_ok_iff.mp h
  cases h
  intro s hs
  obtain ⟨x, hx, hread⟩ := handsDown_hasText.exists_of_mem_records hj hsections s hs
  exact Section.isShown_of_ofJson hx hread

/-! ## Files of books -/

/-- A book is read from the bytes of its file. -/
theorem loadBook_eq_of_read {files files' : FileTree} {p : Path} (h : files'.read p = files.read p) :
    loadBook files' p = loadBook files p := by
  unfold loadBook Document.load
  rw [h]

/-- A file that states a book of a series holds this book. -/
theorem loadBook_of_read {files : FileTree} {p : Path} {bytes : ByteArray} {series : String}
    {fs : List (String × Json)} {book : Book} (hread : files.read p = .ok bytes)
    (hbytes : readBytes bytes = .ok (.obj fs)) (hbook : Book.ofJson (.obj fs) = .ok book)
    (hseries : book.series = .str series) (hnamed : Text.isBlank series = false) :
    loadBook files p = .ok book := by
  have hdocument : Document.readObject (.badBook p.text) bytes = .ok (.obj fs) := by
    unfold Document.readObject
    rw [hbytes]
  have hload : Document.load (.badBook p.text) Book.ofJson files p = .ok book := by
    unfold Document.load
    simp only [hread, bind, Except.bind, hdocument, hbook, Document.sound]
  have htextOf : book.series.asText = .ok series := by
    rw [hseries]
    rfl
  unfold loadBook
  simp only [hload, bind, Except.bind, htextOf, hnamed]
  rfl

theorem exists_read_of_loadBook {files : FileTree} {p : Path} {book : Book}
    (h : loadBook files p = .ok book) :
    ∃ bytes fs, files.read p = .ok bytes ∧ readBytes bytes = .ok (.obj fs) ∧
      Book.ofJson (.obj fs) = .ok book ∧ ∃ series, book.series = .str series := by
  obtain ⟨read, hread, h⟩ := bind_eq_ok_iff.mp h
  obtain ⟨bytes, hbytes, hread⟩ := bind_eq_ok_iff.mp hread
  obtain ⟨document, hdocument, hread⟩ := bind_eq_ok_iff.mp hread
  obtain ⟨fs, rfl, hfs⟩ := SaveSlots.readBytes_of_readObject hdocument
  obtain ⟨series, hseries, h⟩ := bind_eq_ok_iff.mp h
  split at h
  · cases h
  · cases h
    refine ⟨bytes, fs, hbytes, hfs, SaveSlots.eq_ok_of_sound hread, series, ?_⟩
    cases hjson : book.series
    case str name =>
      rw [hjson] at hseries
      exact congrArg Json.str (Except.ok.inj hseries)
    all_goals
      rw [hjson] at hseries
      cases hseries

/-- **The sections of a book that was read from a file can be shown.** -/
theorem isShown_of_loadBook {files : FileTree} {p : Path} {book : Book}
    (h : loadBook files p = .ok book) : ∀ s ∈ book.sections, s.IsShown := by
  obtain ⟨bytes, fs, -, hfs, hbook, -⟩ := exists_read_of_loadBook h
  exact Book.isShown_of_ofJson (hasText_of_readBytes hfs) hbook

end Questbook
