import Questbook.Proofs.Advice
import Questbook.Proofs.Book.Loading

set_option autoImplicit false

/-! # Advice about books that are read

Of a book that was read from a file little is certain: its tokens, rule ids and targets may be any
values, and its sections need no ids. The advice stops at a section that has a choice but no id, and at
a choice with something that is no text where a text is due (`Section.Stops`). In all other books
exactly the warnings that are due are given (`warnings_of_loadBook`), and what a warning says of its
place can always be told, since no number in a book that was read is too long. Tokens with a numeral
that is too long are left aside.
-/

namespace Questbook

open Json Text

/-! ## Sections and books -/

/-- The warnings that are due about a section. -/
def Section.dueWarnings (catalog : Catalog) (s : Section) : List Warning :=
  s.choices.flatMap fun c => c.dueWarnings catalog s.id

/-- **The warnings that are due about a book,** section by section. -/
def Book.dueWarnings (catalog : Catalog) (book : Book) : List Warning :=
  book.sections.flatMap fun s => s.dueWarnings catalog

/-- **What stops the advice in a section:** that it has a choice but no id, or that the advice does not
get through one of its choices. -/
inductive Section.Stops (s : Section) : Fault → Prop
  | noId (blank : isBlank s.id = true) (hasChoice : s.choices ≠ []) : s.Stops (.required "section_id")
  | notText (named : isBlank s.id = false) {c : Choice} (mem : c ∈ s.choices)
      (odd : ¬ c.IsAdvisable) : s.Stops .notText

/-- Whether no token of a book has a numeral that is too long. -/
def Book.HasShortNumerals (book : Book) : Prop :=
  ∀ s ∈ book.sections, ∀ c ∈ s.choices, c.HasShortNumerals

section

variable {catalog : Catalog} {s : Section} {book : Book} {f : Fault}

theorem choiceWarnings_givenIf (hid : isBlank s.id = false)
    (hshort : ∀ c ∈ s.choices, c.HasShortNumerals) :
    GivenIf (∀ c ∈ s.choices, c.IsAdvisable) (s.dueWarnings catalog) .notText
      (choiceWarnings catalog s.id s.choices) := by
  rw [choiceWarnings_eq]
  exact GivenIf.gathered fun c hc => Choice.warnings_givenIf hid (hshort c hc)

theorem choiceWarnings_of_stops (hshort : ∀ c ∈ s.choices, c.HasShortNumerals) (h : s.Stops f) :
    choiceWarnings catalog s.id s.choices = .error f := by
  cases h with
  | noId hblank hchoice =>
      cases hchoices : s.choices with
      | nil => exact absurd hchoices hchoice
      | cons c cs =>
          have hstop : c.warnings catalog s.id = .error (.required "section_id") := if_pos hblank
          rw [choiceWarnings, hstop]
          rfl
  | notText hid hc hodd =>
      exact (choiceWarnings_givenIf hid hshort).error fun hall => hodd (hall _ hc)

theorem choiceWarnings_of_not_stops (hshort : ∀ c ∈ s.choices, c.HasShortNumerals)
    (h : ∀ f, ¬ s.Stops f) : choiceWarnings catalog s.id s.choices = .ok (s.dueWarnings catalog) := by
  cases hid : isBlank s.id with
  | true =>
      have hnone : s.choices = [] :=
        Classical.byContradiction fun hchoice => h _ (.noId hid hchoice)
      unfold Section.dueWarnings
      rw [hnone]
      rfl
  | false =>
      refine (choiceWarnings_givenIf hid hshort).ok fun c hc => ?_
      exact Classical.byContradiction fun hodd => h _ (.notText hid hc hodd)

/-- **Where no section stops the advice** it gives the warnings that are due. -/
theorem Book.warnings_of_not_stops (hshort : book.HasShortNumerals)
    (h : ∀ s ∈ book.sections, ∀ f, ¬ s.Stops f) :
    book.warnings catalog = .ok (book.dueWarnings catalog) := by
  unfold Book.warnings
  rw [sectionWarnings_eq]
  exact gathered_of_forall fun s hs => choiceWarnings_of_not_stops (hshort s hs) (h s hs)

/-- **The advice stops** at the first section that stops it. -/
theorem Book.warnings_eq_error_iff (hshort : book.HasShortNumerals) :
    book.warnings catalog = .error f ↔ ∃ before s after, book.sections = before ++ s :: after ∧
      (∀ q ∈ before, ∀ f', ¬ q.Stops f') ∧ s.Stops f := by
  -- a section either comes to its warnings or stops the advice, with one fault
  have hok : ∀ s ∈ book.sections,
      ((∃ ws, choiceWarnings catalog s.id s.choices = .ok ws) ↔ ∀ f', ¬ s.Stops f') := by
    intro s hs
    constructor
    · rintro ⟨ws, hws⟩ f' hstops
      rw [choiceWarnings_of_stops (hshort s hs) hstops] at hws
      cases hws
    · exact fun h => ⟨_, choiceWarnings_of_not_stops (hshort s hs) h⟩
  have herror : ∀ s ∈ book.sections,
      (choiceWarnings catalog s.id s.choices = .error f ↔ s.Stops f) := by
    intro s hs
    refine ⟨fun h => ?_, choiceWarnings_of_stops (hshort s hs)⟩
    by_cases hstops : ∃ f', s.Stops f'
    · obtain ⟨f', hf'⟩ := hstops
      rw [choiceWarnings_of_stops (hshort s hs) hf'] at h
      cases h
      exact hf'
    · rw [choiceWarnings_of_not_stops (hshort s hs) (not_exists.mp hstops)] at h
      cases h
  unfold Book.warnings
  rw [sectionWarnings_eq, gathered, map_eq_error_iff, mapM_eq_error_iff]
  refine exists_congr fun before => exists_congr fun s => exists_congr fun after =>
    and_congr_right fun hsplit => ?_
  have hs : s ∈ book.sections := by simp [hsplit]
  have hbefore : ∀ q ∈ before, q ∈ book.sections := fun q hq => by simp [hsplit, hq]
  exact and_congr (forall₂_congr fun q hq => hok q (hbefore q hq)) (herror s hs)

end

/-! ## What can be told of a book that was read -/

section

variable {j : Json} {name : String} {default n : Int}

theorem isWritable_of_wholeOr (hj : j.Bounded) (hdefault : IsWritable default)
    (h : j.wholeOr name default = .ok n) : IsWritable n := by
  obtain ⟨v, hv, hn⟩ := bind_eq_ok_iff.mp h
  exact (handsDown_bounded.of_fieldOr hj (.int hdefault) hv).natAbs_lt_of_toWhole hn

/-- The bounds of an outcome that was read can be written. -/
theorem RandomOutcome.isWritable_of_ofJson (hj : j.Bounded) {o : RandomOutcome}
    (h : RandomOutcome.ofJson j = .ok o) : IsWritable o.min ∧ IsWritable o.max := by
  obtain ⟨min, hmin, h⟩ := bind_eq_ok_iff.mp h
  obtain ⟨max, hmax, h⟩ := bind_eq_ok_iff.mp h
  obtain ⟨target, -, h⟩ := bind_eq_ok_iff.mp h
  obtain ⟨effects, -, h⟩ := bind_eq_ok_iff.mp h
  cases h
  exact ⟨isWritable_of_wholeOr hj (isWritable_of_lt_ten (by decide)) hmin,
    isWritable_of_wholeOr hj (isWritable_of_lt_ten (by decide)) hmax⟩

/-- Whether the places in a choice that warnings are about can be told. -/
structure Choice.IsTold (c : Choice) : Prop where
  target : c.target.HasText
  bounds : ∀ o ∈ c.outcomes, IsWritable o.min ∧ IsWritable o.max

theorem Choice.isTold_of_ofJson (hj : j.Bounded) {c : Choice} (h : Choice.ofJson j = .ok c) :
    c.IsTold := by
  have htarget := (Choice.hasText_of_ofJson hj.hasText h).2
  obtain ⟨text, -, h⟩ := bind_eq_ok_iff.mp h
  obtain ⟨target, -, h⟩ := bind_eq_ok_iff.mp h
  obtain ⟨requirements, -, h⟩ := bind_eq_ok_iff.mp h
  obtain ⟨effects, -, h⟩ := bind_eq_ok_iff.mp h
  obtain ⟨outcomes, houtcomes, h⟩ := bind_eq_ok_iff.mp h
  obtain ⟨ruleIds, -, h⟩ := bind_eq_ok_iff.mp h
  cases h
  refine ⟨htarget, fun o ho => ?_⟩
  obtain ⟨x, hx, hread⟩ := handsDown_bounded.exists_of_mem_records hj houtcomes o ho
  exact RandomOutcome.isWritable_of_ofJson hx hread

theorem Section.isTold_of_ofJson (hj : j.Bounded) {s : Section} (h : Section.ofJson j = .ok s) :
    ∀ c ∈ s.choices, c.IsTold := by
  obtain ⟨written, -, h⟩ := bind_eq_ok_iff.mp h
  obtain ⟨id, -, h⟩ := bind_eq_ok_iff.mp h
  obtain ⟨title, -, h⟩ := bind_eq_ok_iff.mp h
  obtain ⟨blocks, -, h⟩ := bind_eq_ok_iff.mp h
  obtain ⟨choices, hchoices, h⟩ := bind_eq_ok_iff.mp h
  cases h
  intro c hc
  obtain ⟨x, hx, hread⟩ := handsDown_bounded.exists_of_mem_records hj hchoices c hc
  exact Choice.isTold_of_ofJson hx hread

/-- **The places in a book that was read can be told,** and so can its id. -/
theorem Book.isTold_of_ofJson (hj : j.Bounded) {b : Book} (h : Book.ofJson j = .ok b) :
    b.id.HasText ∧ ∀ s ∈ b.sections, ∀ c ∈ s.choices, c.IsTold := by
  obtain ⟨id, hid, h⟩ := bind_eq_ok_iff.mp h
  obtain ⟨series, -, h⟩ := bind_eq_ok_iff.mp h
  obtain ⟨title, -, h⟩ := bind_eq_ok_iff.mp h
  obtain ⟨frontPages, -, h⟩ := bind_eq_ok_iff.mp h
  obtain ⟨sections, hsections, h⟩ := bind_eq_ok_iff.mp h
  cases h
  refine ⟨(handsDown_bounded.of_givenOr hj (.str "") hid).hasText, fun s hs => ?_⟩
  obtain ⟨x, hx, hread⟩ := handsDown_bounded.exists_of_mem_records hj hsections s hs
  exact Section.isTold_of_ofJson hx hread

end

/-! ## Books from files -/

/-- **The advice about a book that was read from a file** gives the warnings that are due, unless a
section stops it; then it stops at the first such section. In either case the id of the book and all
the places that a warning can be about can be told, and so can the warnings. -/
theorem warnings_of_loadBook {files : FileTree} {p : Path} {book : Book}
    (h : loadBook files p = .ok book) (hshort : book.HasShortNumerals) (catalog : Catalog) :
    ((∀ s ∈ book.sections, ∀ f, ¬ s.Stops f) →
      book.warnings catalog = .ok (book.dueWarnings catalog)) ∧
    (∀ f, book.warnings catalog = .error f ↔ ∃ before s after,
      book.sections = before ++ s :: after ∧ (∀ q ∈ before, ∀ f', ¬ q.Stops f') ∧ s.Stops f) ∧
    (∃ t, book.id.text = .ok t) ∧
    (∀ s ∈ book.sections, ∀ c ∈ s.choices,
      (∃ t, (FlawPlace.choice s.id c.target).text = .ok t) ∧
      ∀ o ∈ c.outcomes,
        ∃ t, (FlawPlace.outcome s.id c.target o.min o.max o.redirect?).text = .ok t) ∧
    ∃ texts, (book.dueWarnings catalog).mapM Warning.text = .ok texts := by
  obtain ⟨bytes, fs, -, hfs, hbook, -⟩ := exists_read_of_loadBook h
  obtain ⟨hid, htold⟩ := Book.isTold_of_ofJson (bounded_of_readBytes hfs) hbook
  refine ⟨Book.warnings_of_not_stops hshort, fun f => Book.warnings_eq_error_iff hshort, hid.text,
    fun s hs c hc => ?_, exists_mapM fun w hw => ?_⟩
  · have hc := htold s hs c hc
    exact ⟨FlawPlace.exists_text_choice hc.target, fun o ho =>
      FlawPlace.exists_text_outcome hc.target (hc.bounds o ho)⟩
  · obtain ⟨s, hs, hw⟩ := List.mem_flatMap.mp hw
    obtain ⟨c, hc, hw⟩ := List.mem_flatMap.mp hw
    have hc := htold s hs c hc
    exact Choice.exists_text_of_mem_dueWarnings hc.target hc.bounds w hw

/-! ## A book with flaws, and books that stop the advice -/

/-- The text of a book of one section. -/
def sectionAlone (text : String) : ByteArray :=
  ("\x7b\"seriesId\":\"lw\",\"sections\":[" ++ text ++ "]\x7d").toUTF8

/-- The document that this text states. -/
def withSection (j : Json) : Json :=
  .obj [("seriesId", .str "lw"), ("sections", .arr [j])]

theorem loadBook_sectionAlone {text : String} {j : Json} {s : Section}
    (hbytes : readBytes (sectionAlone text) = .ok (withSection j))
    (hsection : Section.ofJson j = .ok s) :
    loadBook (bookAlone (sectionAlone text)) { parts := ["b.json"] } =
      .ok { series := .str "lw", sections := [s] } := by
  have hsections : Json.records Section.ofJson (withSection j) "sections" = .ok [s] := by
    change [j].mapM Section.ofJson = _
    rw [List.mapM_cons, hsection]
    rfl
  have hbook : Book.ofJson (withSection j) = .ok { series := .str "lw", sections := [s] } := by
    unfold Book.ofJson
    rw [hsections]
    rfl
  exact loadBook_of_read (read_bookAlone _) hbytes hbook rfl (by decide)

/-- The text of a section with a choice that states a field. -/
def choiceAlone (field : String) : String :=
  "\x7b\"id\":\"1\",\"choices\":[\x7b" ++ field ++ "\x7d]\x7d"

/-- The section that this text states. -/
def withChoice (field : String × Json) : Json :=
  .obj [("id", .str "1"), ("choices", .arr [.obj [field]])]

/-- A section with a requirement that is null and one that is flawed, an unknown rule, and an outcome
with its bound in a text and a flawed effect. -/
def flawedSection : String :=
  choiceAlone ("\"requirements\":[null,\"combat:x\"],\"ruleIds\":[\"rest\"]," ++
    "\"randomOutcomes\":[\x7b\"max\":\" 12 \",\"effects\":[\"item:add\"]\x7d]")

/-- The choice of this section. -/
def flawedChoice : Choice where
  requirements := [.null, .str "combat:x"]
  ruleIds := [.str "rest"]
  outcomes := [{ max := 12, effects := [.str "item:add"] }]

/-- The book of this section. -/
def flawedBook : Book where
  series := .str "lw"
  sections := [{ id := "1", choices := [flawedChoice] }]

theorem flawedChoice_hasShortNumerals : flawedChoice.HasShortNumerals where
  requirements := List.forall_mem_singleton.mpr
    ((Condition.reads_parse _).not_long_iff.mpr (by decide +kernel))
  effects := nofun
  outcomes := List.forall_mem_singleton.mpr (List.forall_mem_singleton.mpr
    ((Change.reads_parse _).not_long_iff.mpr (by decide +kernel)))

theorem flawedChoice_isAdvisable : flawedChoice.IsAdvisable where
  ruleIds := List.forall_mem_singleton.mpr (Or.inr ⟨_, rfl⟩)
  requirements := List.forall_mem_cons.mpr
    ⟨Or.inl rfl, List.forall_mem_singleton.mpr (Or.inr ⟨_, rfl⟩)⟩
  effects := nofun
  outcomes := List.forall_mem_singleton.mpr
    ⟨Or.inl rfl, List.forall_mem_singleton.mpr (Or.inr ⟨_, rfl⟩)⟩

/-- **A book with flaws** is read from its file, and three warnings are given. -/
theorem warnings_of_loadBook_flawed :
    loadBook (bookAlone (sectionAlone flawedSection)) { parts := ["b.json"] } = .ok flawedBook ∧
      flawedBook.HasShortNumerals ∧ (∀ s ∈ flawedBook.sections, ∀ f, ¬ s.Stops f) ∧
      ∃ ws, flawedBook.warnings {} = .ok ws ∧ ws.map (·.flaw) = [.missingRule "rest",
        .badRequirement "combat" "combat:x", .badEffect "item" "item:add"] := by
  have hbytes : readBytes (sectionAlone flawedSection) = .ok (withSection (.obj [("id", .str "1"),
      ("choices", .arr [.obj [("requirements", .arr [.null, .str "combat:x"]),
        ("ruleIds", .arr [.str "rest"]), ("randomOutcomes", .arr [.obj [("max", .str " 12 "),
          ("effects", .arr [.str "item:add"])]])]])])) :=
    eq_ok_of_isSame (by decide +kernel)
  have hload : loadBook (bookAlone (sectionAlone flawedSection)) { parts := ["b.json"] } =
      .ok flawedBook :=
    loadBook_sectionAlone hbytes rfl
  have hshort : flawedBook.HasShortNumerals :=
    List.forall_mem_singleton.mpr (List.forall_mem_singleton.mpr flawedChoice_hasShortNumerals)
  have hgoes : ∀ s ∈ flawedBook.sections, ∀ f, ¬ s.Stops f := by
    refine List.forall_mem_singleton.mpr fun f hstops => ?_
    cases hstops with
    | noId hblank _ => exact absurd hblank (by decide)
    | notText _ hc hodd =>
        obtain rfl := List.mem_singleton.mp hc
        exact hodd flawedChoice_isAdvisable
  exact ⟨hload, hshort, hgoes, _, (warnings_of_loadBook hload hshort {}).1 hgoes, by decide +kernel⟩

/-- **Books that are read but stop the advice:** with a choice in a section without an id, and with a
number where a requirement, a rule id or a target should be. -/
theorem warnings_stop_in_loaded_books :
    (∃ book, loadBook (bookAlone (sectionAlone "\x7b\"choices\":[\x7b\x7d]\x7d"))
        { parts := ["b.json"] } = .ok book ∧
      book.warnings {} = .error (.required "section_id")) ∧
    (∃ book, loadBook (bookAlone (sectionAlone (choiceAlone "\"requirements\":[5]")))
        { parts := ["b.json"] } = .ok book ∧
      book.warnings {} = .error .notText) ∧
    (∃ book, loadBook (bookAlone (sectionAlone (choiceAlone "\"ruleIds\":[5]")))
        { parts := ["b.json"] } = .ok book ∧
      book.warnings {} = .error .notText) ∧
    ∃ book, loadBook (bookAlone (sectionAlone
        (choiceAlone "\"randomOutcomes\":[\x7b\"targetId\":5\x7d]"))) { parts := ["b.json"] } =
          .ok book ∧
      book.warnings {} = .error .notText := by
  refine ⟨⟨_, loadBook_sectionAlone (j := .obj [("choices", .arr [.obj []])])
      (eq_ok_of_isSame (by decide +kernel)) rfl, rfl⟩,
    ⟨_, loadBook_sectionAlone (j := withChoice ("requirements", .arr [.int 5]))
      (eq_ok_of_isSame (by decide +kernel)) rfl, rfl⟩,
    ⟨_, loadBook_sectionAlone (j := withChoice ("ruleIds", .arr [.int 5]))
      (eq_ok_of_isSame (by decide +kernel)) rfl, rfl⟩,
    _, loadBook_sectionAlone (j := withChoice ("randomOutcomes", .arr [.obj [("targetId", .int 5)]]))
      (eq_ok_of_isSame (by decide +kernel)) rfl, rfl⟩

end Questbook
