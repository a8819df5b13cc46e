import Questbook.Json.Fields
import Questbook.Text.Blank

set_option autoImplicit false

/-! # Books

A book is a list of numbered sections. A section has text to show and choices, each of which leads
to another section; a choice may carry conditions and effects as tokens, name rules of the series,
and declare outcomes of a roll that redirect it.

Books are read from documents leniently and are not checked: the texts, tokens and ids of a loaded
book may be any JSON value, and what uses them has to cope. Only the ids of sections, the bounds of
outcomes and the shape of lists are certain. Reading back what was written gives the same book
again.
-/

namespace Questbook

/-! ## The parts of a book -/

/-- A block of text to show. -/
structure ContentBlock where
  kind : Json := .str ""
  text : Json := .str ""

/-- A page before the first section. -/
structure FrontPage where
  id : Json := .str ""
  title : Json := .str ""
  text : Json := .str ""

/-- **An outcome of a roll.** It applies to the rolls from `min` to `max`; a blank target leaves the
choice its own one. -/
structure RandomOutcome where
  min : Int := 0
  max : Int := 9
  target : Json := .str ""
  effects : List Json := []

/-- **A choice** of the player. -/
structure Choice where
  text : Json := .str ""
  target : Json := .str ""
  requirements : List Json := []
  effects : List Json := []
  outcomes : List RandomOutcome := []
  ruleIds : List Json := []

/-- A numbered section. -/
structure Section where
  id : String := ""
  title : Json := .str ""
  blocks : List ContentBlock := []
  choices : List Choice := []

/-- **A book.** -/
structure Book where
  id : Json := .str ""
  series : Json := .str ""
  title : Json := .str ""
  frontPages : List FrontPage := []
  sections : List Section := []

instance : Inhabited RandomOutcome := ⟨{}⟩

instance : Inhabited Choice := ⟨{}⟩

instance : Inhabited Section := ⟨{}⟩

instance : Inhabited Book := ⟨{}⟩

/-! ## Reading -/

/-- The text of a block or a page: under `text`, or else under `html`. -/
def blockText (j : Json) : Except Fault Json := do
  match ← j.fieldOr "text" .null with
  | .null => j.fieldOr "html" (.str "")
  | v => pure v

/-- The block that a document states. -/
def ContentBlock.ofJson (j : Json) : Except Fault ContentBlock := do
  let text ← blockText j
  let kind ← j.fieldOr "kind" (.str "")
  pure { kind, text }

/-- The page that a document states. -/
def FrontPage.ofJson (j : Json) : Except Fault FrontPage := do
  let text ← blockText j
  let id ← j.fieldOr "id" (.str "")
  let title ← j.fieldOr "title" (.str "")
  pure { id, title, text }

/-- The outcome that a document states. -/
def RandomOutcome.ofJson (j : Json) : Except Fault RandomOutcome := do
  let min ← j.wholeOr "min" 0
  let max ← j.wholeOr "max" 9
  let target ← j.givenOr "targetId" (.str "")
  let effects ← j.listed "effects"
  pure { min, max, target, effects }

/-- The choice that a document states. -/
def Choice.ofJson (j : Json) : Except Fault Choice := do
  let text ← j.givenOr "text" (.str "")
  let target ← j.givenOr "targetId" (.str "")
  let requirements ← j.listed "requirements"
  let effects ← j.listed "effects"
  let outcomes ← Json.records RandomOutcome.ofJson j "randomOutcomes"
  let ruleIds ← j.listed "ruleIds"
  pure { text, target, requirements, effects, outcomes, ruleIds }

/-- The section that a document states. -/
def Section.ofJson (j : Json) : Except Fault Section := do
  let id ← (← j.fieldOr "id" (.str "")).text
  let title ← j.givenOr "title" (.str "")
  let blocks ← Json.records ContentBlock.ofJson j "blocks"
  let choices ← Json.records Choice.ofJson j "choices"
  pure { id, title, blocks, choices }

/-- The book that a document states. -/
def Book.ofJson (j : Json) : Except Fault Book := do
  let id ← j.givenOr "id" (.str "")
  let series ← j.givenOr "seriesId" (.str "")
  let title ← j.givenOr "title" (.str "")
  let frontPages ← Json.records FrontPage.ofJson j "frontMatter"
  let sections ← Json.records Section.ofJson j "sections"
  pure { id, series, title, frontPages, sections }

/-! ## Writing -/

def ContentBlock.toJson (b : ContentBlock) : Json :=
  .obj [("kind", b.kind), ("text", b.text)]

def FrontPage.toJson (p : FrontPage) : Json :=
  .obj [("id", p.id), ("title", p.title), ("text", p.text)]

def RandomOutcome.toJson (o : RandomOutcome) : Json :=
  .obj [("min", .int o.min), ("max", .int o.max), ("targetId", o.target),
    ("effects", .arr o.effects)]

def Choice.toJson (c : Choice) : Json :=
  .obj [("text", c.text), ("targetId", c.target), ("requirements", .arr c.requirements),
    ("effects", .arr c.effects), ("randomOutcomes", .arr (c.outcomes.map RandomOutcome.toJson)),
    ("ruleIds", .arr c.ruleIds)]

def Section.toJson (s : Section) : Json :=
  .obj [("id", .str s.id), ("title", s.title), ("blocks", .arr (s.blocks.map ContentBlock.toJson)),
    ("choices", .arr (s.choices.map Choice.toJson))]

def Book.toJson (b : Book) : Json :=
  .obj [("id", b.id), ("seriesId", b.series), ("title", b.title),
    ("frontMatter", .arr (b.frontPages.map FrontPage.toJson)),
    ("sections", .arr (b.sections.map Section.toJson))]

/-! ## Questions -/

/-- Whether a value is a text that is not blank. Values that do not count as given are not; other
values that are no text are a fault. -/
def hasText (j : Json) : Except Fault Bool :=
  if j.isGiven then do
    let s ← j.asText
    pure !(Text.isBlank s)
  else .ok false

/-- Whether the outcome redirects the choice. -/
def RandomOutcome.hasTarget (o : RandomOutcome) : Except Fault Bool :=
  hasText o.target

/-- Whether a whole number lies in the outcome's range. -/
def RandomOutcome.holds (o : RandomOutcome) (roll : Int) : Bool :=
  o.min ≤ roll && roll ≤ o.max

/-- Whether a number lies between two whole numbers; other values do not compare. -/
def isBetween (j : Json) (low high : Int) : Except Fault Bool :=
  match j.number? with
  | some x => .ok ((Number.whole low).le x && x.le (.whole high))
  | none => .error .notComparable

/-- Whether a roll lies in the outcome's range. -/
def RandomOutcome.contains (o : RandomOutcome) (roll : Json) : Except Fault Bool :=
  isBetween roll o.min o.max

/-- Whether two outcomes have the same range, target and effects. -/
def RandomOutcome.same (a b : RandomOutcome) : Bool :=
  a.min = b.min && a.max = b.max && Json.same a.target b.target &&
    Json.sameItems a.effects b.effects

/-- The first section whose id is the given text. -/
def Book.findSection? (b : Book) (id : String) : Option Section :=
  b.sections.find? fun s => s.id = id

/-- The first section whose id is the given value; only texts are ids. -/
def Book.sectionAt? (b : Book) : Json → Option Section
  | .str id => b.findSection? id
  | _ => none

/-- The id of the first section, or the empty text for a book without sections. -/
def Book.firstSectionId (b : Book) : String :=
  match b.sections with
  | [] => ""
  | s :: _ => s.id

@[simp] theorem RandomOutcome.contains_int (o : RandomOutcome) (roll : Int) :
    o.contains (.int roll) = .ok (o.holds roll) := by
  simp [RandomOutcome.contains, RandomOutcome.holds, isBetween, Json.number?]

end Questbook
