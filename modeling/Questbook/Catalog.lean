import Questbook.Book.Basic
import Questbook.Text.CaseFold
import Questbook.Token.Reader

set_option autoImplicit false

/-! # Rule catalogs

A **rule** is a bundle of requirement and effect tokens under an id; choices name rules by their
ids. A catalog holds the rules of a series. Ids are compared without regard to case and to blanks
around them; rules with a blank id are left out, and of several rules with the same id the first
is kept.

A choice is governed by its own tokens, followed by those of the rules that it names
(`Catalog.tokensFor`), all of them parsed (`Catalog.rulesFor`).
-/

namespace Questbook

/-- **A named bundle of tokens.** -/
structure Rule where
  id : String
  requirements : List Json := []
  effects : List Json := []

instance : Inhabited Rule := ⟨{ id := "" }⟩

/-- The form in which ids of rules are compared. -/
def ruleKey (id : String) : String := Text.fold (Text.trim id)

/-- **The rules of a series.** -/
structure Catalog where
  rules : List Rule := []

instance : Inhabited Catalog := ⟨{}⟩

namespace Catalog

/-- The rule of an id. A blank id has none. -/
def find? (c : Catalog) (id : String) : Option Rule :=
  if Text.isBlank id then none else c.rules.find? fun r => ruleKey r.id = ruleKey id

/-- Whether there is a rule of an id. -/
def contains (c : Catalog) (id : String) : Bool :=
  !Text.isBlank id && c.rules.any fun r => ruleKey r.id = ruleKey id

/-- An id is in a catalog exactly if it has a rule there. -/
theorem contains_eq_isSome (c : Catalog) (id : String) : c.contains id = (c.find? id).isSome := by
  unfold contains find?
  cases Text.isBlank id with
  | true => rfl
  | false =>
      simp only [Bool.not_false, Bool.true_and, Bool.false_eq_true, if_false]
      rw [Bool.eq_iff_iff, List.find?_isSome, List.any_eq_true]

/-- The catalog with a further rule, unless its id is blank or taken. -/
def add (c : Catalog) (r : Rule) : Catalog :=
  -- the first rule of an id stays
  if Text.isBlank r.id || c.contains r.id then c else { rules := c.rules ++ [r] }

/-- The catalog of a list of rules. -/
def ofRules (rules : List Rule) : Catalog :=
  rules.foldl add {}

/-- The rule of an id of a document. Null is no id; an id that is no text is a fault. -/
def findJson? (c : Catalog) : Json → Except Fault (Option Rule)
  | .null => .ok none
  | j => do pure (c.find? (← j.asText))

/-- The rules of the ids of a document, in their order. Unknown ids are skipped. -/
def resolve (c : Catalog) : List Json → Except Fault (List Rule)
  | [] => .ok []
  | id :: ids => do
    match ← c.findJson? id with
    | some r => pure (r :: (← c.resolve ids))
    | none => c.resolve ids

end Catalog

/-! ## Reading and writing -/

/-- The rule that a document states. -/
def Rule.ofJson (j : Json) : Except Fault Rule := do
  let id ← (← j.givenOr "id" (.str "")).text
  let requirements ← j.listed "requirements"
  let effects ← j.listed "effects"
  pure { id, requirements, effects }

def Rule.toJson (r : Rule) : Json :=
  .obj [("id", .str r.id), ("requirements", .arr r.requirements), ("effects", .arr r.effects)]

/-- The rules that the objects of a list state; other items are skipped. -/
def Catalog.readRules : List Json → Except Fault (List Rule)
  | [] => .ok []
  | .obj fs :: js => do
    let r ← Rule.ofJson (.obj fs)
    pure (r :: (← readRules js))
  | _ :: js => readRules js

/-- The catalog that a document states; nothing states the empty one. -/
def Catalog.ofJson (j : Json) : Except Fault Catalog :=
  if j.isGiven then do pure (ofRules (← readRules (← j.listed "rules"))) else .ok {}

def Catalog.toJson (c : Catalog) : Json :=
  .obj [("rules", .arr (c.rules.map Rule.toJson))]

/-! ## The rules of a choice -/

/-- The requirements and effects that govern a choice. -/
structure RuleSet where
  requirements : List Requirement := []
  effects : List Effect := []
  deriving DecidableEq, Repr

/-- The requirement and the effect tokens that govern a choice: its own, and those of the rules it
names. -/
def Catalog.tokensFor (c : Catalog) (choice : Choice) :
    Except Fault (List Json × List Json) := do
  let rules ← c.resolve choice.ruleIds
  pure (choice.requirements ++ rules.flatMap Rule.requirements,
    choice.effects ++ rules.flatMap Rule.effects)

/-- **The requirements and effects that govern a choice.** -/
def Catalog.rulesFor (c : Catalog) (choice : Choice) : Except Fault RuleSet := do
  let (requirements, effects) ← c.tokensFor choice
  pure {
    requirements := ← requirements.mapM Requirement.ofJson
    effects := ← effects.mapM Effect.ofJson }

/-- Whether a choice is governed by no tokens at all. -/
def RuleSet.isEmpty (s : RuleSet) : Bool :=
  s.requirements.isEmpty && s.effects.isEmpty

end Questbook
