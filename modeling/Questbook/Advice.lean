import Questbook.Catalog

set_option autoImplicit false

/-! # Advice to authors

Tokens that state nothing known and ids of rules that do not exist are no errors when a book is
played: the requirement never holds, the effect changes nothing, the rule adds nothing. To an author
they are most likely mistakes. The functions here list them as **warnings**, in the order of the
book or the catalog.

A token is warned about when its key is known but its value does not parse. A token with an unknown
key is left alone, since books may carry annotations of their own.
-/

namespace Questbook

/-- What an author should look at. -/
inductive Flaw
  /-- A rule is named that the catalog does not have. -/
  | missingRule (id : String)
  /-- A requirement token with a known key, and the key as it is written. -/
  | badRequirement (key raw : String)
  /-- An effect token with a known key, and the key as it is written. -/
  | badEffect (key raw : String)
  deriving DecidableEq, Repr

/-- Where it is. -/
inductive FlawPlace
  | choice (sectionId : String) (target : Json)
  | outcome (sectionId : String) (target : Json) (min max : Int) (redirect : Option Json)
  | rule (id : String)

/-- **A warning.** -/
structure Warning where
  place : FlawPlace
  flaw : Flaw

/-! ## Texts -/

/-- The text of a place. -/
def FlawPlace.text : FlawPlace → Except Fault String
  | choice sectionId target => do
    pure ("Choice " ++ sectionId ++ " -> " ++ (← target.text))
  | outcome sectionId target min max redirect => do
    let label := "Choice " ++ sectionId ++ " -> " ++ (← target.text) ++ " random outcome " ++
      (← Numeral.decimalText min) ++ "-" ++ (← Numeral.decimalText max)
    match redirect with
    | none => pure label
    | some r => pure (label ++ " -> " ++ (← r.text))
  | rule id => .ok ("Rule '" ++ id ++ "'")

/-- The text of a flaw. -/
def Flaw.text : Flaw → String
  | missingRule id => "references missing rule id '" ++ id ++ "'."
  | badRequirement key raw => "has invalid " ++ key ++ " requirement token '" ++ raw ++ "'."
  | badEffect key raw => "has invalid " ++ key ++ " effect token '" ++ raw ++ "'."

/-- **The text of a warning.** -/
def Warning.text (w : Warning) : Except Fault String := do
  pure ((← w.place.text) ++ " " ++ w.flaw.text)

/-! ## Finding flaws -/

/-- The key of a token as it is written, if it is one of a table of keys. -/
def knownKey? {κ : Type} (keys : List (String × κ)) (raw : String) : Option String :=
  match cutToken raw.toList with
  | none => none
  | some (key, _) => (kindOf? keys key).map fun _ => String.ofList key

/-- What is wrong with a requirement token. -/
def requirementFlaw (raw : String) : Except Fault (Option Flaw) :=
  match knownKey? Condition.keys raw with
  | none => .ok none
  | some key => do
    let r ← Requirement.parse raw
    pure (if r.condition = .unsupported then some (.badRequirement key raw) else none)

/-- What is wrong with an effect token. -/
def effectFlaw (raw : String) : Except Fault (Option Flaw) :=
  match knownKey? Change.keys raw with
  | none => .ok none
  | some key => do
    let e ← Effect.parse raw
    pure (if e.change = .unsupported then some (.badEffect key raw) else none)

/-- What is wrong with a rule id: that it is not blank and unknown. -/
def ruleIdFlaw (catalog : Catalog) (id : String) : Option Flaw :=
  if Text.isBlank id || catalog.contains id then none else some (.missingRule (Text.trim id))

/-- The flaws that a test finds in the texts of a document. Null is no text and has none. -/
def flawsOf (test : String → Except Fault (Option Flaw)) : List Json → Except Fault (List Flaw)
  | [] => .ok []
  | .null :: js => flawsOf test js
  | j :: js => do
    let flaw ← test (← j.asText)
    let rest ← flawsOf test js
    pure (flaw.toList ++ rest)

/-- Warnings about flaws at one place. -/
def warningsAt (place : FlawPlace) (flaws : List Flaw) : List Warning :=
  flaws.map fun flaw => { place, flaw }

/-! ## Choices, books and catalogs -/

/-- The warnings about an outcome of a choice. -/
def RandomOutcome.warnings (sectionId : String) (target : Json) (o : RandomOutcome) :
    Except Fault (List Warning) := do
  -- the target is looked at even if there is nothing to warn about
  let redirects ← o.hasTarget
  let place :=
    .outcome sectionId target o.min o.max (if redirects then some o.target else none)
  pure (warningsAt place (← flawsOf effectFlaw o.effects))

/-- The warnings about the outcomes of a choice. -/
def outcomeWarnings (sectionId : String) (target : Json) :
    List RandomOutcome → Except Fault (List Warning)
  | [] => .ok []
  | o :: os => do
    let here ← o.warnings sectionId target
    let rest ← outcomeWarnings sectionId target os
    pure (here ++ rest)

/-- **The warnings about a choice** of a section, whose id must not be blank: first about rule ids,
then about requirements, effects, and the effects of outcomes. -/
def Choice.warnings (catalog : Catalog) (sectionId : String) (choice : Choice) :
    Except Fault (List Warning) :=
  if Text.isBlank sectionId then .error (.required "section_id")
  else do
    let place := .choice sectionId choice.target
    let ids ← flawsOf (fun id => .ok (ruleIdFlaw catalog id)) choice.ruleIds
    let requirements ← flawsOf requirementFlaw choice.requirements
    let effects ← flawsOf effectFlaw choice.effects
    let outcomes ← outcomeWarnings sectionId choice.target choice.outcomes
    pure (warningsAt place (ids ++ requirements ++ effects) ++ outcomes)

/-- The warnings about the choices of a section. -/
def choiceWarnings (catalog : Catalog) (sectionId : String) :
    List Choice → Except Fault (List Warning)
  | [] => .ok []
  | c :: cs => do
    let here ← c.warnings catalog sectionId
    let rest ← choiceWarnings catalog sectionId cs
    pure (here ++ rest)

/-- The warnings about sections. -/
def sectionWarnings (catalog : Catalog) : List Section → Except Fault (List Warning)
  | [] => .ok []
  | s :: ss => do
    let here ← choiceWarnings catalog s.id s.choices
    let rest ← sectionWarnings catalog ss
    pure (here ++ rest)

/-- **The warnings about a book.** -/
def Book.warnings (catalog : Catalog) (book : Book) : Except Fault (List Warning) :=
  sectionWarnings catalog book.sections

/-- The warnings about a rule. -/
def Rule.warnings (r : Rule) : Except Fault (List Warning) := do
  let requirements ← flawsOf requirementFlaw r.requirements
  let effects ← flawsOf effectFlaw r.effects
  pure (warningsAt (.rule r.id) (requirements ++ effects))

/-- The warnings about rules. -/
def ruleWarnings : List Rule → Except Fault (List Warning)
  | [] => .ok []
  | r :: rs => do
    let here ← r.warnings
    let rest ← ruleWarnings rs
    pure (here ++ rest)

/-- **The warnings about a catalog.** -/
def Catalog.warnings (catalog : Catalog) : Except Fault (List Warning) :=
  ruleWarnings catalog.rules

end Questbook
