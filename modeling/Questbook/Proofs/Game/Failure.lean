import Questbook.Proofs.Game.Flow
import Questbook.Proofs.Token.Effects

set_option autoImplicit false

/-! # What a choice that fails leaves behind

Effects are applied one after the other and nothing is taken back, so that a fault in the middle
leaves a state that is neither the old nor the new one. A loaded game can bring this about, since the
values of its maps are not checked (`applyChoice_error_changes_state`).

The damage is bounded: only the character differs, and it is what the effects before the failing one
have made of it. With texts for names and whole numbers for values there is no such fault, and a
choice that fails changes nothing (`applyChoice_error`).
-/

namespace Questbook

/-! ## A counter that is no number -/

/-- A document of a game with a text under a counter. -/
def unpayableDocument : Json :=
  .obj [("bookId", .str "b"), ("seriesId", .str "lw"), ("sectionId", .str "1"),
    ("character", .obj [("characterId", .str "c"), ("endurance", .int 5),
      ("inventory", .obj [("counters", .obj [("Gold", .str "many")])])])]

/-- A session that goes on with the game of the document. -/
def unpayable : Session where
  game := {
    files := {}
    shelf := {
      directory := {}
      known := [("b", { sections := [{ id := "1" }, { id := "2" }] })] }
    slots := { directory := {} }
    engine := { source := .cycling [], catalogs := { values := [("lw", {})] } }
    newId := "c" }
  state := {
    bookId := .str "b"
    series := .str "lw"
    sectionId := .str "1"
    character := {
      id := .str "c", endurance := 5
      inventory := { counters := .ofEntries [("Gold", .str "many")] } } }

/-- A choice that wounds the character and pays with the counter. -/
def paidPassage : Choice where
  target := .str "2"
  effects := [.str "endurance:damage:2", .str "counter:Gold:+1"]

/-- The session in which the character has been wounded. -/
def wounded : Session :=
  { unpayable with state := { unpayable.state with
    character := { unpayable.state.character with endurance := 3 } } }

/-- The wound stays although the payment fails. -/
theorem applyChoice_error_changes_state :
    ¬ ∀ (document : Json) (newId : String) (s t : Session) (choice : Choice) (given : Json)
        (picked : Option RandomOutcome) (f : Fault),
      GameState.ofJson newId document = .ok s.state →
      (Session.applyChoice choice given picked).result s = (.error f, t) →
      Json.same t.state.toJson s.state.toJson = true := by
  intro hsame
  have hloaded : GameState.ofJson "c" unpayableDocument = .ok unpayable.state := rfl
  have hfails : (Session.applyChoice paidPassage .null none).result unpayable =
      (.error .notSummable, wounded) := rfl
  have hdiffers : Json.same wounded.state.toJson unpayable.state.toJson = false := by
    decide +kernel
  rw [hsame unpayableDocument "c" unpayable wounded paidPassage .null none _ hloaded hfails]
    at hdiffers
  cases hdiffers

/-! ## What is left -/

/-- **Where a choice breaks off:** the effects before the failing one have been applied, and nothing
else has been done. -/
def Session.BreaksOff (s t : Session) (f : Fault) (effects : List Effect) : Prop :=
  ∃ before e after c, effects = before ++ e :: after ∧
    before.foldlM (fun c e => e.change.apply c) s.context = .ok c ∧ e.change.apply c = .error f ∧
    t.state = c.state

/-- **A choice that fails** has changed nothing, or has broken off at one of its effects. Then only
the character differs, and it is still the same one. With the right types no effect fails, and nothing
differs. -/
theorem applyChoice_error {s t : Session} {choice : Choice} {given : Json}
    {picked : Option RandomOutcome} {f : Fault}
    (h : (Session.applyChoice choice given picked).result s = (.error f, t)) :
    (t.state = s.state ∨
      ∃ rules roll outcome target effects book,
        s.Leads choice given picked rules roll outcome target effects book ∧
        s.BreaksOff t f effects) ∧
    t.state = { s.state with character := t.state.character } ∧
    s.state.character.SameBearer t.state.character ∧
    (s.state.character.WellTyped →
      (∀ effects, ∃ c, applyAll s.context effects = (c, none)) ∧ t.state = s.state) := by
  have happlies : s.state.character.WellTyped →
      ∀ effects, ∃ c, applyAll s.context effects = (c, none) := by
    intro htyped effects
    have hcontext : s.context.character.WellTyped := htyped
    obtain ⟨c, hc, -⟩ := applyAll_wellTyped hcontext effects
    exact ⟨c, hc⟩
  cases Session.takes_of_applyChoice h with
  | stops keeps =>
      rw [keeps.state]
      exact ⟨Or.inl rfl, rfl, .refl _, fun htyped => ⟨happlies htyped, rfl⟩⟩
  | @breaks rules roll outcome target effects book _ c _ _ leads present applies state keeps =>
      have hsame : s.context.SameGame c := by
        have hall := sameGame_applyAll s.context effects
        rwa [applies] at hall
      rw [state]
      refine ⟨Or.inr ?_, hsame.state, hsame.bearer, ?_⟩
      · obtain ⟨before, e, after, heffects, hbefore, hfails⟩ := exists_of_applyAll_eq_some applies
        exact ⟨rules, roll, outcome, target, effects, book, leads, before, e, after, c, heffects,
          foldlM_of_applyAll hbefore, hfails, state⟩
      · intro htyped
        obtain ⟨d, hd⟩ := happlies htyped effects
        rw [hd] at applies
        cases (Prod.mk.inj applies).2

/-- The choice that wounds breaks off at the payment. -/
theorem applyChoice_error_wounded :
    (Session.applyChoice paidPassage .null none).result unpayable =
        (.error .notSummable, wounded) ∧
      (∃ rules roll outcome target effects book,
        unpayable.Leads paidPassage .null none rules roll outcome target effects book ∧
        unpayable.BreaksOff wounded .notSummable effects) ∧
      unpayable.state.character.SameBearer wounded.state.character := by
  have hfails : (Session.applyChoice paidPassage .null none).result unpayable =
      (.error .notSummable, wounded) := rfl
  obtain ⟨hstate, -, hbearer, -⟩ := applyChoice_error hfails
  refine ⟨hfails, ?_, hbearer⟩
  rcases hstate with hstate | hbreaks
  · have hendurance : (3 : Int) = 5 := congrArg (fun s => s.character.endurance) hstate
    omega
  · exact hbreaks

end Questbook
