import Mathlib.Data.List.TakeWhile
import Questbook.Cli.Run
import Questbook.Proofs.Book
import Questbook.Proofs.Catalog
import Questbook.Proofs.Game.Serving
import Questbook.Proofs.Token.Conditions

set_option autoImplicit false

/-! # Showing sections

A computation `Cli.Prints` lines if it prints these, up to the first one that the output cannot encode,
and comes to its end if the output can encode them all. Computations one after the other print their
lines one after the other (`Cli.Prints.bind`).

At all tables that serve a game the section of a state is shown by the same lines, if the book and the
rules can be read (`Cli.exists_prints_showSection`). In any case showing keeps the table serving
(`Cli.meets_showSection`).
-/

namespace Questbook

/-! ## What is asked of the table -/

/-- Whether a table serves a game and goes on from another one. -/
def Game.ServesFrom (g : Game) (w : Setting) (h : Game) : Prop :=
  h.Serves w ∧ g.Keeps h

/-- Whether the rules can be read, if they are found. -/
def Setting.RulesReadable (w : Setting) : Prop :=
  ∀ catalog, w.catalog = .ok catalog → catalog.IsReadable

/-- Whether the rules are found and can be read. -/
def Setting.HasRules (w : Setting) : Prop :=
  ∃ catalog, w.catalog = .ok catalog ∧ catalog.IsReadable

section

variable {g : Game} {w : Setting} {state : GameState}

theorem Game.ServesFrom.step {h k : Game} (hh : g.ServesFrom w h) (hk : k.Serves w)
    (hkeeps : h.Keeps k) : g.ServesFrom w k :=
  ⟨hk, hh.2.trans hkeeps⟩

/-- The section of a state is found at every table that serves the game. -/
theorem Game.ServesFrom.result_currentSection {h : Game} (hh : g.ServesFrom w h)
    (hstate : state.PlaysIn w) :
    ∃ k, g.ServesFrom w k ∧
      (Game.currentSection state).result h = (.ok (w.book.sectionAt? state.sectionId), k) := by
  obtain ⟨k, hresult, hserves, hkeeps⟩ := hh.1.result_currentSection hstate
  exact ⟨k, hh.step hserves hkeeps, hresult⟩

/-- Whether a choice that can be read may be taken is decided. -/
theorem Setting.HasRules.exists_evaluate (hw : w.HasRules) (htyped : state.character.WellTyped)
    {choice : Choice} (hchoice : choice.IsReadable) : ∃ e, w.evaluate choice state = .ok e := by
  obtain ⟨catalog, hcatalog, hreadable⟩ := hw
  obtain ⟨rules, hrules⟩ := Catalog.exists_rulesFor hreadable hchoice
  obtain ⟨available, hholds⟩ :=
    exists_allHold (Context.answers_of_wellTyped htyped) rules.requirements
  refine ⟨{ isAvailable := available, outcomes := choice.outcomes }, ?_⟩
  unfold Setting.evaluate Setting.rulesFor Engine.evaluateWith
  simp only [hcatalog, bind, Except.bind, hrules, hholds]
  rfl

/-- **The choices that may be taken are found,** and they are the same at all tables. -/
theorem Setting.HasRules.exists_availableFrom (hw : w.HasRules) (hstate : state.PlaysIn w)
    (htyped : state.character.WellTyped) {choices : List Choice}
    (hchoices : ∀ c ∈ choices, c.IsReadable) (place : Nat) :
    ∃ available, ∀ g h : Game, g.ServesFrom w h → ∃ k, g.ServesFrom w k ∧
      (Game.availableFrom state place choices).result h = (.ok available, k) := by
  induction choices generalizing place with
  | nil => exact ⟨[], fun g h hh => ⟨h, hh, rfl⟩⟩
  | cons c cs ih =>
      obtain ⟨hc, hcs⟩ := List.forall_mem_cons.mp hchoices
      obtain ⟨e, he⟩ := hw.exists_evaluate htyped hc
      obtain ⟨rest, hrest⟩ := ih hcs (place + 1)
      refine ⟨if e.isAvailable then place :: rest else rest, fun g h hh => ?_⟩
      obtain ⟨k, hresult, hserves, hkeeps⟩ := hh.1.result_evaluate hstate c
      rw [he] at hresult
      obtain ⟨l, hl, hlast⟩ := hrest g k (hh.step hserves hkeeps)
      refine ⟨l, hl, ?_⟩
      unfold Game.availableFrom
      rw [Play.result_bind_of_ok hresult, Play.result_bind_of_ok hlast]
      rfl

/-- Looking for the choices that may be taken keeps the table. -/
theorem Game.meets_availableFrom (hstate : state.PlaysIn w) (choices : List Choice) (place : Nat) :
    Play.Meets (g.ServesFrom w) (Game.availableFrom state place choices) fun _ => True := by
  induction choices generalizing place with
  | nil => exact Play.meets_pure trivial
  | cons c cs ih =>
      unfold Game.availableFrom
      refine Play.Meets.bind (Q := fun _ => True) (Play.meets_of_result fun h hh => ?_) fun e _ =>
        (ih (place + 1)).bind fun rest _ => Play.meets_pure trivial
      obtain ⟨k, hresult, hserves, hkeeps⟩ := hh.1.result_evaluate hstate c
      exact ⟨_, k, hresult, hh.step hserves hkeeps, fun _ _ => trivial⟩

end

/-! ## Printing -/

namespace Cli

variable {I : Game → Prop} {g : Game} {w : Setting} {α β : Type} {lines more : List String} {a : α}
  {b : β}

/-- **What a computation prints:** the lines in front of the first one that the output cannot encode. It
gives its value if there is no such line. -/
def Prints (I : Game → Prop) (p : Play Console α) (lines : List String) (a : α) : Prop :=
  ∀ c : Console, I c.game → ∃ g, I g ∧ p.result c =
    (if lines.all c.takes then .ok a else .error .unencodable,
      { c with game := g, out := c.out ++ lines.takeWhile c.takes })

/-- What prints nothing gives its value. -/
theorem prints_nothing {p : Play Console α}
    (h : ∀ c : Console, I c.game → ∃ g, I g ∧ p.result c = (.ok a, { c with game := g })) :
    Prints I p [] a := by
  intro c hc
  obtain ⟨g, hg, hresult⟩ := h c hc
  refine ⟨g, hg, ?_⟩
  rw [hresult, List.takeWhile_nil, List.append_nil]
  rfl

theorem prints_pure (a : α) : Prints I (pure a) [] a :=
  prints_nothing fun c hc => ⟨c.game, hc, rfl⟩

theorem prints_ofExcept {r : Except Fault α} (h : r = .ok a) : Prints I (.ofExcept r) [] a :=
  prints_nothing fun c hc => ⟨c.game, hc, by rw [h]; rfl⟩

/-- What is done at the table prints nothing. -/
theorem prints_onGame {p : Play Game α}
    (h : ∀ g, I g → ∃ k, I k ∧ p.result g = (.ok a, k)) : Prints I (onGame p) [] a := by
  refine prints_nothing fun c hc => ?_
  obtain ⟨k, hk, hresult⟩ := h c.game hc
  refine ⟨k, hk, ?_⟩
  unfold onGame Play.onPart
  rw [Play.result_ofFunction, hresult]

theorem prints_printLine (line : String) : Prints I (printLine line) [line] () := by
  intro c hc
  refine ⟨c.game, hc, ?_⟩
  unfold printLine
  rw [Play.result_ofFunction]
  by_cases htakes : c.takes line = true
  · rw [if_pos htakes, List.takeWhile_cons_of_pos htakes, List.all_cons, htakes]
    rfl
  · rw [if_neg htakes, List.takeWhile_cons_of_neg htakes, List.all_cons, Bool.eq_false_iff.mpr htakes,
      List.append_nil]
    rfl

/-- **What comes later is printed later,** if it comes to that. -/
theorem Prints.bind {p : Play Console α} {f : α → Play Console β} (hp : Prints I p lines a)
    (hf : Prints I (f a) more b) : Prints I (p >>= f) (lines ++ more) b := by
  intro c hc
  obtain ⟨g, hg, hfirst⟩ := hp c hc
  by_cases hall : lines.all c.takes = true
  · rw [if_pos hall] at hfirst
    obtain ⟨k, hk, hsecond⟩ := hf { c with game := g, out := c.out ++ lines.takeWhile c.takes } hg
    refine ⟨k, hk, ?_⟩
    rw [Play.result_bind_of_ok hfirst, hsecond, List.all_append, hall, Bool.true_and,
      List.takeWhile_append_of_pos (List.all_eq_true.mp hall),
      List.takeWhile_eq_self_iff.mpr (List.all_eq_true.mp hall), List.append_assoc]
  · rw [if_neg hall] at hfirst
    refine ⟨g, hg, ?_⟩
    -- the line that stopped the first computation stops both
    have hstops : (lines ++ more).takeWhile c.takes = lines.takeWhile c.takes := by
      rw [List.takeWhile_append, if_neg]
      intro hlength
      have hself := (List.takeWhile_prefix c.takes).eq_of_length hlength
      exact hall (hself ▸ List.all_takeWhile)
    rw [Play.result_bind_of_error hfirst, hstops, List.all_append, Bool.eq_false_iff.mpr hall]
    rfl

theorem exists_prints_printTexts (ts : List (Except Fault String)) (h : ∀ t ∈ ts, ∃ s, t = .ok s) :
    ∃ lines, ∀ I : Game → Prop, Prints I (printTexts ts) lines () := by
  induction ts with
  | nil => exact ⟨[], fun I => prints_pure ()⟩
  | cons t ts ih =>
      obtain ⟨⟨s, hs⟩, hts⟩ := List.forall_mem_cons.mp h
      obtain ⟨lines, hlines⟩ := ih hts
      exact ⟨_, fun I =>
        (prints_ofExcept hs).bind ((prints_printLine s).bind (hlines I))⟩

/-! ### What printing keeps -/

/-- A computation of the game does on the console what it does at the table. -/
theorem meets_onGame {p : Play Game α} {Q : α → Prop} (h : Play.Meets I p Q) :
    Play.Meets (fun c => I c.game) (onGame p) Q :=
  ⟨fun c => h.keeps c.game, fun c => h.gives c.game⟩

theorem meets_printLine (I : Game → Prop) (s : String) :
    Play.Meets (fun c => I c.game) (printLine s) fun _ => True := by
  refine Play.meets_of_result fun c hc => ?_
  unfold printLine
  rw [Play.result_ofFunction]
  split
  · exact ⟨_, _, rfl, hc, fun _ _ => trivial⟩
  · exact ⟨_, _, rfl, hc, fun _ _ => trivial⟩

theorem meets_printTexts (I : Game → Prop) (ts : List (Except Fault String)) :
    Play.Meets (fun c => I c.game) (printTexts ts) fun _ => True := by
  induction ts with
  | nil => exact Play.meets_pure trivial
  | cons t ts ih =>
      unfold printTexts
      refine (Play.meets_ofExcept (Q := fun _ => True) fun _ _ => trivial).bind fun s _ => ?_
      exact (meets_printLine I s).bind fun _ _ => ih

/-! ## Sections -/

variable {state : GameState}

/-- The line of a choice that was read from a file can be printed. -/
theorem exists_choiceLine (available : List Nat) (place : Nat) {choice : Choice}
    (htext : choice.text.HasText) (htarget : choice.target.HasText) :
    ∃ s, choiceLine available place choice = .ok s := by
  obtain ⟨text, htext⟩ := htext.text
  obtain ⟨target, htarget⟩ := htarget.text
  unfold choiceLine
  rw [htext, htarget]
  exact ⟨_, rfl⟩

/-- **The lines that show the section of a state** are the same at all tables that serve the game, if
all rules can be read. -/
theorem exists_prints_showSection (hstate : state.PlaysIn w)
    (hplaced : ∃ id, state.sectionId = .str id) (htyped : state.character.WellTyped)
    (hreadable : w.book.IsReadable) (hshown : ∀ s ∈ w.book.sections, s.IsShown) (hw : w.HasRules) :
    ∃ lines, ∀ g : Game, Prints (g.ServesFrom w) (showSection state) lines () := by
  have hlooks : ∀ g : Game, Prints (g.ServesFrom w) (onGame (Game.currentSection state)) []
      (w.book.sectionAt? state.sectionId) :=
    fun g => prints_onGame fun h hh => hh.result_currentSection hstate
  unfold showSection
  cases hfound : w.book.sectionAt? state.sectionId with
  | none =>
      rw [hfound] at hlooks
      obtain ⟨id, hid⟩ := hplaced
      obtain ⟨text, htext⟩ := (Json.hasText_str id).text
      rw [hid]
      exact ⟨_, fun g => (hlooks g).bind ((prints_ofExcept htext).bind (prints_printLine _))⟩
  | some s =>
      rw [hfound] at hlooks
      obtain ⟨hmem, -⟩ := Book.mem_of_sectionAt? hfound
      have hs := hshown s hmem
      obtain ⟨title, htitle⟩ := (Json.HandsDown.orElse hs.title (Json.hasText_str s.id)).text
      obtain ⟨blocks, hblocks⟩ :=
        exists_prints_printTexts (s.blocks.map fun b => b.text.text) fun t ht => by
          obtain ⟨b, hb, rfl⟩ := List.mem_map.mp ht
          exact (hs.blocks b hb).text
      obtain ⟨available, havailable⟩ :=
        hw.exists_availableFrom hstate htyped (hreadable s hmem) 0
      obtain ⟨choices, hchoices⟩ :=
        exists_prints_printTexts (s.choices.zipIdx.map fun c => choiceLine available c.2 c.1)
          fun t ht => by
            obtain ⟨c, hc, rfl⟩ := List.mem_map.mp ht
            obtain ⟨htext, htarget⟩ := hs.choices c.1 (List.fst_mem_of_mem_zipIdx hc)
            exact exists_choiceLine available c.2 htext htarget
      exact ⟨_, fun g => (hlooks g).bind ((prints_ofExcept htitle).bind ((prints_printLine _).bind
        ((hblocks _).bind ((prints_onGame (havailable g)).bind (hchoices _)))))⟩

/-- **Showing the section of a state keeps the table,** whether it comes to its end or not. -/
theorem meets_showSection (hstate : state.PlaysIn w) :
    Play.Meets (fun c : Console => g.ServesFrom w c.game) (showSection state) fun _ => True := by
  have hlooks : Play.Meets (g.ServesFrom w) (Game.currentSection state) fun _ => True :=
    Play.meets_of_result fun h hh => by
      obtain ⟨k, hk, hresult⟩ := hh.result_currentSection hstate
      exact ⟨_, k, hresult, hk, fun _ _ => trivial⟩
  have htext : ∀ r : Except Fault String,
      Play.Meets (fun c : Console => g.ServesFrom w c.game) (.ofExcept r) fun _ => True :=
    fun r => Play.meets_ofExcept fun _ _ => trivial
  unfold showSection
  refine (meets_onGame hlooks).bind fun found _ => ?_
  cases found with
  | none => exact (htext _).bind fun id _ => meets_printLine (g.ServesFrom w) _
  | some s =>
      refine (htext _).bind fun title _ => ?_
      refine (meets_printLine (g.ServesFrom w) _).bind fun _ _ => ?_
      refine (meets_printTexts (g.ServesFrom w) _).bind fun _ _ => ?_
      refine (meets_onGame (Game.meets_availableFrom hstate s.choices 0)).bind fun available _ => ?_
      exact meets_printTexts (g.ServesFrom w) _

end Cli

end Questbook
