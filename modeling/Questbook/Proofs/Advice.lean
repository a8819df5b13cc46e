import Questbook.Proofs.Advice.Due
import Questbook.Proofs.Catalog
import Questbook.Proofs.Json.Shown

set_option autoImplicit false

/-! # What authors are warned about

About a choice whose tokens and rule ids are texts exactly the warnings are given that are due, in their
order, as long as its outcomes name their targets by texts (`warnings_exact`).

The engine, on the other hand, reads what authors have not been warned about: where a book and a catalog
give no warnings, nothing but tokens without a known key comes out as unsupported
(`Catalog.Understands`).
-/

namespace Questbook

open Text

/-! ## Choices as they are written -/

/-- **A choice as authors write it:** tokens and rule ids are texts, and no number has too many
digits. -/
structure Choice.IsTextual (c : Choice) : Prop extends c.IsReadable where
  outcomes : ∀ o ∈ c.outcomes, ∀ j ∈ o.effects, j.IsToken Change.HasLongNumeral
  target : c.target.HasText
  bounds : ∀ o ∈ c.outcomes, IsWritable o.min ∧ IsWritable o.max

theorem Json.IsToken.isTextOrNull {long : List Char → Prop} {j : Json} (h : j.IsToken long) :
    j.IsTextOrNull := by
  obtain ⟨t, rfl, -⟩ := h
  exact Or.inr ⟨t, rfl⟩

theorem not_long_of_mem_textsOf {long : List Char → Prop} {js : List Json}
    (h : ∀ j ∈ js, j.IsToken long) : ∀ t ∈ textsOf js, ¬ long t.toList := by
  intro t ht
  obtain ⟨j, hj, htext⟩ := List.mem_filterMap.mp ht
  obtain ⟨u, rfl, hshort⟩ := h j hj
  cases htext
  exact hshort

namespace Choice.IsTextual

variable {c : Choice}

theorem hasShortNumerals (h : c.IsTextual) : c.HasShortNumerals where
  requirements := not_long_of_mem_textsOf h.requirements
  effects := not_long_of_mem_textsOf h.effects
  outcomes := fun o ho => not_long_of_mem_textsOf (h.outcomes o ho)

/-- Nothing but the targets of its outcomes may stop the advice about such a choice. -/
theorem isAdvisable_iff (h : c.IsTextual) : c.IsAdvisable ↔ ∀ o ∈ c.outcomes, o.NamesTarget := by
  constructor
  · exact fun hadvisable o ho => (hadvisable.outcomes o ho).1
  · intro htargets
    exact {
      ruleIds := fun j hj => Or.inr (h.ruleIds j hj)
      requirements := fun j hj => (h.requirements j hj).isTextOrNull
      effects := fun j hj => (h.effects j hj).isTextOrNull
      outcomes := fun o ho => ⟨htargets o ho, fun j hj => (h.outcomes o ho j hj).isTextOrNull⟩ }

end Choice.IsTextual

section

variable {catalog : Catalog} {sectionId : String} {target : Json} {o : RandomOutcome} {c : Choice}

theorem Choice.warnings_eq_dueWarnings (hid : isBlank sectionId = false) (h : c.IsTextual)
    (htargets : ∀ o ∈ c.outcomes, o.NamesTarget) :
    c.warnings catalog sectionId = .ok (c.dueWarnings catalog sectionId) :=
  (warnings_givenIf hid h.hasShortNumerals).ok (h.isAdvisable_iff.mpr htargets)

/-- A target that is no text is a fault, wherever it stands. -/
theorem Choice.warnings_of_not_namesTarget (hid : isBlank sectionId = false) (h : c.IsTextual)
    (hfails : ∃ o ∈ c.outcomes, ¬ o.NamesTarget) :
    c.warnings catalog sectionId = .error .notText := by
  refine (warnings_givenIf hid h.hasShortNumerals).error fun hadvisable => ?_
  obtain ⟨o, ho, hnot⟩ := hfails
  exact hnot (h.isAdvisable_iff.mp hadvisable o ho)

/-! ## Their texts -/

theorem FlawPlace.exists_text_choice (htarget : target.HasText) :
    ∃ t, (FlawPlace.choice sectionId target).text = .ok t := by
  obtain ⟨t, ht⟩ := htarget.text
  unfold FlawPlace.text
  simp only [ht]
  exact ⟨_, rfl⟩

theorem FlawPlace.exists_text_outcome (htarget : target.HasText)
    (hbounds : IsWritable o.min ∧ IsWritable o.max) :
    ∃ t, (FlawPlace.outcome sectionId target o.min o.max o.redirect?).text = .ok t := by
  obtain ⟨t, ht⟩ := htarget.text
  have hmin : Numeral.decimalText o.min = .ok (toString o.min) := if_pos hbounds.1
  have hmax : Numeral.decimalText o.max = .ok (toString o.max) := if_pos hbounds.2
  unfold FlawPlace.text
  simp only [ht, hmin, hmax]
  rcases o.redirect?_cases with hnone | ⟨t, -, hsome⟩
  · rw [hnone]
    exact ⟨_, rfl⟩
  · rw [hsome]
    exact ⟨_, rfl⟩

/-- A warning has a text if its place has one. -/
theorem exists_text_of_mem_warningsAt {place : FlawPlace} {flaws : List Flaw}
    (h : ∃ t, place.text = .ok t) : ∀ w ∈ warningsAt place flaws, ∃ t, w.text = .ok t := by
  obtain ⟨t, ht⟩ := h
  intro w hw
  obtain ⟨flaw, -, rfl⟩ := List.mem_map.mp hw
  refine ⟨t ++ " " ++ flaw.text, ?_⟩
  unfold Warning.text
  rw [ht]
  rfl

/-- What is due about a choice can be told if its target and the bounds of its outcomes can be shown. -/
theorem Choice.exists_text_of_mem_dueWarnings (htarget : c.target.HasText)
    (hbounds : ∀ o ∈ c.outcomes, IsWritable o.min ∧ IsWritable o.max) :
    ∀ w ∈ c.dueWarnings catalog sectionId, ∃ t, w.text = .ok t := by
  intro w hw
  rcases List.mem_append.mp hw with hw | hw
  · exact exists_text_of_mem_warningsAt (FlawPlace.exists_text_choice htarget) w hw
  · obtain ⟨o, ho, hw⟩ := List.mem_flatMap.mp hw
    exact exists_text_of_mem_warningsAt (FlawPlace.exists_text_outcome htarget (hbounds o ho)) w hw

theorem Choice.IsTextual.exists_texts (h : c.IsTextual) :
    ∃ texts, (c.dueWarnings catalog sectionId).mapM Warning.text = .ok texts :=
  exists_mapM (Choice.exists_text_of_mem_dueWarnings h.target h.bounds)

end

/-! ## Where nothing is warned about -/

/-- That there are no warnings is seen from their number. -/
theorem eq_ok_nil_of_length {ε α : Type} {x : Except ε (List α)}
    (h : x.toOption.map List.length = some 0) : x = .ok [] := by
  obtain ⟨xs, hx, hlength⟩ := Option.map_eq_some_iff.mp h
  rw [eq_ok_of_toOption hx, List.length_eq_zero_iff.mp hlength]

/-- Where no flaw is found every value is null, or a text without a flaw. -/
theorem forall_of_flawsOf_eq_nil {test : String → Except Fault (Option Flaw)}
    {js : List Json} (h : flawsOf test js = .ok []) :
    ∀ j ∈ js, j = .null ∨ ∃ t, j = .str t ∧ test t = .ok none := by
  induction js with
  | nil => exact List.forall_mem_nil _
  | cons j js ih =>
      cases j with
      | null => exact List.forall_mem_cons.mpr ⟨Or.inl rfl, ih h⟩
      | str t =>
          obtain ⟨found, hfound, hrest⟩ := bind_eq_ok_iff.mp
            (show (test t >>= fun found => flawsOf test js >>= fun rest =>
              pure (found.toList ++ rest)) = .ok [] from h)
          obtain ⟨rest, hjs, hnil⟩ := bind_eq_ok_iff.mp hrest
          obtain ⟨hnone, rfl⟩ := List.append_eq_nil_iff.mp (Except.ok.inj hnil)
          cases found with
          | none => exact List.forall_mem_cons.mpr ⟨Or.inr ⟨t, rfl, hfound⟩, ih hjs⟩
          | some flaw => cases hnone
      | _ => cases h

theorem not_isFlawed_of_requirementFlaw {raw : String} (h : requirementFlaw raw = .ok none) :
    ∃ q, Requirement.parse raw = .ok q ∧
      (q.condition = .unsupported → ¬ HasKeyOf Condition.keys q.raw) := by
  by_cases hlong : Condition.HasLongNumeral raw.toList
  · -- a long numeral stands under a known key, and is a fault
    have hparse := (Condition.reads_parse raw.toList).error_iff .longNumeral |>.mpr ⟨rfl, hlong⟩
    obtain ⟨k, v, hcut, hne, entry, hmem, hreads, -⟩ := hlong
    have hkey : HasKeyOf Condition.keys raw := ⟨k, v, hcut, hne, entry, hmem, hreads, trivial⟩
    unfold requirementFlaw at h
    rw [knownKey?_of_hasKeyOf Condition.nodup_keys hkey, Requirement.parse_eq_error hparse] at h
    cases h
  · obtain ⟨c, hparse, -⟩ := (Condition.reads_parse raw.toList).exists_of_not_long hlong
    refine ⟨_, Requirement.parse_eq hparse, fun hc hkey => ?_⟩
    rw [requirementFlaw_eq hlong, if_pos ((Requirement.isFlawed_iff hparse).mpr ⟨hkey, hc⟩)] at h
    cases h

theorem not_isFlawed_of_effectFlaw {raw : String} (h : effectFlaw raw = .ok none) :
    ∃ e, Effect.parse raw = .ok e ∧ (e.change = .unsupported → ¬ HasKeyOf Change.keys e.raw) := by
  by_cases hlong : Change.HasLongNumeral raw.toList
  · have hparse := (Change.reads_parse raw.toList).error_iff .longNumeral |>.mpr ⟨rfl, hlong⟩
    obtain ⟨k, v, hcut, hne, entry, hmem, hreads, -⟩ := hlong
    have hkey : HasKeyOf Change.keys raw := ⟨k, v, hcut, hne, entry, hmem, hreads, trivial⟩
    unfold effectFlaw at h
    rw [knownKey?_of_hasKeyOf Change.nodup_keys hkey, Effect.parse_eq_error hparse] at h
    cases h
  · obtain ⟨c, hparse, -⟩ := (Change.reads_parse raw.toList).exists_of_not_long hlong
    refine ⟨_, Effect.parse_eq hparse, fun hc hkey => ?_⟩
    rw [effectFlaw_eq hlong, if_pos ((Effect.isFlawed_iff hparse).mpr ⟨hkey, hc⟩)] at h
    cases h

/-- **Whether a catalog and the engine understand a choice:** all that governs it is read, what is
unsupported has no known key, and every rule id that is not blank is resolved. -/
structure Catalog.Understands (c : Catalog) (choice : Choice) : Prop where
  rules : ∃ rules, c.rulesFor choice = .ok rules ∧
    (∀ q ∈ rules.requirements, q.condition = .unsupported → ¬ HasKeyOf Condition.keys q.raw) ∧
    ∀ e ∈ rules.effects, e.change = .unsupported → ¬ HasKeyOf Change.keys e.raw
  outcomes : ∀ o ∈ choice.outcomes, ∃ effects, o.effects.mapM Effect.ofJson = .ok effects ∧
    ∀ e ∈ effects, e.change = .unsupported → ¬ HasKeyOf Change.keys e.raw
  ruleIds : ∀ id, .str id ∈ choice.ruleIds → isBlank id = false →
    ∃ r, c.resolve [.str id] = .ok [r]

/-- Values in which no flaw was found are read as requirements. -/
theorem exists_requirement_of_flawsOf_eq_nil {js : List Json}
    (h : flawsOf requirementFlaw js = .ok []) : ∀ j ∈ js, ∃ q, Requirement.ofJson j = .ok q ∧
      (q.condition = .unsupported → ¬ HasKeyOf Condition.keys q.raw) := by
  intro j hj
  rcases forall_of_flawsOf_eq_nil h j hj with rfl | ⟨t, rfl, ht⟩
  · exact ⟨_, rfl, fun _ => by decide⟩
  · exact not_isFlawed_of_requirementFlaw ht

theorem exists_effect_of_flawsOf_eq_nil {js : List Json} (h : flawsOf effectFlaw js = .ok []) :
    ∀ j ∈ js, ∃ e, Effect.ofJson j = .ok e ∧
      (e.change = .unsupported → ¬ HasKeyOf Change.keys e.raw) := by
  intro j hj
  rcases forall_of_flawsOf_eq_nil h j hj with rfl | ⟨t, rfl, ht⟩
  · exact ⟨_, rfl, fun _ => by decide⟩
  · exact not_isFlawed_of_effectFlaw ht

/-- The parts of a choice without warnings. -/
theorem Choice.of_warnings_eq_nil {catalog : Catalog} {sectionId : String} {c : Choice}
    (h : c.warnings catalog sectionId = .ok []) :
    flawsOf (fun id => .ok (ruleIdFlaw catalog id)) c.ruleIds = .ok [] ∧
      flawsOf requirementFlaw c.requirements = .ok [] ∧ flawsOf effectFlaw c.effects = .ok [] ∧
      ∀ o ∈ c.outcomes, flawsOf effectFlaw o.effects = .ok [] := by
  unfold Choice.warnings at h
  split at h
  · cases h
  obtain ⟨ids, hids, h⟩ := bind_eq_ok_iff.mp h
  obtain ⟨requirements, hrequirements, h⟩ := bind_eq_ok_iff.mp h
  obtain ⟨effects, heffects, h⟩ := bind_eq_ok_iff.mp h
  obtain ⟨outcomes, houtcomes, h⟩ := bind_eq_ok_iff.mp h
  obtain ⟨hplace, rfl⟩ := List.append_eq_nil_iff.mp (Except.ok.inj h)
  obtain ⟨hfirst, rfl⟩ := List.append_eq_nil_iff.mp (List.map_eq_nil_iff.mp hplace)
  obtain ⟨rfl, rfl⟩ := List.append_eq_nil_iff.mp hfirst
  refine ⟨hids, hrequirements, heffects, fun o ho => ?_⟩
  rw [outcomeWarnings_eq] at houtcomes
  obtain ⟨redirects, -, ho⟩ := bind_eq_ok_iff.mp (forall_of_gathered_eq_nil houtcomes o ho)
  obtain ⟨flaws, hflaws, hnil⟩ := bind_eq_ok_iff.mp ho
  rw [hflaws, List.map_eq_nil_iff.mp (Except.ok.inj hnil)]

/-- **A choice without warnings is understood** if the rules have none either. -/
theorem Catalog.understands_of_warnings {c : Catalog} (hc : c.warnings = .ok []) {sectionId : String}
    {choice : Choice} (h : choice.warnings c sectionId = .ok []) : c.Understands choice := by
  obtain ⟨hids, hrequirements, heffects, houtcomes⟩ := Choice.of_warnings_eq_nil h
  have hrules : ∀ r ∈ c.rules, flawsOf requirementFlaw r.requirements = .ok [] ∧
      flawsOf effectFlaw r.effects = .ok [] := by
    intro r hr
    have hwarnings : ruleWarnings c.rules = .ok [] := hc
    rw [ruleWarnings_eq] at hwarnings
    obtain ⟨requirements, hreqs, hrest⟩ :=
      bind_eq_ok_iff.mp (forall_of_gathered_eq_nil hwarnings r hr)
    obtain ⟨effects, heffs, hnil⟩ := bind_eq_ok_iff.mp hrest
    obtain ⟨rfl, rfl⟩ :=
      List.append_eq_nil_iff.mp (List.map_eq_nil_iff.mp (Except.ok.inj hnil))
    exact ⟨hreqs, heffs⟩
  have hreadRequirement : ∀ j, c.HasRequirement choice j → ∃ q, Requirement.ofJson j = .ok q ∧
      (q.condition = .unsupported → ¬ HasKeyOf Condition.keys q.raw) := by
    rintro j (hj | ⟨r, hr, hj⟩)
    · exact exists_requirement_of_flawsOf_eq_nil hrequirements j hj
    · exact exists_requirement_of_flawsOf_eq_nil (hrules r hr).1 j hj
  have hreadEffect : ∀ j, c.HasEffect choice j → ∃ e, Effect.ofJson j = .ok e ∧
      (e.change = .unsupported → ¬ HasKeyOf Change.keys e.raw) := by
    rintro j (hj | ⟨r, hr, hj⟩)
    · exact exists_effect_of_flawsOf_eq_nil heffects j hj
    · exact exists_effect_of_flawsOf_eq_nil (hrules r hr).2 j hj
  have hreadId : ∀ j ∈ choice.ruleIds, ∃ r, c.findJson? j = .ok r := by
    intro j hj
    rcases forall_of_flawsOf_eq_nil hids j hj with rfl | ⟨t, rfl, -⟩
    · exact ⟨none, rfl⟩
    · exact ⟨c.find? t, rfl⟩
  refine ⟨?_, fun o ho => ?_, fun id hid hblank => ?_⟩
  · obtain ⟨rules, hruled, hqs, hes⟩ := exists_rulesFor_of_tokens hreadId
      (fun j hj => (hreadRequirement j hj).imp fun _ h => h.1)
      (fun j hj => (hreadEffect j hj).imp fun _ h => h.1)
    refine ⟨rules, hruled, fun q hq => ?_, fun e he => ?_⟩
    · obtain ⟨j, hj, hread⟩ := hqs q hq
      obtain ⟨q', hq', hkey⟩ := hreadRequirement j hj
      cases hread.symm.trans hq'
      exact hkey
    · obtain ⟨j, hj, hread⟩ := hes e he
      obtain ⟨e', he', hkey⟩ := hreadEffect j hj
      cases hread.symm.trans he'
      exact hkey
  · have hread := exists_effect_of_flawsOf_eq_nil (houtcomes o ho)
    obtain ⟨effects, heffs⟩ := exists_mapM fun j hj => (hread j hj).imp fun _ h => h.1
    refine ⟨effects, heffs, fun e he => ?_⟩
    obtain ⟨j, hj, he⟩ := mem_of_mapM heffs e he
    obtain ⟨e', he', hkey⟩ := hread j hj
    cases he.symm.trans he'
    exact hkey
  · rcases forall_of_flawsOf_eq_nil hids (.str id) hid with hnull | ⟨t, ht, hflaw⟩
    · cases hnull
    · cases ht
      rw [c.resolve_singleton]
      have hnot : ¬ c.Drops id := by
        intro hdrops
        rw [ruleIdFlaw_eq, if_pos hdrops] at hflaw
        cases hflaw
      cases hfound : c.find? id with
      | some r => exact ⟨r, rfl⟩
      | none => exact absurd ⟨hblank, by rw [c.resolve_singleton, hfound]; rfl⟩ hnot

/-! ## Sound and complete -/

/-- An outcome that leads to a number stops the advice, although there is nothing to warn about. -/
theorem warnings_stop_at_target :
    ¬ ∀ (catalog : Catalog) (sectionId : String) (choice : Choice), isBlank sectionId = false →
      choice.IsTextual →
        choice.warnings catalog sectionId = .ok (choice.dueWarnings catalog sectionId) := by
  intro hall
  have htextual : Choice.IsTextual { outcomes := [{ target := .int 5 }] } :=
    ⟨⟨nofun, nofun, nofun⟩, by simp, Json.hasText_str "", fun o ho => by
      obtain rfl := List.mem_singleton.mp ho
      exact ⟨isWritable_of_lt_ten (by decide), isWritable_of_lt_ten (by decide)⟩⟩
  cases hall {} "1" { outcomes := [{ target := .int 5 }] } (by decide) htextual

/-- **Exactly the warnings that are due are given.** About a choice whose outcomes name their targets
they come one for each flaw, in order, and all of them can be told; a target that is no text is a fault.
Where a book and a catalog give no warnings, the engine understands every choice. -/
theorem warnings_exact :
    (∀ (catalog : Catalog) (sectionId : String) (choice : Choice), isBlank sectionId = false →
      choice.IsTextual →
        ((∀ o ∈ choice.outcomes, o.NamesTarget) →
          choice.warnings catalog sectionId = .ok (choice.dueWarnings catalog sectionId) ∧
          ∃ texts, (choice.dueWarnings catalog sectionId).mapM Warning.text = .ok texts) ∧
        ((∃ o ∈ choice.outcomes, ¬ o.NamesTarget) →
          choice.warnings catalog sectionId = .error .notText)) ∧
    ∀ (catalog : Catalog) (book : Book), book.warnings catalog = .ok [] →
      catalog.warnings = .ok [] →
        ∀ s ∈ book.sections, ∀ choice ∈ s.choices, catalog.Understands choice := by
  refine ⟨fun catalog sectionId choice hid h => ⟨fun htargets => ?_, fun hfails => ?_⟩,
    fun catalog book hbook hcatalog s hs choice hchoice => ?_⟩
  · exact ⟨Choice.warnings_eq_dueWarnings hid h htargets, h.exists_texts⟩
  · exact Choice.warnings_of_not_namesTarget hid h hfails
  · have hsections : sectionWarnings catalog book.sections = .ok [] := hbook
    rw [sectionWarnings_eq] at hsections
    have hchoices := forall_of_gathered_eq_nil hsections s hs
    rw [choiceWarnings_eq] at hchoices
    exact Catalog.understands_of_warnings hcatalog (forall_of_gathered_eq_nil hchoices choice hchoice)

/-- A choice with flaws of every kind. -/
def faultyChoice : Choice where
  target := .str "12"
  requirements := [.str "stat:CombatSkill>=x", .str "weather:rain", .str "skill:Hunting"]
  effects := [.str "counter:Meals:lots", .str "teleport:5"]
  outcomes := [{ max := 4, effects := [.str "endurance:drain:2"] },
    { min := 5, target := .str "20", effects := [.str "item:add"] }]
  ruleIds := [.str "eat-meal", .str " missing-rule ", .str ""]

/-- A rule that the choice names. -/
def mealCatalog : Catalog where
  rules := [{
    id := "Eat-Meal"
    requirements := [.str "counter:Meals>=1"]
    effects := [.str "counter:Meals:-1"] }]

/-- A book without flaws. -/
def mealBook : Book where
  sections := [{
    id := "1"
    choices := [{ requirements := [.str "weather:rain"], ruleIds := [.str "eat-meal"] }] }]

/-- The choice has five flaws, two of them in outcomes; the book has none, and is understood. -/
theorem warnings_exact_faulty_choice :
    (∃ ws, faultyChoice.warnings mealCatalog "7" = .ok ws ∧
      ws.map (·.flaw) = [.missingRule "missing-rule",
        .badRequirement "stat" "stat:CombatSkill>=x", .badEffect "counter" "counter:Meals:lots",
        .badEffect "endurance" "endurance:drain:2", .badEffect "item" "item:add"]) ∧
    mealBook.warnings mealCatalog = .ok [] ∧ mealCatalog.warnings = .ok [] ∧
      ∀ s ∈ mealBook.sections, ∀ choice ∈ s.choices, mealCatalog.Understands choice := by
  have hreadable : faultyChoice.IsReadable := by decide +kernel
  have houtcomes : ∀ o ∈ faultyChoice.outcomes, ∀ j ∈ o.effects,
      j.IsToken Change.HasLongNumeral := by decide +kernel
  have hbounds : ∀ o ∈ faultyChoice.outcomes, o.min.natAbs < 10 ∧ o.max.natAbs < 10 := by decide
  have htextual : faultyChoice.IsTextual := ⟨hreadable, houtcomes, Json.hasText_str _, fun o ho =>
    ⟨isWritable_of_lt_ten (hbounds o ho).1, isWritable_of_lt_ten (hbounds o ho).2⟩⟩
  have htargets : ∀ o ∈ faultyChoice.outcomes, o.NamesTarget := by
    refine List.forall_mem_cons.mpr ⟨Or.inl rfl, fun o ho => ?_⟩
    obtain rfl := List.mem_singleton.mp ho
    exact Or.inr ⟨_, rfl⟩
  have hbook : mealBook.warnings mealCatalog = .ok [] :=
    eq_ok_nil_of_length (by decide +kernel)
  have hcatalog : mealCatalog.warnings = .ok [] := eq_ok_nil_of_length (by decide +kernel)
  have hwarnings := ((warnings_exact.1 mealCatalog "7" faultyChoice (by decide) htextual).1 htargets).1
  exact ⟨⟨_, hwarnings, by decide +kernel⟩, hbook, hcatalog,
    warnings_exact.2 mealCatalog mealBook hbook hcatalog⟩

end Questbook
