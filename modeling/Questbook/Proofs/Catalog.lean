import Questbook.Proofs.Token.Acceptance
import Questbook.Series.Resource

set_option autoImplicit false

/-! # Choices and rules that can be read

Tokens that are texts without a numeral that is too long are read without a fault, and so are the
requirements and effects that govern a choice (`Catalog.exists_rulesFor`). The built-in rules are of
this kind (`Series.isReadable_of_loadCatalog`).
-/

namespace Questbook

/-- Whether a value is a token without a numeral that is too long. -/
def Json.IsToken (long : List Char → Prop) (j : Json) : Prop :=
  ∃ token : String, j = .str token ∧ ¬ long token.toList

/-- **Whether a choice can be read:** its requirements and effects are tokens, and it names rules by
texts. -/
structure Choice.IsReadable (c : Choice) : Prop where
  requirements : ∀ j ∈ c.requirements, j.IsToken Condition.HasLongNumeral
  effects : ∀ j ∈ c.effects, j.IsToken Change.HasLongNumeral
  ruleIds : ∀ j ∈ c.ruleIds, ∃ id, j = .str id

/-- Whether the requirements and effects of a rule are tokens. -/
structure Rule.IsReadable (r : Rule) : Prop where
  requirements : ∀ j ∈ r.requirements, j.IsToken Condition.HasLongNumeral
  effects : ∀ j ∈ r.effects, j.IsToken Change.HasLongNumeral

/-- **Whether all choices of a book can be read.** -/
def Book.IsReadable (b : Book) : Prop :=
  ∀ s ∈ b.sections, ∀ c ∈ s.choices, c.IsReadable

/-- **Whether all rules of a catalog can be read.** -/
def Catalog.IsReadable (c : Catalog) : Prop :=
  ∀ r ∈ c.rules, r.IsReadable

/-! ## Deciding it -/

/-- Whether a value is a text that is read without a fault. -/
def Json.isReadBy {α : Type} (parse : List Char → Except Fault α) : Json → Bool
  | .str token => (parse token.toList).toBool
  | _ => false

theorem Json.isReadBy_iff {α : Type} {parse : List Char → Except Fault α}
    {long : List Char → Prop} (h : ∀ token, ¬ long token ↔ (parse token).toBool = true) {j : Json} :
    j.isReadBy parse = true ↔ j.IsToken long := by
  cases j with
  | str token =>
      constructor
      · exact fun hread => ⟨token, rfl, (h token.toList).mpr hread⟩
      · rintro ⟨_, hsame, hshort⟩
        cases hsame
        exact (h token.toList).mp hshort
  | _ =>
      constructor
      · exact nofun
      · rintro ⟨_, hsame, -⟩
        cases hsame

instance {j : Json} : Decidable (j.IsToken Condition.HasLongNumeral) :=
  decidable_of_iff _ (Json.isReadBy_iff fun token => (Condition.reads_parse token).not_long_iff)

instance {j : Json} : Decidable (j.IsToken Change.HasLongNumeral) :=
  decidable_of_iff _ (Json.isReadBy_iff fun token => (Change.reads_parse token).not_long_iff)

instance : (j : Json) → Decidable (∃ id, j = .str id)
  | .str id => .isTrue ⟨id, rfl⟩
  | .null | .bool _ | .int _ | .float _ | .arr _ | .obj _ => .isFalse nofun

instance {c : Choice} : Decidable c.IsReadable :=
  decidable_of_iff (_ ∧ _ ∧ _)
    ⟨fun h => ⟨h.1, h.2.1, h.2.2⟩, fun h => ⟨h.requirements, h.effects, h.ruleIds⟩⟩

instance {r : Rule} : Decidable r.IsReadable :=
  decidable_of_iff (_ ∧ _) ⟨fun h => ⟨h.1, h.2⟩, fun h => ⟨h.requirements, h.effects⟩⟩

instance {b : Book} : Decidable b.IsReadable :=
  inferInstanceAs (Decidable (∀ s ∈ b.sections, ∀ c ∈ s.choices, c.IsReadable))

instance {c : Catalog} : Decidable c.IsReadable :=
  inferInstanceAs (Decidable (∀ r ∈ c.rules, r.IsReadable))

/-! ## Tokens -/

theorem Requirement.exists_ofJson {j : Json} (h : j.IsToken Condition.HasLongNumeral) :
    ∃ r, Requirement.ofJson j = .ok r := by
  obtain ⟨token, rfl, hshort⟩ := h
  obtain ⟨condition, hparse, -⟩ := (Condition.reads_parse token.toList).exists_of_not_long hshort
  exact ⟨_, Requirement.parse_eq hparse⟩

theorem Effect.exists_ofJson {j : Json} (h : j.IsToken Change.HasLongNumeral) :
    ∃ e, Effect.ofJson j = .ok e := by
  obtain ⟨token, rfl, hshort⟩ := h
  obtain ⟨change, hparse, -⟩ := (Change.reads_parse token.toList).exists_of_not_long hshort
  exact ⟨_, Effect.parse_eq hparse⟩

/-! ## What governs a choice -/

namespace Catalog

variable {c : Catalog}

/-- A rule that is found is a rule of the catalog. -/
theorem mem_of_findJson? {j : Json} {r : Rule} (h : c.findJson? j = .ok (some r)) : r ∈ c.rules := by
  cases j with
  | str id =>
      have hfound : c.find? id = some r := Except.ok.inj h
      unfold find? at hfound
      split at hfound
      · cases hfound
      · exact List.mem_of_find?_eq_some hfound
  | _ => cases h

/-- The rules of ids are found if none of the ids is a fault, and they are rules of the catalog. -/
theorem exists_resolve {ids : List Json} (h : ∀ j ∈ ids, ∃ r, c.findJson? j = .ok r) :
    ∃ rules, c.resolve ids = .ok rules ∧ ∀ r ∈ rules, r ∈ c.rules := by
  induction ids with
  | nil => exact ⟨[], rfl, nofun⟩
  | cons j ids ih =>
      obtain ⟨found, hfound⟩ := h j (by simp)
      obtain ⟨rules, hrules, hmem⟩ := ih fun k hk => h k (by simp [hk])
      unfold resolve
      rw [hfound, hrules]
      cases found with
      | none => exact ⟨rules, rfl, hmem⟩
      | some r => exact ⟨r :: rules, rfl, List.forall_mem_cons.mpr ⟨mem_of_findJson? hfound, hmem⟩⟩

/-- Whether a value is a requirement token of a choice, or of a rule. -/
def HasRequirement (c : Catalog) (choice : Choice) (j : Json) : Prop :=
  j ∈ choice.requirements ∨ ∃ r ∈ c.rules, j ∈ r.requirements

/-- Whether a value is an effect token of a choice, or of a rule. -/
def HasEffect (c : Catalog) (choice : Choice) (j : Json) : Prop :=
  j ∈ choice.effects ∨ ∃ r ∈ c.rules, j ∈ r.effects

/-- What governs a choice is read if none of the ids and tokens is a fault, and it comes from tokens of
the choice or of rules. -/
theorem exists_rulesFor_of_tokens {choice : Choice}
    (hids : ∀ j ∈ choice.ruleIds, ∃ r, c.findJson? j = .ok r)
    (hrequirements : ∀ j, c.HasRequirement choice j → ∃ q, Requirement.ofJson j = .ok q)
    (heffects : ∀ j, c.HasEffect choice j → ∃ e, Effect.ofJson j = .ok e) :
    ∃ rules, c.rulesFor choice = .ok rules ∧
      (∀ q ∈ rules.requirements, ∃ j, c.HasRequirement choice j ∧ Requirement.ofJson j = .ok q) ∧
      ∀ e ∈ rules.effects, ∃ j, c.HasEffect choice j ∧ Effect.ofJson j = .ok e := by
  obtain ⟨named, hnamed, hmem⟩ := c.exists_resolve hids
  have hfrom : ∀ {own : List Json} {tokens : Rule → List Json},
      ∀ j ∈ own ++ named.flatMap tokens, j ∈ own ∨ ∃ r ∈ c.rules, j ∈ tokens r := by
    intro own tokens j hj
    rcases List.mem_append.mp hj with hj | hj
    · exact Or.inl hj
    · obtain ⟨r, hr, hj⟩ := List.mem_flatMap.mp hj
      exact Or.inr ⟨r, hmem r hr, hj⟩
  obtain ⟨requirements, hrs⟩ := exists_mapM fun j hj => hrequirements j (hfrom j hj)
  obtain ⟨effects, hes⟩ := exists_mapM fun j hj => heffects j (hfrom j hj)
  have htokens : c.tokensFor choice = .ok (choice.requirements ++ named.flatMap Rule.requirements,
      choice.effects ++ named.flatMap Rule.effects) := by
    unfold tokensFor
    rw [hnamed]
    rfl
  refine ⟨{ requirements, effects }, ?_, fun q hq => ?_, fun e he => ?_⟩
  · unfold rulesFor
    rw [htokens]
    simp only [bind, Except.bind, hrs, hes]
    rfl
  · obtain ⟨j, hj, hread⟩ := mem_of_mapM hrs q hq
    exact ⟨j, hfrom j hj, hread⟩
  · obtain ⟨j, hj, hread⟩ := mem_of_mapM hes e he
    exact ⟨j, hfrom j hj, hread⟩

/-- **What governs a choice is read** if the choice and the rules can be read. -/
theorem exists_rulesFor (hc : c.IsReadable) {choice : Choice} (h : choice.IsReadable) :
    ∃ rules, c.rulesFor choice = .ok rules := by
  have hids : ∀ j ∈ choice.ruleIds, ∃ r, c.findJson? j = .ok r := by
    intro j hj
    obtain ⟨id, rfl⟩ := h.ruleIds j hj
    exact ⟨_, rfl⟩
  have hrequirements : ∀ j, c.HasRequirement choice j → ∃ q, Requirement.ofJson j = .ok q := by
    rintro j (hj | ⟨r, hr, hj⟩)
    · exact Requirement.exists_ofJson (h.requirements j hj)
    · exact Requirement.exists_ofJson ((hc r hr).requirements j hj)
  have heffects : ∀ j, c.HasEffect choice j → ∃ e, Effect.ofJson j = .ok e := by
    rintro j (hj | ⟨r, hr, hj⟩)
    · exact Effect.exists_ofJson (h.effects j hj)
    · exact Effect.exists_ofJson ((hc r hr).effects j hj)
  obtain ⟨rules, hrules, -⟩ := exists_rulesFor_of_tokens hids hrequirements heffects
  exact ⟨rules, hrules⟩

end Catalog

/-! ## The built-in rules -/

/-- Whether a document states rules that can be read, or none. -/
def StatesReadable (j : Json) : Prop :=
  ∀ c, Catalog.ofJson j = .ok c → c.IsReadable

instance {j : Json} : Decidable (StatesReadable j) :=
  match h : Catalog.ofJson j with
  | .ok c => decidable_of_iff c.IsReadable
      ⟨fun hc d hd => Except.ok.inj (h.symm.trans hd) ▸ hc, fun hall => hall c h⟩
  | .error _ => .isTrue fun c hc => by rw [h] at hc; cases hc

namespace Series

theorem statesReadable_of_builtIn? {name : String} {j : Json} (h : builtIn? name = some j) :
    StatesReadable j := by
  have hall : ∀ d ∈ builtIn, StatesReadable d.2 := by decide +kernel
  obtain ⟨d, hd, rfl⟩ := Option.map_eq_some_iff.mp h
  exact hall d (List.mem_of_find?_eq_some hd)

/-- **The built-in rules of every key can be read.** -/
theorem isReadable_of_loadCatalog {files : FileTree} {key : String}
    (hfile : files.isFile (Path.parse (Text.trim key)) = false) {c : Catalog}
    (h : loadCatalog files (some key) = .ok c) : c.IsReadable := by
  obtain ⟨found, hfound, hcatalog⟩ := bind_eq_ok_iff.mp h
  have hbuiltIn : ∀ name family, found = builtInOrDefault name family → c.IsReadable := by
    rintro name family rfl
    unfold builtInOrDefault at hcatalog
    split at hcatalog
    · next j hj => exact statesReadable_of_builtIn? hj c hcatalog
    · cases hj : builtIn? (family ++ ".json") with
      | some j =>
          rw [hj] at hcatalog
          exact statesReadable_of_builtIn? hj c hcatalog
      | none =>
          rw [hj] at hcatalog
          cases hcatalog
          exact nofun
  unfold loadDocument at hfound
  simp only [hfile] at hfound
  split at hfound
  · exact hbuiltIn _ _ (Except.ok.inj hfound).symm
  · exact hbuiltIn _ _ (Except.ok.inj hfound).symm

end Series

end Questbook
