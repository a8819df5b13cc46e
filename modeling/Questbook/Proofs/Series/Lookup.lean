import Questbook.Engine
import Questbook.Proofs.Series.Cache
import Questbook.Proofs.Series.Key

set_option autoImplicit false

/-! # Lookups of resources

What an engine gives for a key does not depend on what it has been asked for before: what has been
loaded is what would be loaded (`Engine.SameAnswers`), as long as the files stay as they are.

An engine loads by normal forms. This gives what loading by the key itself gives for each key whose
document is kept by its normal form (`Series.KeepsDocument`). That excludes files under names in
capitals or with spaces that do not end in `.json`: these can be loaded by their paths, but no
engine finds them.
-/

namespace Questbook

/-! ## Engines -/

namespace Engine

/-- **Whether two engines give the same resources** for all keys, or the same faults. -/
structure SameAnswers (files : FileTree) (e e' : Engine) : Prop where
  table : ∀ key, ((tableOf files key).result e').1 = ((tableOf files key).result e).1
  catalog : ∀ key, ((catalogOf files key).result e').1 = ((catalogOf files key).result e).1

section

variable {files : FileTree} {e e' e'' : Engine}

theorem SameAnswers.refl (files : FileTree) (e : Engine) : SameAnswers files e e :=
  ⟨fun _ => rfl, fun _ => rfl⟩

theorem SameAnswers.symm (h : SameAnswers files e e') : SameAnswers files e' e :=
  ⟨fun key => (h.table key).symm, fun key => (h.catalog key).symm⟩

theorem SameAnswers.trans (h : SameAnswers files e e') (h' : SameAnswers files e' e'') :
    SameAnswers files e e'' :=
  ⟨fun key => (h'.table key).trans (h.table key), fun key => (h'.catalog key).trans (h.catalog key)⟩

theorem sameAnswers_tableOf (files : FileTree) (key : Option String) (e : Engine) :
    SameAnswers files e ((tableOf files key).result e).2 :=
  ⟨fun other => e.tables.result_getOrLoad_after key other, fun _ => rfl⟩

theorem sameAnswers_catalogOf (files : FileTree) (key : Option String) (e : Engine) :
    SameAnswers files e ((catalogOf files key).result e).2 :=
  ⟨fun _ => rfl, fun other => e.catalogs.result_getOrLoad_after key other⟩

end

/-- The engine after a lookup. -/
def afterLookup (files : FileTree) (e : Engine) : ResourceFamily × Option String → Engine
  | (.table, key) => ((tableOf files key).result e).2
  | (.catalog, key) => ((catalogOf files key).result e).2

/-- **The engine after a list of lookups.** -/
def afterLookups (files : FileTree) (e : Engine) (asked : List (ResourceFamily × Option String)) :
    Engine :=
  asked.foldl (afterLookup files) e

theorem sameAnswers_afterLookup (files : FileTree) (e : Engine)
    (lookup : ResourceFamily × Option String) : SameAnswers files e (e.afterLookup files lookup) := by
  rcases lookup with ⟨family, key⟩
  cases family with
  | table => exact sameAnswers_tableOf files key e
  | catalog => exact sameAnswers_catalogOf files key e

/-- **Lookups change no answers.** -/
theorem sameAnswers_afterLookups (files : FileTree) (e : Engine)
    (asked : List (ResourceFamily × Option String)) :
    SameAnswers files e (e.afterLookups files asked) := by
  induction asked generalizing e with
  | nil => exact .refl files e
  | cons lookup asked ih =>
      exact (sameAnswers_afterLookup files e lookup).trans (ih (e.afterLookup files lookup))

/-- An engine that has loaded nothing yet loads by the normal form. -/
theorem tableOf_of_empty (files : FileTree) (source : RollSource) (key : Option String) :
    ((tableOf files key).result { source }).1 =
      Series.loadTable files (some (Series.normalKey key)) :=
  SeriesCache.result_getOrLoad {} key

theorem catalogOf_of_empty (files : FileTree) (source : RollSource) (key : Option String) :
    ((catalogOf files key).result { source }).1 =
      Series.loadCatalog files (some (Series.normalKey key)) :=
  SeriesCache.result_getOrLoad {} key

end Engine

/-! ## Documents -/

namespace Series

/-- **Whether the normal form of a key leads to the document of the key.** -/
inductive KeepsDocument (files : FileTree) : Option String → Prop
  /-- The key is blank, and no file has the name of the default series. -/
  | blank {key : Option String} (blank : ∀ s, key = some s → Text.isBlank s = true)
      (unfiled : files.isFile (Path.parse defaultKey) = false) : KeepsDocument files key
  /-- The key, without the blanks around it, is in its normal form. -/
  | spelled {s : String} (kept : normalKey (some s) = Text.trim s) : KeepsDocument files (some s)
  /-- Neither the key nor its normal form is the path of a file, and the normal form is not the name
  of a built-in document. -/
  | unfiled {s : String} (blank : Text.isBlank s = false)
      (key : files.isFile (Path.parse (Text.trim s)) = false)
      (normal : files.isFile (Path.parse (normalKey (some s))) = false)
      (builtIn : namesDocument (normalKey (some s)) = true → builtIn? (normalKey (some s)) = none) :
      KeepsDocument files (some s)

section

variable {files : FileTree} {family s : String}

theorem loadDocument_of_blank {key : Option String} (h : ∀ s, key = some s → Text.isBlank s = true) :
    loadDocument files key family = .ok (builtInOrDefault (family ++ ".json") family) := by
  cases key with
  | none => rfl
  | some s => simp only [loadDocument, documentName?, h s rfl, if_true, Option.getD_none]

theorem loadDocument_of_not_file (h : Text.isBlank s = false)
    (hfile : files.isFile (Path.parse (Text.trim s)) = false) :
    loadDocument files (some s) family =
      .ok (builtInOrDefault ((documentName? (some s) family).getD (family ++ ".json")) family) := by
  simp only [loadDocument, h, hfile, Bool.false_eq_true, if_false]

/-- Of a key that names no document, the series is what counts. -/
theorem documentName?_of_not_namesDocument (h : Text.isBlank s = false)
    (hname : namesDocument (Text.trim s) = false) :
    documentName? (some s) family =
      (middles.lookup (normalKey (some s))).map fun m => family ++ m ++ ".json" := by
  have hagain : normalKey (some (Text.trim s)) = normalKey (some s) := by
    rw [normalKey_of_not_namesDocument h hname,
      normalKey_of_not_namesDocument (Text.isBlank_trim h) (by rwa [Text.trim_trim]), plainKey,
      Text.trim_trim, plainKey]
  simp only [documentName?, h, hname, Bool.false_eq_true, if_false, hagain]

theorem builtInOrDefault_default :
    builtInOrDefault (family ++ ".json") family = builtIn? (family ++ ".json") := by
  unfold builtInOrDefault
  cases builtIn? (family ++ ".json") <;> rfl

/-- No series has a key that names a document. -/
theorem lookup_middles_of_namesDocument {key : String} (h : namesDocument key = true) :
    middles.lookup key = none := by
  have hnone : ∀ m ∈ middles, namesDocument m.1 = false := by decide +kernel
  cases hkey : middles.lookup key with
  | none => rfl
  | some m =>
      rw [hnone _ (mem_of_lookup hkey)] at h
      cases h

theorem loadDocument_default (hfile : files.isFile (Path.parse defaultKey) = false) :
    loadDocument files (some defaultKey) family =
      .ok (builtInOrDefault (family ++ ".json") family) := by
  have htrim : Text.trim defaultKey = defaultKey := trim_normalKey none
  have hblank : Text.isBlank defaultKey = false := isBlank_normalKey none
  have hname : namesDocument (Text.trim defaultKey) = false := by decide +kernel
  have hmiddle : middles.lookup (normalKey (some defaultKey)) = some "" := by decide +kernel
  rw [loadDocument_of_not_file hblank (by rwa [htrim]),
    documentName?_of_not_namesDocument hblank hname, hmiddle, Option.map_some, Option.getD_some,
    String.append_empty]

/-- A key in its normal form, but for the blanks around it, is loaded as the normal form is. -/
theorem loadDocument_trim (h : Text.isBlank s = false) :
    loadDocument files (some (Text.trim s)) family = loadDocument files (some s) family := by
  simp only [loadDocument, documentName?, h, Text.isBlank_trim h, Text.trim_trim]

/-- **What has no file under either spelling** is loaded from what is built in. -/
theorem loadDocument_unfiled (h : Text.isBlank s = false)
    (hname : namesDocument (Text.trim s) = false)
    (hkey : files.isFile (Path.parse (Text.trim s)) = false)
    (hnormal : files.isFile (Path.parse (plainKey s)) = false)
    (hbuiltIn : namesDocument (plainKey s) = true → builtIn? (plainKey s) = none) :
    loadDocument files (some (plainKey s)) family = loadDocument files (some s) family := by
  have htrim : Text.trim (plainKey s) = plainKey s := Text.trim_of_trimmed (trimmed_plainKey s)
  have hblank : Text.isBlank (plainKey s) = false :=
    Text.isBlank_of_trimmed (trimmed_plainKey s) (plainKey_ne_empty h)
  rw [loadDocument_of_not_file hblank (by rw [htrim]; exact hnormal),
    loadDocument_of_not_file h hkey, documentName?_of_not_namesDocument h hname,
    normalKey_of_not_namesDocument h hname]
  cases hplain : namesDocument (plainKey s) with
  | true =>
      -- the normal form names a document that is not there, and stands for no series
      have hnone : builtInOrDefault (plainKey s) family = builtIn? (family ++ ".json") := by
        rw [builtInOrDefault, hbuiltIn hplain]
      have hspelled : documentName? (some (plainKey s)) family = some (plainKey s) := by
        simp only [documentName?, hblank, htrim, hplain, if_true, Bool.false_eq_true, if_false]
      rw [hspelled, lookup_middles_of_namesDocument hplain, Option.map_none, Option.getD_none,
        Option.getD_some, hnone, builtInOrDefault_default]
  | false =>
      rw [documentName?_of_not_namesDocument hblank (by rw [htrim]; exact hplain),
        lookup_middles_normalKey h hplain]

/-- **The normal form of a key loads the document of the key,** where it keeps it. -/
theorem KeepsDocument.loadDocument_eq {key : Option String} (h : KeepsDocument files key) :
    loadDocument files (some (normalKey key)) family = loadDocument files key family := by
  cases h with
  | @blank key hblank hfile =>
      have hkey : normalKey key = defaultKey := by
        cases key with
        | none => rfl
        | some s => exact normalKey_of_blank (hblank s rfl)
      rw [hkey, loadDocument_default hfile, loadDocument_of_blank hblank]
  | @spelled s hkept =>
      have hblank : Text.isBlank s = false := by
        rw [← Bool.not_eq_true, Text.isBlank_iff_trim]
        intro hempty
        have hnormal := isBlank_normalKey (some s)
        rw [hkept, hempty] at hnormal
        cases hnormal
      rw [hkept, loadDocument_trim hblank]
  | @unfiled s hblank hkey hnormal hbuiltIn =>
      cases hname : namesDocument (Text.trim s) with
      | true => rw [normalKey_of_namesDocument hblank hname, loadDocument_trim hblank]
      | false =>
          rw [normalKey_of_not_namesDocument hblank hname] at hnormal hbuiltIn ⊢
          exact loadDocument_unfiled hblank hname hkey hnormal hbuiltIn

end

end Series

/-! ## The two ways to load -/

/-- **An engine looks up what loading gives.** After any lookups, an engine that had loaded nothing
gives the table and the catalog that the normal form of the key loads, and where the normal form keeps
the document of the key, what the key itself loads; faults included. -/
theorem lookups_eq_loads (files : FileTree) (source : RollSource)
    (asked : List (ResourceFamily × Option String)) (key : Option String) :
    let e := Engine.afterLookups files { source } asked
    ((Engine.tableOf files key).result e).1 = Series.loadTable files (some (Series.normalKey key)) ∧
      ((Engine.catalogOf files key).result e).1 =
        Series.loadCatalog files (some (Series.normalKey key)) ∧
      (Series.KeepsDocument files key →
        ((Engine.tableOf files key).result e).1 = Series.loadTable files key ∧
          ((Engine.catalogOf files key).result e).1 = Series.loadCatalog files key) := by
  intro e
  have hsame := Engine.sameAnswers_afterLookups files { source } asked
  have htable : ((Engine.tableOf files key).result e).1 =
      Series.loadTable files (some (Series.normalKey key)) :=
    (hsame.table key).trans (Engine.tableOf_of_empty files source key)
  have hcatalog : ((Engine.catalogOf files key).result e).1 =
      Series.loadCatalog files (some (Series.normalKey key)) :=
    (hsame.catalog key).trans (Engine.catalogOf_of_empty files source key)
  refine ⟨htable, hcatalog, fun hkeeps => ⟨?_, ?_⟩⟩
  · rw [htable, Series.loadTable, hkeeps.loadDocument_eq, Series.loadTable]
  · rw [hcatalog, Series.loadCatalog, hkeeps.loadDocument_eq, Series.loadCatalog]

/-- A working directory with rules of an author's own, in a file that has a capital in its name. -/
def houseRules : FileTree where
  nodes := [(["House.rules"], .file "\x7b\"rules\":[\x7b\"id\":\"toll\"\x7d]\x7d".toUTF8)]

/-- The ids of the rules of a catalog. -/
def ruleIds (r : Except Fault Catalog) : Option (List String) :=
  r.toOption.map fun c => c.rules.map Rule.id

/-- The rules of a series are looked up as they are loaded, whatever has been looked up before. -/
theorem lookups_eq_loads_lone_wolf :
    let e := Engine.afterLookups houseRules { source := .ofSeed 0 } [(.catalog, some "House.rules")]
    Series.KeepsDocument houseRules (some " Lone Wolf ") ∧
      ((Engine.tableOf houseRules (some " Lone Wolf ")).result e).1 =
        Series.loadTable houseRules (some " Lone Wolf ") ∧
      ((Engine.catalogOf houseRules (some " Lone Wolf ")).result e).1 =
        Series.loadCatalog houseRules (some " Lone Wolf ") := by
  intro e
  have hkeeps : Series.KeepsDocument houseRules (some " Lone Wolf ") :=
    .unfiled (by decide +kernel) (by decide +kernel) (by decide +kernel) (by decide +kernel)
  have hagree := lookups_eq_loads houseRules (.ofSeed 0) [(.catalog, some "House.rules")]
    (some " Lone Wolf ")
  exact ⟨hkeeps, hagree.2.2 hkeeps⟩

/-- **No engine finds a file that has a capital in its name,** unless the name ends in `.json`. The file
is loaded by its path. -/
theorem lookup_misses_capital :
    ((Engine.catalogOf houseRules (some "House.rules")).result { source := .ofSeed 0 }).1 ≠
      Series.loadCatalog houseRules (some "House.rules") := by
  have hnormal : Series.normalKey (some "House.rules") = "house.rules" := by decide +kernel
  have hload : ruleIds (Series.loadCatalog houseRules (some "House.rules")) = some ["toll"] := by
    decide +kernel
  have hlookup : ruleIds (Series.loadCatalog houseRules (some "house.rules")) =
      some ["eat-meal", "missed-meal", "pay-gold-crown"] := by
    decide +kernel
  rw [Engine.catalogOf_of_empty, hnormal]
  intro hsame
  rw [hsame, hload] at hlookup
  revert hlookup
  decide

end Questbook
