import Questbook.Proofs.Catalog.Reading
import Questbook.Proofs.Combat.Reading
import Questbook.Proofs.Files
import Questbook.Proofs.Json.LongNumeral
import Questbook.Proofs.Json.Same
import Questbook.Series.Resource

set_option autoImplicit false

/-! # What comes of an author's documents

A key that is the path of a file loads the document in this file. Text that is no object gives the empty
table and the empty catalog. Of an object those entries are kept that state a band or a rule, unless
something breaks the reading off (`loads_degrade`): a numeral that is too long, a number in the place of a
list, or an entry of a kind that is not skipped (`RatioBand.Breaks`, `Rule.Breaks`).
-/

namespace Questbook.Series

open Json

variable {files : FileTree} {key family : String} {bytes : ByteArray}

/-! ## The document of a file -/

/-- A file that is there is taken first. -/
theorem loadDocument_of_read (hkey : Text.isBlank key = false)
    (hread : files.read (Path.parse (Text.trim key)) = .ok bytes) :
    loadDocument files (some key) family = readObject files (Path.parse (Text.trim key)) := by
  simp only [loadDocument, hkey, FileTree.isFile_of_read hread, Bool.false_eq_true, if_false, if_true]

theorem loadDocument_of_obj {fs : List (String × Json)} (hkey : Text.isBlank key = false)
    (hread : files.read (Path.parse (Text.trim key)) = .ok bytes)
    (hbytes : readBytes bytes = .ok (.obj fs)) :
    loadDocument files (some key) family = .ok (some (.obj fs)) := by
  rw [loadDocument_of_read hkey hread, readObject, hread]
  simp only [hbytes]

theorem loadDocument_of_long (hkey : Text.isBlank key = false)
    (hread : files.read (Path.parse (Text.trim key)) = .ok bytes)
    (hbytes : readBytes bytes = .error .longNumeral) :
    loadDocument files (some key) family = .error .longNumeral := by
  rw [loadDocument_of_read hkey hread, readObject, hread]
  simp only [hbytes]

theorem loadDocument_of_no_obj (hkey : Text.isBlank key = false)
    (hread : files.read (Path.parse (Text.trim key)) = .ok bytes)
    (hobj : ∀ fs, readBytes bytes ≠ .ok (.obj fs)) (hlong : readBytes bytes ≠ .error .longNumeral) :
    loadDocument files (some key) family = .ok none := by
  rw [loadDocument_of_read hkey hread, readObject, hread]
  cases hbytes : readBytes bytes with
  | error e =>
      cases e with
      | malformed => simp only [hbytes]
      | longNumeral => exact absurd hbytes hlong
  | ok j =>
      cases j with
      | obj fs => exact absurd hbytes (hobj fs)
      | _ => simp only [hbytes]

/-! ## Tables and catalogs -/

/-- **The faults of bytes whose entries are not all read or skipped.** -/
inductive Escapes (name : String) (breaks : Json → Fault → Prop) (bytes : ByteArray) : Fault → Prop
  | longNumeral (h : readBytes bytes = .error .longNumeral) : Escapes name breaks bytes .longNumeral
  | entries {fs : List (String × Json)} {f : Fault} (h : readBytes bytes = .ok (.obj fs))
      (hbreaks : (Json.obj fs).ListBreaks name breaks f) : Escapes name breaks bytes f

/-- **Whether a document degrades to the entries that can be used:** if it is no object, there are none;
if it is one, what is loaded is what `keeps` says of the entries that it lists under a name. -/
structure Degrades {α : Type} (bytes : ByteArray) (name : String) (breaks : Json → Fault → Prop)
    (keeps : List Json → α → Prop) (loaded : Except Fault α) : Prop where
  noObject : (∀ fs, readBytes bytes ≠ .ok (.obj fs)) → readBytes bytes ≠ .error .longNumeral →
    ∃ a, loaded = .ok a ∧ keeps [] a
  object : ∀ fs a, readBytes bytes = .ok (.obj fs) → loaded = .ok a →
    ∃ js, (Json.obj fs).listed name = .ok js ∧ keeps js a
  faults : ∀ f, loaded = .error f ↔ Escapes name breaks bytes f

/-- What is loaded degrades if what is read from an object does. -/
theorem degrades_of_ofJson {α : Type} {ofJson : Json → Except Fault α} {name : String}
    {breaks : Json → Fault → Prop} {keeps : List Json → α → Prop} (hkey : Text.isBlank key = false)
    (hread : files.read (Path.parse (Text.trim key)) = .ok bytes)
    (hnull : ∃ a, ofJson .null = .ok a ∧ keeps [] a)
    (hkeeps : ∀ fs a, readBytes bytes = .ok (.obj fs) → ofJson (.obj fs) = .ok a →
      ∃ js, (Json.obj fs).listed name = .ok js ∧ keeps js a)
    (hbreaks : ∀ fs f, readBytes bytes = .ok (.obj fs) →
      (ofJson (.obj fs) = .error f ↔ (Json.obj fs).ListBreaks name breaks f)) :
    Degrades bytes name breaks keeps
      (loadDocument files (some key) family >>= fun found => ofJson (found.getD .null)) := by
  constructor
  · intro hobj hlong
    rw [loadDocument_of_no_obj hkey hread hobj hlong]
    exact hnull
  · intro fs a hbytes ha
    rw [loadDocument_of_obj hkey hread hbytes] at ha
    exact hkeeps fs a hbytes ha
  · intro f
    constructor
    · intro hf
      by_cases hobj : ∃ fs, readBytes bytes = .ok (.obj fs)
      · obtain ⟨fs, hbytes⟩ := hobj
        rw [loadDocument_of_obj hkey hread hbytes] at hf
        exact .entries hbytes ((hbreaks fs f hbytes).mp hf)
      · by_cases hlong : readBytes bytes = .error .longNumeral
        · rw [loadDocument_of_long hkey hread hlong] at hf
          obtain rfl : .longNumeral = f := Except.error.inj hf
          exact .longNumeral hlong
        · obtain ⟨a, ha, -⟩ := hnull
          have hnone : ∀ fs, readBytes bytes ≠ .ok (.obj fs) := fun fs hfs => hobj ⟨fs, hfs⟩
          rw [loadDocument_of_no_obj hkey hread hnone hlong] at hf
          exact absurd (ha.symm.trans hf) nofun
    · intro hf
      cases hf with
      | longNumeral hlong =>
          rw [loadDocument_of_long hkey hread hlong]
          rfl
      | entries hbytes hlist =>
          rw [loadDocument_of_obj hkey hread hbytes]
          exact (hbreaks _ f hbytes).mpr hlist

/-- **What is loaded from a file of an author's own.** The table keeps the bands that the entries of the
document state, sorted stably, and the catalog the rules that they state, the first of each id. The faults
are those of a numeral that is too long and of lists whose reading is broken off. -/
theorem loads_degrade (hkey : Text.isBlank key = false)
    (hread : files.read (Path.parse (Text.trim key)) = .ok bytes) :
    Degrades bytes "ratios" RatioBand.Breaks
        (fun js (table : CombatTable) => SortedStably table.bands (js.filterMap bandOf?))
        (loadTable files (some key)) ∧
      Degrades bytes "rules" Rule.Breaks
        (fun js (catalog : Catalog) => catalog.KeepsFirst (js.filterMap ruleOf?))
        (loadCatalog files (some key)) ∧
      (readBytes bytes = .error .longNumeral →
        ∃ s, String.fromUTF8? bytes = some s ∧ HasLongRun s.toList) := by
  refine ⟨?_, ?_, exists_longRun_of_readBytes⟩
  · refine degrades_of_ofJson hkey hread ⟨{}, rfl, sortedStably_sortBands []⟩ ?_ ?_
    · exact fun fs t _ ht => CombatTable.sortedStably_of_ofJson ht
    · exact fun fs f _ => CombatTable.ofJson_eq_error_iff
  · refine degrades_of_ofJson hkey hread ⟨{}, rfl, Catalog.keepsFirst_empty⟩ ?_ ?_
    · exact fun fs c hbytes hc => Catalog.keepsFirst_of_ofJson (hasText_of_readBytes hbytes) hc
    · exact fun fs f hbytes => Catalog.ofJson_eq_error_iff (hasText_of_readBytes hbytes)

/-! ## A document with a broken rule, and one without a list -/

/-- A document with bands in descending order, two entries that are none, and a rule whose effects are a
number. -/
def brokenRule : ByteArray :=
  ("\x7b\"ratios\":[\x7b\"min\":3\x7d,7,\x7b\"min\":\"low\"\x7d,\x7b\"min\":1\x7d]," ++
    "\"rules\":[\x7b\"id\":\"toll\",\"effects\":5\x7d]\x7d").toUTF8

/-- A document with a number in the place of the list of bands. -/
def noList : ByteArray := "\x7b\"ratios\":5\x7d".toUTF8

/-- A directory with one document. -/
def documentAlone (bytes : ByteArray) : FileTree where
  nodes := [(["t.json"], .file bytes)]

theorem isBlank_t_json : Text.isBlank "t.json" = false := by
  decide +kernel

theorem read_documentAlone (bytes : ByteArray) :
    (documentAlone bytes).read (Path.parse (Text.trim "t.json")) = .ok bytes := by
  have hpath : Path.parse (Text.trim "t.json") = { parts := ["t.json"] } := by decide +kernel
  have hresolve : (documentAlone bytes).resolve { parts := ["t.json"] } = .ok ["t.json"] :=
    FileTree.resolve_eq_ok_iff.mpr ⟨by decide +kernel, by decide +kernel, rfl⟩
  rw [hpath]
  exact FileTree.read_of_node? hresolve rfl

/-- The bands of the document are sorted, and the catalog is not loaded. -/
theorem loads_degrade_broken_rule :
    Text.isBlank "t.json" = false ∧
      (documentAlone brokenRule).read (Path.parse (Text.trim "t.json")) = .ok brokenRule ∧
      (∀ table, loadTable (documentAlone brokenRule) (some "t.json") = .ok table →
        SortedStably table.bands [⟨3, 0, []⟩, ⟨1, 0, []⟩]) ∧
      loadCatalog (documentAlone brokenRule) (some "t.json") = .error .notIterable := by
  have hbytes : readBytes brokenRule = .ok (.obj [
      ("ratios", .arr [.obj [("min", .int 3)], .int 7, .obj [("min", .str "low")],
        .obj [("min", .int 1)]]),
      ("rules", .arr [.obj [("id", .str "toll"), ("effects", .int 5)]])]) :=
    eq_ok_of_isSame (by decide +kernel)
  obtain ⟨htable, hcatalog, -⟩ := loads_degrade isBlank_t_json (read_documentAlone brokenRule)
  refine ⟨isBlank_t_json, read_documentAlone brokenRule, fun table ht => ?_, ?_⟩
  · obtain ⟨js, hjs, hkept⟩ := htable.object _ table hbytes ht
    obtain rfl := Except.ok.inj hjs
    exact hkept
  · have hrule : Rule.Breaks (.obj [("id", .str "toll"), ("effects", .int 5)]) .notIterable :=
      ⟨rfl, Or.inr ⟨.int 5, _, rfl, rfl, rfl⟩⟩
    exact (hcatalog.faults _).mpr
      (.entries hbytes (@ListBreaks.entry _ _ _ [] [] _ _ rfl nofun hrule))

/-- **A table without a list of bands** is not loaded, as an empty one either. -/
theorem loadTable_no_list :
    (documentAlone noList).read (Path.parse (Text.trim "t.json")) = .ok noList ∧
      ∀ table, loadTable (documentAlone noList) (some "t.json") ≠ .ok table := by
  have hread := read_documentAlone noList
  have hbytes : readBytes noList = .ok (.obj [("ratios", .int 5)]) :=
    eq_ok_of_isSame (by decide +kernel)
  have hbreaks : CombatTable.ofJson (.obj [("ratios", .int 5)]) = .error .notIterable :=
    CombatTable.ofJson_eq_error_iff.mpr (.notIterable ⟨.int 5, _, rfl, rfl, rfl⟩)
  have hload : loadTable (documentAlone noList) (some "t.json") = .error .notIterable := by
    rw [loadTable, loadDocument_of_obj isBlank_t_json hread hbytes]
    exact hbreaks
  rw [hload]
  exact ⟨hread, nofun⟩

end Questbook.Series
