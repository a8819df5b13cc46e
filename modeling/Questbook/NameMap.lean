import Questbook.Json.Basic
import Questbook.Text.CaseFold

set_option autoImplicit false

/-! # Maps keyed by names without regard to case

A `NameMap` keeps values under names. Two spellings that fold to the same text are the same name.
The map remembers the spelling with which a name came in and lists its entries in the order in
which the names came in; writing under a known name keeps both, and erasing a name forgets both.

The invariant that no two entries have the same name is part of the type. What each operation does
is said of the list of entries by the functions on lists in the first part: `keysOf_put` and
`keysOf_erase` state it for the names.
-/

namespace Questbook

namespace NameMap

variable {α : Type}

/-! ## Entries -/

/-- The folded names of a list of entries. -/
def keysOf (es : List (String × α)) : List String :=
  es.map fun e => Text.fold e.1

/-- The value under a name. -/
def lookup? (es : List (String × α)) (name : String) : Option α :=
  match es with
  | [] => none
  | e :: es => if Text.fold e.1 = Text.fold name then some e.2 else lookup? es name

/-- The entries with a value under a name: in the place of the old one, or at the end. -/
def put (es : List (String × α)) (name : String) (value : α) : List (String × α) :=
  match es with
  | [] => [(name, value)]
  | e :: es =>
    if Text.fold e.1 = Text.fold name then (e.1, value) :: es else e :: put es name value

/-- The entries without the one under a name. -/
def erase (es : List (String × α)) (name : String) : List (String × α) :=
  es.filter fun e => Text.fold e.1 ≠ Text.fold name

theorem keysOf_put (es : List (String × α)) (name : String) (value : α) :
    keysOf (put es name value) =
      if Text.fold name ∈ keysOf es then keysOf es else keysOf es ++ [Text.fold name] := by
  induction es with
  | nil => simp [put, keysOf]
  | cons e es ih =>
    by_cases h : Text.fold e.1 = Text.fold name
    · simp [put, keysOf, h]
    · have h' : Text.fold name ≠ Text.fold e.1 := fun x => h x.symm
      simp only [put, h, if_false]
      by_cases hm : Text.fold name ∈ keysOf es
      · have : keysOf (put es name value) = keysOf es := by simpa [hm] using ih
        simp only [keysOf, List.map_cons] at this ⊢
        simp only [keysOf] at hm
        simp [this, hm]
      · have : keysOf (put es name value) = keysOf es ++ [Text.fold name] := by
          simpa [hm] using ih
        simp only [keysOf, List.map_cons] at this ⊢
        simp only [keysOf] at hm
        simp [this, hm, h']

theorem keysOf_erase (es : List (String × α)) (name : String) :
    keysOf (erase es name) = (keysOf es).filter fun k => k ≠ Text.fold name := by
  simp only [keysOf, erase, List.filter_map]
  rfl

theorem nodup_keysOf_put {es : List (String × α)} (h : (keysOf es).Nodup) (name : String)
    (value : α) : (keysOf (put es name value)).Nodup := by
  rw [keysOf_put]
  split
  · exact h
  · next hn =>
    rw [List.nodup_append]
    refine ⟨h, by simp, ?_⟩
    intro a ha b hb
    simp only [List.mem_singleton] at hb
    subst hb
    exact fun hab => hn (hab ▸ ha)

theorem nodup_keysOf_erase {es : List (String × α)} (h : (keysOf es).Nodup) (name : String) :
    (keysOf (erase es name)).Nodup := by
  rw [keysOf_erase]
  exact h.filter _

end NameMap

/-- **A map keyed by names without regard to case,** in the order in which the names came in. -/
structure NameMap (α : Type) where
  entries : List (String × α)
  distinct : (NameMap.keysOf entries).Nodup

namespace NameMap

variable {α : Type}

/-! ## Maps -/

/-- The map without names. -/
def empty : NameMap α := ⟨[], by simp [keysOf]⟩

instance : Inhabited (NameMap α) := ⟨empty⟩

/-- The value under a name. -/
def get? (m : NameMap α) (name : String) : Option α :=
  lookup? m.entries name

/-- Whether there is a value under a name. -/
def contains (m : NameMap α) (name : String) : Bool :=
  (m.get? name).isSome

/-- The map with a value under a name. -/
def set (m : NameMap α) (name : String) (value : α) : NameMap α :=
  ⟨put m.entries name value, nodup_keysOf_put m.distinct name value⟩

/-- The map without a name. -/
def remove (m : NameMap α) (name : String) : NameMap α :=
  ⟨erase m.entries name, nodup_keysOf_erase m.distinct name⟩

/-- The number of names. -/
def size (m : NameMap α) : Nat := m.entries.length

/-- The entries with folded names. -/
def foldedEntries (m : NameMap α) : List (String × α) :=
  m.entries.map fun e => (Text.fold e.1, e.2)

/-- The map with further entries written into it one after the other. -/
def setAll (m : NameMap α) (es : List (String × α)) : NameMap α :=
  es.foldl (fun m e => m.set e.1 e.2) m

/-- The map that a list of entries gives. -/
def ofEntries (es : List (String × α)) : NameMap α :=
  empty.setAll es

/-- A map built afresh from the entries of another one. -/
def copy (m : NameMap α) : NameMap α :=
  ofEntries m.entries

/-- The value under a name and the map without it, if the name is known. -/
def take? (m : NameMap α) (name : String) : Option (α × NameMap α) :=
  (m.get? name).map fun v => (v, m.remove name)

/-- The value under a name, which is written there first if the name is new. -/
def getOrSet (m : NameMap α) (name : String) (value : α) : α × NameMap α :=
  match m.get? name with
  | some v => (v, m)
  | none => (value, m.set name value)

@[simp] theorem entries_set (m : NameMap α) (name : String) (value : α) :
    (m.set name value).entries = put m.entries name value := rfl

@[simp] theorem entries_remove (m : NameMap α) (name : String) :
    (m.remove name).entries = erase m.entries name := rfl

@[simp] theorem entries_empty : (empty : NameMap α).entries = [] := rfl

/-- Two maps with the same entries are the same map. -/
theorem ext_entries {m n : NameMap α} (h : m.entries = n.entries) : m = n := by
  cases m; cases n; simp_all

/-! ## Maps of JSON values -/

/-- The map as an object. -/
def toJson (m : NameMap Json) : Json := .obj m.entries

/-- Whether two maps have the same values under the same names. -/
def same (m n : NameMap Json) : Bool :=
  m.size = n.size && m.entries.all fun e =>
    match n.get? e.1 with
    | some v => Json.same e.2 v
    | none => false

/-- The name and the value that an item of a list states for a map: any value that lists two things,
the first of them a text. -/
def pairOf (j : Json) : Except Fault (String × Json) := do
  match ← j.items with
  | [name, value] => pure (← name.asText, value)
  | _ => .error .notAPair

/-- Writes pairs into a map, up to the first item that states none. -/
def fillPairs (m : NameMap Json) : List Json → NameMap Json × Option Fault
  | [] => (m, none)
  | x :: xs =>
    match pairOf x with
    | .ok (name, value) => fillPairs (m.set name value) xs
    | .error f => (m, some f)

/-- **Writes a value into a map:** the fields of an object, or the pairs that any other value lists.
What has been written before a fault stays. -/
def fill (m : NameMap Json) (j : Json) : NameMap Json × Option Fault :=
  match j with
  | .obj fs => (m.setAll fs, none)
  | j =>
    match j.items with
    | .ok xs => fillPairs m xs
    | .error f => (m, some f)

/-- The map that a value states. -/
def ofJson (j : Json) : Except Fault (NameMap Json) :=
  match fill empty j with
  | (m, none) => .ok m
  | (_, some f) => .error f

/-- The value under a name that a value states; it has to be a text. -/
def getJson? (m : NameMap α) (name : Json) : Except Fault (Option α) := do
  pure (m.get? (← name.asText))

/-- Whether a value names an entry; only texts do. -/
def containsJson (m : NameMap α) : Json → Bool
  | .str name => m.contains name
  | _ => false

/-- Whether the map is the same as the map that an object states; no other value is. -/
def sameAsJson (m : NameMap Json) : Json → Bool
  | .obj fs => m.same (ofEntries fs)
  | _ => false

end NameMap

end Questbook
