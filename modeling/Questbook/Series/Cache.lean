import Questbook.Series.Key

set_option autoImplicit false

/-! # Caches of what series load

A `SeriesCache` keeps what has been loaded for each series under the normal form of its key. A key
is loaded when it is first asked for; a load that fails leaves nothing behind, so that the next
request tries again. What has been loaded is never replaced and never loaded twice.
-/

namespace Questbook

/-- **What has been loaded,** under the normal forms of keys, in the order of loading. -/
structure SeriesCache (α : Type) where
  values : List (String × α) := []

namespace SeriesCache

variable {α ε : Type}

instance : Inhabited (SeriesCache α) := ⟨{}⟩

/-- What has been loaded under a normal form. -/
def find? (c : SeriesCache α) (key : String) : Option α :=
  c.values.lookup key

/-- The cache with a further value. -/
def insert (c : SeriesCache α) (key : String) (value : α) : SeriesCache α :=
  { values := c.values ++ [(key, value)] }

/-- Whether something has been loaded for a series. -/
def contains (c : SeriesCache α) (key : Option String) : Bool :=
  (c.find? (Series.normalKey key)).isSome

/-- The number of series for which something has been loaded. -/
def size (c : SeriesCache α) : Nat := c.values.length

/-- The outcome of a request. -/
structure Answer (α ε : Type) where
  result : Except ε α
  cache : SeriesCache α
  /-- The normal form that was loaded, or tried, for the answer. -/
  request : Option String

/-- **What is loaded for a series.** The loader is asked, with the normal form of the key, only if
there is nothing yet. -/
def getOrLoad (c : SeriesCache α) (key : Option String) (load : String → Except ε α) :
    Answer α ε :=
  let k := Series.normalKey key
  match c.find? k with
  | some v => ⟨.ok v, c, none⟩
  | none =>
    match load k with
    | .ok v => ⟨.ok v, c.insert k v, some k⟩
    -- nothing is kept, so that the next request tries again
    | .error e => ⟨.error e, c, some k⟩

theorem find?_insert_self (c : SeriesCache α) {key : String} (h : c.find? key = none) (value : α) :
    (c.insert key value).find? key = some value := by
  simp only [find?, insert] at *
  rw [List.lookup_append]
  simp [h]

end SeriesCache

end Questbook
