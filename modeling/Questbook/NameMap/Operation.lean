import Questbook.NameMap

set_option autoImplicit false

/-! # Operations on maps of names

A map of names is used through a handful of operations. `Operation` lists them, `perform` does one of
them, and `performAll` a list of them, one after the other. Names are given as values of any kind: an
operation on something that is no text fails, save for the question whether it is a name.

Some operations are put together from others: a map is cleared by taking out its first entry as long
as there is one (`clear`), and it is built from a value and from named values by writing the one and
then the others (`build`).
-/

namespace Questbook

namespace NameMap

variable {α : Type}

/-! ## Taking out entries -/

/-- The first entry and the map without it. It is taken out under its own spelling. -/
def popFirst? (m : NameMap α) : Option ((String × α) × NameMap α) :=
  match m.entries with
  | [] => none
  | e :: _ => (m.take? e.1).map fun r => ((e.1, r.1), r.2)

/-- The first entry is found under its own name. -/
theorem popFirst?_of_entries {m : NameMap α} {e : String × α} {rest : List (String × α)}
    (h : m.entries = e :: rest) : m.popFirst? = some (e, m.remove e.1) := by
  have hfound : m.get? e.1 = some e.2 := by rw [get?, h, lookup?, if_pos rfl]
  rw [popFirst?, h]
  show (m.take? e.1).map _ = _
  rw [take?, hfound]
  rfl

theorem size_of_popFirst? {m m' : NameMap α} {e : String × α} (h : m.popFirst? = some (e, m')) :
    m'.size < m.size := by
  cases hentries : m.entries with
  | nil =>
      rw [popFirst?, hentries] at h
      cases h
  | cons first rest =>
      rw [popFirst?_of_entries hentries] at h
      cases h
      have hrest : erase (e :: rest) e.1 = erase rest e.1 := List.filter_cons_of_neg (by simp)
      have hlength : (erase rest e.1).length ≤ rest.length := List.length_filter_le _ _
      rw [size, size, entries_remove, hentries, hrest, List.length_cons]
      omega

/-- **The map without its entries,** taken out one after the other. -/
def clear (m : NameMap α) : NameMap α :=
  match _h : m.popFirst? with
  | none => m
  | some (_, m') => clear m'
termination_by m.size
decreasing_by exact size_of_popFirst? _h

/-! ## Operations -/

/-- Writes a value, and after it named values, into a map. -/
def fillNamed (m : NameMap Json) (data : Json) (named : List (String × Json)) :
    NameMap Json × Option Fault :=
  match m.fill data with
  | (m, none) => (m.setAll named, none)
  | (m, some f) => (m, some f)

/-- **The map that a value and named values give.** Null gives nothing. -/
def build (data : Json) (named : List (String × Json)) : Except Fault (NameMap Json) :=
  match data with
  | .null => .ok (empty.setAll named)
  | data =>
    match fillNamed empty data named with
    | (m, none) => .ok m
    | (_, some f) => .error f

/-- **What a map can be asked to do.** -/
inductive Operation
  | set (name value : Json)
  | get (name : Json)
  | getOr (name default : Json)
  | remove (name : Json)
  | contains (name : Json)
  | update (data : Json) (named : List (String × Json))
  | pop (name : Json)
  | popOr (name default : Json)
  | setDefault (name value : Json)
  | clear
  | copy
  | size

/-- What is done under a name. Something that is no text is no name. -/
def under (m : NameMap Json) (name : Json) (f : String → Except Fault Json × NameMap Json) :
    Except Fault Json × NameMap Json :=
  match name.asText with
  | .ok name => f name
  | .error e => (.error e, m)

/-- **Does an operation.** Operations without a value of their own give null. -/
def perform (m : NameMap Json) : Operation → Except Fault Json × NameMap Json
  | .set name v => m.under name fun k => (.ok .null, m.set k v)
  | .get name => m.under name fun k => ((m.get? k).elim (.error .absentKey) .ok, m)
  | .getOr name v => m.under name fun k => (.ok ((m.get? k).getD v), m)
  | .remove name => m.under name fun k =>
    (m.take? k).elim (.error .absentKey, m) fun r => (.ok .null, r.2)
  | .contains name => (.ok (.bool (m.containsJson name)), m)
  | .update data named =>
    match m.fillNamed data named with
    | (m, none) => (.ok .null, m)
    -- what has been written before the fault stays
    | (m, some f) => (.error f, m)
  | .pop name => m.under name fun k =>
    (m.take? k).elim (.error .absentKey, m) fun r => (.ok r.1, r.2)
  | .popOr name v => m.under name fun k => (m.take? k).elim (.ok v, m) fun r => (.ok r.1, r.2)
  | .setDefault name v => m.under name fun k => (.ok (m.getOrSet k v).1, (m.getOrSet k v).2)
  | .clear => (.ok .null, m.clear)
  | .copy => (.ok .null, m.copy)
  | .size => (.ok (.int m.size), m)

/-- **Does a list of operations.** A failure does not end the list. -/
def performAll (m : NameMap Json) : List Operation → List (Except Fault Json) × NameMap Json
  | [] => ([], m)
  | op :: ops =>
    let (r, m) := m.perform op
    let (rs, m) := m.performAll ops
    (r :: rs, m)

end NameMap

end Questbook
