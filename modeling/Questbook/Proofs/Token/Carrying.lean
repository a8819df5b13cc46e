import Questbook.Proofs.Token.Effects

set_option autoImplicit false

/-! # What is carried

Items are added at the end, and the first one of a name is taken away. So of the items of one name that
were there at first or came later, those that came last are still carried, and everything that is carried
is in the order in which it came (`Remains`). How many of a name there are is counted from the effects
alone (`countAfter`), and an item is found exactly if there are any (`items_are_accounted_for`).
-/

namespace Questbook

open Text

/-! ## Counting items -/

/-- Whether all names are texts. -/
def HaveTextNames (items : List Item) : Prop :=
  ∀ i ∈ items, ∃ name, i.name = .str name

/-- How many items are called by a folded name. -/
def countOf (key : String) (items : List Item) : Nat :=
  items.countP (Item.isCalled key)

theorem countOf_nil (key : String) : countOf key [] = 0 := rfl

theorem countOf_append (key : String) (a b : List Item) :
    countOf key (a ++ b) = countOf key a + countOf key b :=
  List.countP_append

theorem countOf_cons (key : String) (i : Item) (items : List Item) :
    countOf key (i :: items) = countOf key items + if i.key? = some key then 1 else 0 := by
  unfold countOf
  rw [List.countP_cons]
  simp only [Item.isCalled, decide_eq_true_eq]

theorem countOf_concat (key : String) (items : List Item) (i : Item) :
    countOf key (items ++ [i]) = countOf key items + if i.key? = some key then 1 else 0 := by
  rw [countOf_append, countOf_cons, countOf_nil, Nat.zero_add]

/-- Taking away the first item of a name leaves one less of this name, if there is one. -/
theorem countOf_eraseP (key other : String) (items : List Item) :
    countOf other (items.eraseP (Item.isCalled key)) =
      if key = other then countOf other items - 1 else countOf other items := by
  induction items with
  | nil => simp [countOf_nil]
  | cons i items ih =>
      by_cases hi : i.isCalled key = true
      · have hkey : i.key? = some key := of_decide_eq_true hi
        rw [List.eraseP_cons_of_pos hi, countOf_cons, hkey]
        by_cases hsame : key = other
        · simp [hsame]
        · simp [hsame]
      · have hkey : i.key? ≠ some key := fun h => hi (decide_eq_true h)
        rw [List.eraseP_cons_of_neg hi, countOf_cons, countOf_cons, ih]
        by_cases hsame : key = other
        · rw [if_pos hsame, if_pos hsame, if_neg (hsame ▸ hkey)]
          rfl
        · rw [if_neg hsame, if_neg hsame]

/-! ## One change -/

/-- Whether a change adds or takes away an item. -/
def Change.IsCarrying : Change → Prop
  | addItem _ _ | removeItem _ => True
  | _ => False

/-- The item that a change adds. -/
def Change.added? : Change → Option Item
  | addItem name category => some { name := .str name, category := .str category }
  | _ => none

/-- The items after a change. -/
def Change.onItems (items : List Item) : Change → List Item
  | addItem name category => items ++ [{ name := .str name, category := .str category }]
  | removeItem name => items.eraseP (Item.isCalled (fold name))
  | _ => items

/-- **How many items of a name there are after a change,** given how many there were. -/
def Change.onCount (key : String) (count : Nat) : Change → Nat
  | addItem name _ => if fold name = key then count + 1 else count
  | removeItem name => if fold name = key then count - 1 else count
  | _ => count

theorem Change.countOf_onItems (key : String) (items : List Item) (change : Change) :
    countOf key (change.onItems items) = change.onCount key (countOf key items) := by
  cases change with
  | addItem name category =>
      have hkey : Item.key? { name := .str name, category := .str category } = some (fold name) := rfl
      rw [onItems, onCount, countOf_concat, hkey]
      by_cases hname : fold name = key
      · simp [hname]
      · simp [hname]
  | removeItem name => exact countOf_eraseP (fold name) key items
  | _ => rfl

theorem anyNamed_eq (key : String) {items : List Item} (h : HaveTextNames items) :
    anyNamed key (items.map Item.name) = .ok (decide (0 < countOf key items)) := by
  induction items with
  | nil => rfl
  | cons i items ih =>
      obtain ⟨⟨name, hname⟩, hothers⟩ := List.forall_mem_cons.mp h
      have hkey : i.key? = some (fold name) := by
        unfold Item.key?
        rw [hname]
      have hnamed : isNamed key i.name = .ok (decide (fold name = key)) := by
        rw [hname]
        rfl
      rw [List.map_cons, anyNamed, hnamed, ih hothers, countOf_cons, hkey]
      by_cases hsame : fold name = key
      · simp [hsame, bind, Except.bind, pure, Except.pure]
      · simp [hsame, bind, Except.bind]

theorem Change.haveTextNames_onItems {items : List Item} (h : HaveTextNames items)
    (change : Change) : HaveTextNames (change.onItems items) := by
  intro i hi
  cases change with
  | addItem name category =>
      rcases List.mem_append.mp hi with hi | hi
      · exact h i hi
      · rw [List.mem_singleton.mp hi]
        exact ⟨name, rfl⟩
  | removeItem name => exact h i (List.mem_of_mem_eraseP hi)
  | _ => exact h i hi

variable {c : Context}

theorem Change.apply_onItems {change : Change} (h : HaveTextNames c.inventory.items)
    (hchange : change.IsCarrying) :
    change.apply c = .ok (c.withItems (change.onItems c.inventory.items)) := by
  cases change with
  | addItem name category => rfl
  | removeItem name =>
      show (dropNamed (fold name) c.inventory.items).map c.withItems = _
      rw [dropNamed_of_texts _ h]
      rfl
  | _ => cases hchange

/-! ## Which items are left -/

/-- Whether an item is gone when so many of each name are, given what came before it. -/
def Item.isGone (gone : String → Nat) (before : List Item) (i : Item) : Bool :=
  i.key?.any fun key => decide (countOf key before < gone key)

/-- **What is left of items** when so many of each name are gone, those first that came first; some may
have come before these. -/
def survivors (gone : String → Nat) (before : List Item) : List Item → List Item
  | [] => []
  | i :: items =>
    if i.isGone gone before then survivors gone (before ++ [i]) items
    else i :: survivors gone (before ++ [i]) items

section

variable {gone : String → Nat} {before items : List Item} {i : Item} {key : String}

theorem survivors_cons_of_gone (h : i.isGone gone before = true) :
    survivors gone before (i :: items) = survivors gone (before ++ [i]) items :=
  if_pos h

theorem survivors_cons_of_left (h : ¬ i.isGone gone before = true) :
    survivors gone before (i :: items) = i :: survivors gone (before ++ [i]) items :=
  if_neg h

theorem survivors_append (a b : List Item) :
    survivors gone before (a ++ b) = survivors gone before a ++ survivors gone (before ++ a) b := by
  induction a generalizing before with
  | nil => simp [survivors]
  | cons i a ih =>
      have hrest : survivors gone (before ++ [i]) (a ++ b) =
          survivors gone (before ++ [i]) a ++ survivors gone (before ++ i :: a) b := by
        rw [ih, List.append_assoc, List.singleton_append]
      by_cases hi : i.isGone gone before = true
      · rw [List.cons_append, survivors_cons_of_gone hi, survivors_cons_of_gone hi, hrest]
      · rw [List.cons_append, survivors_cons_of_left hi, survivors_cons_of_left hi, hrest,
          List.cons_append]

theorem survivors_sublist : (survivors gone before items).Sublist items := by
  induction items generalizing before with
  | nil => exact List.Sublist.refl []
  | cons i items ih =>
      by_cases hi : i.isGone gone before = true
      · rw [survivors_cons_of_gone hi]
        exact ih.cons i
      · rw [survivors_cons_of_left hi]
        exact ih.cons_cons i

theorem isGone_of_key (h : i.key? = some key) :
    i.isGone gone before = decide (countOf key before < gone key) := by
  unfold Item.isGone
  rw [h]
  rfl

/-- An item is left if enough of its name came before it. -/
theorem not_isGone (h : ∀ key, gone key ≤ countOf key before) : ¬ i.isGone gone before = true := by
  unfold Item.isGone
  cases i.key? with
  | none => exact nofun
  | some key => simpa using h key

/-- If none are gone, all are left. -/
theorem survivors_of_none (h : ∀ key, gone key = 0) : survivors gone before items = items := by
  induction items generalizing before with
  | nil => rfl
  | cons i items ih =>
      have hi : ¬ i.isGone gone before = true := not_isGone fun key => by simp [h key]
      rw [survivors_cons_of_left hi, ih]

/-- The numbers with one more of a name gone. -/
def oneMore (gone : String → Nat) (key : String) (other : String) : Nat :=
  if other = key then gone other + 1 else gone other

/-- An item of another name is gone as before. -/
theorem isGone_oneMore_of_ne (h : i.key? ≠ some key) :
    i.isGone (oneMore gone key) before = i.isGone gone before := by
  unfold Item.isGone
  cases hi : i.key? with
  | none => rfl
  | some other =>
      have hother : other ≠ key := fun hsame => h (hi.trans (congrArg some hsame))
      simp [oneMore, hother]

/-- If enough of a name came before, it makes no difference that one more is gone. -/
theorem survivors_oneMore_of_lt (h : gone key < countOf key before) :
    survivors (oneMore gone key) before items = survivors gone before items := by
  induction items generalizing before with
  | nil => rfl
  | cons i items ih =>
      have hi : i.isGone (oneMore gone key) before = i.isGone gone before := by
        by_cases hkey : i.key? = some key
        · rw [isGone_of_key hkey, isGone_of_key hkey, oneMore, if_pos rfl, decide_eq_decide]
          omega
        · exact isGone_oneMore_of_ne hkey
      have hnext : gone key < countOf key (before ++ [i]) := by
        rw [countOf_concat]
        omega
      rw [survivors, survivors, hi, ih hnext]

/-- **Taking away the first that is left** of a name is having one more of them gone. -/
theorem eraseP_survivors (hbefore : countOf key before ≤ gone key)
    (hleft : 0 < countOf key (survivors gone before items)) :
    (survivors gone before items).eraseP (Item.isCalled key) =
      survivors (oneMore gone key) before items := by
  induction items generalizing before with
  | nil => cases hleft
  | cons i items ih =>
      by_cases hkey : i.key? = some key
      · have hnext : countOf key (before ++ [i]) = countOf key before + 1 := by
          rw [countOf_concat, if_pos hkey]
        have hgone : i.isGone (oneMore gone key) before = true := by
          rw [isGone_of_key hkey, oneMore, if_pos rfl, decide_eq_true_eq]
          omega
        rw [survivors_cons_of_gone hgone]
        by_cases hfirst : countOf key before < gone key
        · -- gone already: the one to take away comes later
          have hi : i.isGone gone before = true := by simp [isGone_of_key hkey, hfirst]
          rw [survivors_cons_of_gone hi] at hleft ⊢
          exact ih (by omega) hleft
        · -- this is the first that is left
          have hi : ¬ i.isGone gone before = true := by simp [isGone_of_key hkey, hfirst]
          have hcalled : i.isCalled key = true := decide_eq_true hkey
          rw [survivors_cons_of_left hi, List.eraseP_cons_of_pos hcalled]
          exact (survivors_oneMore_of_lt (by omega)).symm
      · have hnext : countOf key (before ++ [i]) ≤ gone key := by
          rw [countOf_concat, if_neg hkey]
          exact hbefore
        have hsame : i.isGone (oneMore gone key) before = i.isGone gone before :=
          isGone_oneMore_of_ne hkey
        by_cases hi : i.isGone gone before = true
        · rw [survivors_cons_of_gone hi] at hleft ⊢
          rw [survivors_cons_of_gone (hsame.trans hi)]
          exact ih hnext hleft
        · have hcalled : ¬ i.isCalled key = true := fun h => hkey (of_decide_eq_true h)
          rw [survivors_cons_of_left hi] at hleft ⊢
          rw [countOf_cons, if_neg hkey] at hleft
          rw [survivors_cons_of_left (by rwa [hsame]), List.eraseP_cons_of_neg hcalled,
            ih hnext hleft]

end

/-! ## All that came -/

/-- How many of a name are gone of all that came. -/
def goneOf (came items : List Item) (key : String) : Nat :=
  countOf key came - countOf key items

/-- **Whether items are what is left** of all that came: of each name those that came last, in the order in
which they came. -/
def Remains (came items : List Item) : Prop :=
  items = survivors (goneOf came items) [] came

namespace Remains

variable {came items : List Item}

theorem refl (items : List Item) : Remains items items :=
  (survivors_of_none fun _ => Nat.sub_self _).symm

theorem countOf_le (h : Remains came items) (key : String) : countOf key items ≤ countOf key came := by
  have hsublist : items.Sublist came := by
    rw [h]
    exact survivors_sublist
  exact hsublist.countP_le

/-- What came first is left first. -/
theorem eq_append {first last : List Item} (h : Remains (first ++ last) items) :
    items = survivors (goneOf (first ++ last) items) [] first ++
      survivors (goneOf (first ++ last) items) first last := by
  have happend : survivors (goneOf (first ++ last) items) [] (first ++ last) =
      survivors (goneOf (first ++ last) items) [] first ++
        survivors (goneOf (first ++ last) items) ([] ++ first) last := survivors_append first last
  exact h.trans happend

theorem add (h : Remains came items) (i : Item) : Remains (came ++ [i]) (items ++ [i]) := by
  have hgone : goneOf (came ++ [i]) (items ++ [i]) = goneOf came items := by
    funext key
    unfold goneOf
    rw [countOf_concat, countOf_concat]
    omega
  have hi : ¬ i.isGone (goneOf came items) came = true := not_isGone fun _ => Nat.sub_le _ _
  unfold Remains
  rw [hgone, survivors_append, ← h, List.nil_append, survivors_cons_of_left hi]
  rfl

theorem remove (h : Remains came items) (key : String) :
    Remains came (items.eraseP (Item.isCalled key)) := by
  by_cases hsome : 0 < countOf key items
  · have hgone : goneOf came (items.eraseP (Item.isCalled key)) = oneMore (goneOf came items) key := by
      funext other
      have hle := h.countOf_le other
      show countOf other came - countOf other (items.eraseP (Item.isCalled key)) =
        if other = key then countOf other came - countOf other items + 1
        else countOf other came - countOf other items
      rw [countOf_eraseP]
      by_cases hsame : key = other
      · subst hsame
        rw [if_pos rfl, if_pos rfl]
        omega
      · rw [if_neg hsame, if_neg (Ne.symm hsame)]
    unfold Remains
    rw [hgone]
    have hleft : 0 < countOf key (survivors (goneOf came items) [] came) := by rwa [← h]
    rw [← eraseP_survivors (Nat.zero_le _) hleft, ← h]
  · -- a removal that finds nothing must not count as one more gone: it would hit what comes later
    have hnone : countOf key items = 0 := by omega
    rw [List.eraseP_of_forall_not (List.countP_eq_zero.mp hnone)]
    exact h

end Remains

/-! ## Many changes -/

/-- The items that effects add, in their order. -/
def additions (es : List Effect) : List Item :=
  es.filterMap fun e => e.change.added?

/-- The items after effects. -/
def itemsAfter (items : List Item) (es : List Effect) : List Item :=
  es.foldl (fun items e => e.change.onItems items) items

/-- **How many items of a name there are after effects,** given how many there were: one more for each that
is added, and one less for each that is taken away, as long as there are any. -/
def countAfter (key : String) (count : Nat) (es : List Effect) : Nat :=
  es.foldl (fun count e => e.change.onCount key count) count

theorem countOf_itemsAfter (key : String) (items : List Item) (es : List Effect) :
    countOf key (itemsAfter items es) = countAfter key (countOf key items) es := by
  induction es generalizing items with
  | nil => rfl
  | cons e es ih => exact (ih _).trans (by rw [Change.countOf_onItems]; rfl)

theorem haveTextNames_itemsAfter {items : List Item} (h : HaveTextNames items) (es : List Effect) :
    HaveTextNames (itemsAfter items es) := by
  induction es generalizing items with
  | nil => exact h
  | cons e es ih => exact ih (e.change.haveTextNames_onItems h)

theorem applyAll_itemsAfter {es : List Effect} (h : HaveTextNames c.inventory.items)
    (hes : ∀ e ∈ es, e.change.IsCarrying) :
    applyAll c es = (c.withItems (itemsAfter c.inventory.items es), none) := by
  induction es generalizing c with
  | nil => rfl
  | cons e es ih =>
      obtain ⟨hfirst, hothers⟩ := List.forall_mem_cons.mp hes
      rw [applyAll, Change.apply_onItems h hfirst]
      exact ih (e.change.haveTextNames_onItems h) hothers

/-- **What is carried after effects is left of all that came.** -/
theorem Remains.itemsAfter {came items : List Item} (h : Remains came items) (es : List Effect) :
    Remains (came ++ additions es) (itemsAfter items es) := by
  induction es generalizing came items with
  | nil => rwa [additions, List.filterMap_nil, List.append_nil]
  | cons e es ih =>
      have hstep : Remains (came ++ e.change.added?.toList) (e.change.onItems items) := by
        cases e.change with
        | addItem name category => exact h.add _
        | removeItem name =>
            show Remains (came ++ []) _
            rw [List.append_nil]
            exact h.remove (fold name)
        | _ =>
            show Remains (came ++ []) items
            rw [List.append_nil]
            exact h
      have hadditions : additions (e :: es) = e.change.added?.toList ++ additions es := by
        unfold additions
        rw [List.filterMap_cons]
        cases e.change.added? <;> rfl
      rw [hadditions, ← List.append_assoc]
      exact ih hstep

/-- **Every item is accounted for.** After effects that add and take away items, how many there are of a
name follows from the effects, and an item is found exactly if there are any. What is carried is what is
left of the items at first, and then of those that were added, both in their order; of each name, those are
gone that came first. One more is taken away where the first of its name stands, if there is one. -/
theorem items_are_accounted_for {es : List Effect} (h : HaveTextNames c.inventory.items)
    (hes : ∀ e ∈ es, e.change.IsCarrying) :
    ∃ items, applyAll c es = (c.withItems items, none) ∧
      (∀ name, countOf (fold name) items =
        countAfter (fold name) (countOf (fold name) c.inventory.items) es) ∧
      (∀ name, (c.withItems items).inventory.hasItem name =
        .ok (decide (0 < countOf (fold name) items))) ∧
      (let gone := goneOf (c.inventory.items ++ additions es) items
        let kept := survivors gone [] c.inventory.items
        let added := survivors gone c.inventory.items (additions es)
        items = kept ++ added ∧ kept.Sublist c.inventory.items ∧ added.Sublist (additions es)) ∧
      ∀ name,
        (∃ before i after, items = before ++ i :: after ∧ i.isCalled (fold name) = true ∧
          (∀ j ∈ before, ¬ j.isCalled (fold name) = true) ∧
          (Change.removeItem name).apply (c.withItems items) =
            .ok (c.withItems (before ++ after))) ∨
        (∀ j ∈ items, ¬ j.isCalled (fold name) = true) ∧
          (Change.removeItem name).apply (c.withItems items) = .ok (c.withItems items) := by
  have htexts := haveTextNames_itemsAfter h es
  refine ⟨_, applyAll_itemsAfter h hes, fun name => countOf_itemsAfter _ _ es,
    fun name => anyNamed_eq _ htexts, ⟨?_, survivors_sublist, survivors_sublist⟩, fun name => ?_⟩
  · exact ((Remains.refl _).itemsAfter es).eq_append
  · generalize itemsAfter c.inventory.items es = items at htexts
    have happly : (Change.removeItem name).apply (c.withItems items) =
        .ok (c.withItems (items.eraseP (Item.isCalled (fold name)))) :=
      Change.apply_onItems (c := c.withItems items) htexts trivial
    rw [happly]
    by_cases hsome : ∃ i ∈ items, i.isCalled (fold name) = true
    · obtain ⟨i, hi, hcalled⟩ := hsome
      obtain ⟨j, before, after, hbefore, hj, hsplit, herased⟩ := List.exists_of_eraseP hi hcalled
      exact Or.inl ⟨before, j, after, hsplit, hj, hbefore, by rw [herased]⟩
    · have hnone : ∀ j ∈ items, ¬ j.isCalled (fold name) = true :=
        fun j hj hcalled => hsome ⟨j, hj, hcalled⟩
      exact Or.inr ⟨hnone, by rw [List.eraseP_of_forall_not hnone]⟩

/-- A hoarder with two swords and a rope. -/
def hoarder : Context where
  state := { character := {
    id := .str "c"
    inventory := { items := [
      { name := .str "Sword", category := .str "weapon" },
      { name := .str "Rope" },
      { name := .str "SWORD", category := .str "relic" }] } } }

/-- Two swords go, the first one and the relic, and what is not carried is not missed. -/
def clearance : List Effect :=
  [⟨.addItem "sword" "gift", ""⟩, ⟨.removeItem "SWORD", ""⟩, ⟨.removeItem "Map", ""⟩,
    ⟨.addItem "Map" "general", ""⟩, ⟨.removeItem "sWord", ""⟩]

/-- The rope is left of the items at first, and the gift and the map of the others. -/
theorem items_are_accounted_for_clearance :
    HaveTextNames hoarder.inventory.items ∧ (∀ e ∈ clearance, e.change.IsCarrying) ∧
      ∃ items, applyAll hoarder clearance = (hoarder.withItems items, none) ∧
        countOf (fold "sword") items = 1 ∧ countOf (fold "map") items = 1 ∧
        (hoarder.withItems items).inventory.hasItem "SWORD" = .ok true ∧
        (hoarder.withItems items).inventory.hasItem "Lantern" = .ok false ∧
        items = [{ name := .str "Rope" }, { name := .str "sword", category := .str "gift" },
          { name := .str "Map", category := .str "general" }] := by
  have htexts : HaveTextNames hoarder.inventory.items := by
    intro i hi
    simp only [hoarder, Context.inventory, List.mem_cons, List.not_mem_nil, or_false] at hi
    rcases hi with rfl | rfl | rfl
    all_goals exact ⟨_, rfl⟩
  have hes : ∀ e ∈ clearance, e.change.IsCarrying := by
    simp [clearance, Change.IsCarrying]
  obtain ⟨items, hrun, hcount, hfound, -, -⟩ := items_are_accounted_for htexts hes
  have hsword : countOf (fold "sword") items = 1 := (hcount "sword").trans (by decide)
  have hmap : countOf (fold "map") items = 1 := (hcount "map").trans (by decide)
  have hlantern : countOf (fold "Lantern") items = 0 := (hcount "Lantern").trans (by decide)
  have hsame : fold "SWORD" = fold "sword" := by decide
  refine ⟨htexts, hes, items, hrun, hsword, hmap, ?_, ?_, ?_⟩
  · rw [hfound, hsame, hsword]
    rfl
  · rw [hfound, hlantern]
    rfl
  · have hitems : (applyAll hoarder clearance).1.inventory.items = items := by rw [hrun]; rfl
    rw [← hitems]
    rfl

end Questbook
