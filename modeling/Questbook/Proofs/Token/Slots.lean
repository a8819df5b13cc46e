import Questbook.Proofs.Text.CaseFold
import Questbook.Proofs.Token.Counters
import Questbook.Proofs.Token.WellFormed

set_option autoImplicit false

/-! # Slots apart from other counters

Slots share one map with the counters, under names that start with `slot:`. Since a token names a counter
without a colon, and folding makes no colon, no token for a counter writes under such a name, and every
token for a slot does.

What is written under other names makes no difference to the counters under names that count
(`Context.AgreeOn.applyAll`). Hence tokens for slots can be left out of a list without a difference to
the counters, and tokens for counters without a difference to the slots
(`slots_and_counters_apart`).
-/

namespace Questbook

open Text

/-! ## Parts of a map -/

namespace NameMap

variable {α : Type} {keep : String → Bool}

/-- Whether it makes no difference for a set of names how they are spelled. -/
def IsCaseless (keep : String → Bool) : Prop :=
  ∀ a b, fold a = fold b → keep a = keep b

/-- Whether an entry is under a name of a set. -/
def isUnder (keep : String → Bool) (e : String × α) : Bool := keep e.1

/-- The entries under the names of a set. -/
def part (keep : String → Bool) (m : NameMap α) : List (String × α) :=
  m.entries.filter (isUnder keep)

theorem lookup?_filter (hkeep : IsCaseless keep) (es : List (String × α)) {name : String}
    (hname : keep name = true) : lookup? (es.filter (isUnder keep)) name = lookup? es name := by
  induction es with
  | nil => rfl
  | cons e es ih =>
      by_cases hsame : fold e.1 = fold name
      · have he : isUnder keep e = true := (hkeep e.1 name hsame).trans hname
        rw [List.filter_cons_of_pos he, lookup?, lookup?, if_pos hsame, if_pos hsame]
      · rw [lookup?, if_neg hsame, ← ih]
        by_cases he : isUnder keep e = true
        · rw [List.filter_cons_of_pos he, lookup?, if_neg hsame]
        · rw [List.filter_cons_of_neg he]

/-- Writing under a name of the set is writing into the part. -/
theorem filter_put (hkeep : IsCaseless keep) (es : List (String × α)) {name : String}
    (hname : keep name = true) (v : α) :
    (put es name v).filter (isUnder keep) = put (es.filter (isUnder keep)) name v := by
  induction es with
  | nil => simp [put, isUnder, hname]
  | cons e es ih =>
      by_cases hsame : fold e.1 = fold name
      · have he : isUnder keep e = true := (hkeep e.1 name hsame).trans hname
        have hwritten : isUnder keep (e.1, v) = true := he
        rw [put, if_pos hsame, List.filter_cons_of_pos hwritten, List.filter_cons_of_pos he, put,
          if_pos hsame]
      · rw [put, if_neg hsame]
        by_cases he : isUnder keep e = true
        · rw [List.filter_cons_of_pos he, List.filter_cons_of_pos he, put, if_neg hsame, ih]
        · rw [List.filter_cons_of_neg he, List.filter_cons_of_neg he, ih]

/-- Writing under any other name leaves the part. -/
theorem filter_put_of_not_keep (hkeep : IsCaseless keep) (es : List (String × α)) {name : String}
    (hname : keep name = false) (v : α) :
    (put es name v).filter (isUnder keep) = es.filter (isUnder keep) := by
  induction es with
  | nil => simp [put, isUnder, hname]
  | cons e es ih =>
      by_cases hsame : fold e.1 = fold name
      · have he : ¬ isUnder keep e = true := by simp [isUnder, hkeep e.1 name hsame, hname]
        have hwritten : ¬ isUnder keep (e.1, v) = true := he
        rw [put, if_pos hsame, List.filter_cons_of_neg hwritten, List.filter_cons_of_neg he]
      · rw [put, if_neg hsame, List.filter_cons, List.filter_cons, ih]

theorem get?_eq_of_part {m n : NameMap α} (hkeep : IsCaseless keep) (h : m.part keep = n.part keep)
    {name : String} (hname : keep name = true) : m.get? name = n.get? name := by
  unfold get?
  rw [← lookup?_filter hkeep m.entries hname, ← lookup?_filter hkeep n.entries hname]
  exact congrArg (lookup? · name) h

end NameMap

/-! ## Contexts that differ in some counters -/

variable {keep : String → Bool} {c d : Context} {change : Change}

/-- **Whether two contexts are the same but for counters** under names that do not count. -/
structure Context.AgreeOn (keep : String → Bool) (c d : Context) : Prop where
  rest : d = c.withCounters d.counters
  part : d.counters.part keep = c.counters.part keep
  left : c.counters.Whole
  right : d.counters.Whole

/-- Other counters written into a context hide those that it had. -/
theorem Context.withCounters_of_eq {m : NameMap Json} (h : d = c.withCounters m) (n o : NameMap Json) :
    d.withCounters n = (c.withCounters o).withCounters n := by
  rw [h]
  rfl

namespace Context.AgreeOn

theorem refl (keep : String → Bool) (h : c.counters.Whole) : c.AgreeOn keep c :=
  ⟨rfl, rfl, h, h⟩

/-- **A change does the same to both,** or fails for both. -/
theorem apply (hkeep : NameMap.IsCaseless keep) (h : c.AgreeOn keep d) (change : Change) :
    (∃ f, change.apply c = .error f ∧ change.apply d = .error f) ∨
      ∃ c' d', change.apply c = .ok c' ∧ change.apply d = .ok d' ∧ c'.AgreeOn keep d' := by
  cases hchange : change.counterUpdate? with
  | none =>
      have hd : change.apply d = (change.apply c).map fun x => x.withCounters d.counters := by
        rw [← Change.apply_withCounters hchange, ← h.rest]
      cases hc : change.apply c with
      | error f => exact Or.inl ⟨f, rfl, by rw [hd, hc]; rfl⟩
      | ok c' =>
          have hsame := Change.counters_of_apply hchange hc
          refine Or.inr ⟨c', c'.withCounters d.counters, rfl, by rw [hd, hc]; rfl, rfl, ?_, ?_, h.right⟩
          · rw [hsame]
            exact h.part
          · rw [hsame]
            exact h.left
  | some written =>
      obtain ⟨name, update⟩ := written
      refine Or.inr ⟨_, _, Change.apply_update h.left hchange, Change.apply_update h.right hchange,
        ?_, ?_, h.left.set name _, h.right.set name _⟩
      · exact Context.withCounters_of_eq h.rest _ _
      · show List.filter _ (NameMap.put _ _ _) = List.filter _ (NameMap.put _ _ _)
        cases hname : keep name with
        | true =>
            -- the value found is the same in both, hence so is the one written
            have hfound := NameMap.get?_eq_of_part hkeep h.part hname
            rw [NameMap.filter_put hkeep _ hname, NameMap.filter_put hkeep _ hname]
            unfold NameMap.whole?
            rw [hfound]
            exact congrArg (NameMap.put · name _) h.part
        | false =>
            rw [NameMap.filter_put_of_not_keep hkeep _ hname,
              NameMap.filter_put_of_not_keep hkeep _ hname]
            exact h.part

/-- An update of a counter that does not count makes no difference. -/
theorem apply_left (hkeep : NameMap.IsCaseless keep) (h : c.AgreeOn keep d) {name : String}
    {update : Update} (hchange : change.counterUpdate? = some (name, update))
    (hname : keep name = false) : ∃ c', change.apply c = .ok c' ∧ c'.AgreeOn keep d := by
  refine ⟨_, Change.apply_update h.left hchange, h.rest, ?_, h.left.set name _, h.right⟩
  exact h.part.trans (NameMap.filter_put_of_not_keep hkeep _ hname _).symm

/-- **Effects that write counters that do not count can be left out.** -/
theorem applyAll (hkeep : NameMap.IsCaseless keep) {out : Effect → Bool} {es : List Effect}
    (hout : ∀ e ∈ es, out e = true →
      ∃ name update, e.change.counterUpdate? = some (name, update) ∧ keep name = false)
    (h : c.AgreeOn keep d) :
    (Questbook.applyAll d (es.filter fun e => !out e)).2 = (Questbook.applyAll c es).2 ∧
      (Questbook.applyAll c es).1.AgreeOn keep (Questbook.applyAll d (es.filter fun e => !out e)).1 := by
  induction es generalizing c d with
  | nil => exact ⟨rfl, h⟩
  | cons e es ih =>
      have hrest : ∀ x ∈ es, out x = true → ∃ name update,
          x.change.counterUpdate? = some (name, update) ∧ keep name = false :=
        fun x hx => hout x (by simp [hx])
      cases he : out e with
      | true =>
          -- left out on one side, where it would have written nothing that counts
          obtain ⟨name, update, hchange, hname⟩ := hout e (by simp) he
          obtain ⟨c', hc', h'⟩ := h.apply_left hkeep hchange hname
          rw [List.filter_cons_of_neg (by simp [he]), Questbook.applyAll, hc']
          exact ih hrest h'
      | false =>
          rw [List.filter_cons_of_pos (by simp [he]), Questbook.applyAll, Questbook.applyAll]
          rcases h.apply hkeep e.change with ⟨f, hc', hd'⟩ | ⟨c', d', hc', hd', h'⟩
          · -- a fault stops both, with what they have so far
            rw [hc', hd']
            exact ⟨rfl, h⟩
          · rw [hc', hd']
            exact ih hrest h'

end Context.AgreeOn

/-! ## Names of slots -/

/-- Whether a name starts as the names of slots do, whatever its case. -/
def namesSlot (name : String) : Bool :=
  slotLead.toList.isPrefixOf (fold name).toList

theorem isCaseless_namesSlot : NameMap.IsCaseless namesSlot := by
  intro a b hname
  unfold namesSlot
  rw [hname]

theorem isCaseless_not_namesSlot : NameMap.IsCaseless fun name => !namesSlot name :=
  fun a b hname => congrArg not (isCaseless_namesSlot a b hname)

/-- The name of every slot starts so. -/
theorem namesSlot_slotCounter (slot : String) : namesSlot (slotCounter slot) = true := by
  have hlead : fold slotLead = slotLead := by decide
  unfold namesSlot slotCounter
  rw [fold_append, hlead, String.toList_append, List.isPrefixOf_iff_prefix]
  exact List.prefix_append _ _

/-- **A name without a colon does not start so:** folding makes no colon. -/
theorem namesSlot_of_noColon {name : String} (h : ':' ∉ name.toList) : namesSlot name = false := by
  refine Bool.eq_false_iff.mpr fun hslot => h ?_
  have hstarts := List.isPrefixOf_iff_prefix.mp hslot
  have hcolon : ':' ∈ (fold name).toList := hstarts.subset (by decide)
  rw [toList_fold] at hcolon
  exact mem_of_mem_foldChars (by decide) hcolon

/-- Slots of different names are different counters. -/
theorem fold_slotCounter_ne {a b : String} (h : fold a ≠ fold b) :
    fold (slotCounter a) ≠ fold (slotCounter b) := by
  intro hsame
  unfold slotCounter at hsame
  rw [fold_append, fold_append] at hsame
  exact h (String.append_right_inj (fold slotLead) |>.mp hsame)

/-! ## Lists of tokens -/

/-- Whether a change updates a slot. -/
def Change.updatesSlot : Change → Bool
  | updateSlot _ _ => true
  | _ => false

/-- Whether a change updates a counter by its own name. -/
def Change.updatesCounter : Change → Bool
  | updateCounter _ _ => true
  | _ => false

/-- Whether a token states a change of a kind. -/
def statesChange (kind : Change → Bool) (token : String) : Bool :=
  match Effect.parse token with
  | .ok e => kind e.change
  | .error _ => false

/-- The context after a list of tokens, and the fault that stopped them, if one did. All of them are read
before the first is applied. -/
def Context.afterTokens (c : Context) (tokens : List String) : Context × Option Fault :=
  match tokens.mapM Effect.parse with
  | .ok es => applyAll c es
  | .error f => (c, some f)

theorem Effect.wellFormed_of_parse {token : String} {e : Effect} (h : Effect.parse token = .ok e) :
    e.change.WellFormed := by
  obtain ⟨change, hchange, rfl⟩ := map_eq_ok_iff.mp h
  exact Change.wellFormed_of_parse hchange

/-- **Tokens that write counters that do not count can be left out.** -/
theorem Context.AgreeOn.afterTokens (hkeep : NameMap.IsCaseless keep) (hc : c.counters.Whole)
    {kind : Change → Bool}
    (hkind : ∀ change : Change, change.WellFormed → kind change = true →
      ∃ name update, change.counterUpdate? = some (name, update) ∧ keep name = false)
    (tokens : List String) :
    let without := c.afterTokens (tokens.filter fun t => !statesChange kind t)
    without.2 = (c.afterTokens tokens).2 ∧ (c.afterTokens tokens).1.AgreeOn keep without.1 := by
  have hfilter : (tokens.filter fun t => !statesChange kind t).mapM Effect.parse =
      (tokens.mapM Effect.parse).map fun es => es.filter fun e => !kind e.change := by
    apply mapM_filter
    · intro token e he
      unfold statesChange
      rw [he]
    · intro token f hf
      unfold statesChange
      rw [hf]
      rfl
  unfold Context.afterTokens
  rw [hfilter]
  cases hread : tokens.mapM Effect.parse with
  | error f => exact ⟨rfl, .refl keep hc⟩
  | ok es =>
      refine AgreeOn.applyAll hkeep (fun e he => ?_) (.refl keep hc)
      obtain ⟨token, -, htoken⟩ := mem_of_mapM hread e he
      exact hkind e.change (Effect.wellFormed_of_parse htoken)

theorem Context.AgreeOn.get?_eq (hkeep : NameMap.IsCaseless keep) (h : c.AgreeOn keep d)
    {name : String} (hname : keep name = true) : d.counters.get? name = c.counters.get? name :=
  NameMap.get?_eq_of_part hkeep h.part hname

/-- **Slots and other counters are apart.** Without the tokens for slots, a list of tokens leaves the same
under all names that do not start as those of slots, and without the tokens for counters it leaves the same
under all that do; in both cases it leaves the same of everything else and stops at the same fault, if at
any. An update of a slot writes under one name, which is none of the names of another slot. -/
theorem slots_and_counters_apart (h : c.counters.Whole) (tokens : List String) :
    (let after := c.afterTokens tokens
      let without := c.afterTokens (tokens.filter fun t => !statesChange Change.updatesSlot t)
      without.2 = after.2 ∧ after.1.AgreeOn (fun name => !namesSlot name) without.1 ∧
        ∀ name, namesSlot name = false →
          without.1.counters.get? name = after.1.counters.get? name) ∧
    (let after := c.afterTokens tokens
      let without := c.afterTokens (tokens.filter fun t => !statesChange Change.updatesCounter t)
      without.2 = after.2 ∧ after.1.AgreeOn namesSlot without.1 ∧
        ∀ name, namesSlot name = true →
          without.1.counters.get? name = after.1.counters.get? name) ∧
    ∀ a b, fold a ≠ fold b → fold (slotCounter a) ≠ fold (slotCounter b) ∧
      ∀ update, ∃ n, (Change.updateSlot a update).apply c =
          .ok (c.withCounters (c.counters.set (slotCounter a) (.int n))) ∧
        (c.counters.set (slotCounter a) (.int n)).get? (slotCounter b) =
          c.counters.get? (slotCounter b) := by
  refine ⟨?_, ?_, fun a b hab => ⟨fold_slotCounter_ne hab, fun update => ?_⟩⟩
  · have hslots : ∀ change : Change, change.WellFormed → change.updatesSlot = true →
        ∃ name update, change.counterUpdate? = some (name, update) ∧ (!namesSlot name) = false := by
      intro change _ hkind
      cases change with
      | updateSlot slot update =>
          exact ⟨_, update, rfl, by rw [namesSlot_slotCounter]; rfl⟩
      | _ => cases hkind
    obtain ⟨hfault, hagree⟩ :=
      Context.AgreeOn.afterTokens isCaseless_not_namesSlot h hslots tokens
    refine ⟨hfault, hagree, fun name hname => ?_⟩
    exact hagree.get?_eq isCaseless_not_namesSlot (by rw [hname]; rfl)
  · have hcounters : ∀ change : Change, change.WellFormed → change.updatesCounter = true →
        ∃ name update, change.counterUpdate? = some (name, update) ∧ namesSlot name = false := by
      intro change hchange hkind
      cases change with
      | updateCounter name update =>
          -- a token cuts the name at the first colon
          have hfield : IsField name := hchange.1
          exact ⟨name, update, rfl, namesSlot_of_noColon hfield.noColon⟩
      | _ => cases hkind
    obtain ⟨hfault, hagree⟩ := Context.AgreeOn.afterTokens isCaseless_namesSlot h hcounters tokens
    exact ⟨hfault, hagree, fun name hname => hagree.get?_eq isCaseless_namesSlot hname⟩
  · refine ⟨_, Change.apply_update h rfl, ?_⟩
    rw [NameMap.get?_set, if_neg (fold_slotCounter_ne hab)]

/-- A packer with a belt in a slot and a counter of the same name. -/
def packer : Context where
  state := { character := {
    id := .str "c"
    inventory := { counters := (NameMap.empty.set "SLOT:belt" (.int 1)).set "Belt" (.int 4) } } }

/-- The belt ends with three, with or without the counter, and the counter with two, with or without the
belt. -/
theorem slots_and_counters_apart_packer :
    packer.counters.Whole ∧
      let tokens := ["slot:Belt:+1", "counter:belt:3", "slot:BELT:+1", "counter:Belt:-1", "item:add:slot:x"]
      (packer.afterTokens tokens).1.counters.get? "slot:belt" = some (.int 3) ∧
      (packer.afterTokens ["slot:Belt:+1", "slot:BELT:+1", "item:add:slot:x"]).1.counters.get?
          "slot:belt" = some (.int 3) ∧
      (packer.afterTokens tokens).1.counters.get? "BELT" = some (.int 2) ∧
      (packer.afterTokens ["counter:belt:3", "counter:Belt:-1", "item:add:slot:x"]).1.counters.get?
          "BELT" = some (.int 2) := by
  have hwhole : packer.counters.Whole := (NameMap.whole_empty.set "SLOT:belt" 1).set "Belt" 4
  refine ⟨hwhole, ?_⟩
  intro tokens
  obtain ⟨⟨-, -, hcounters⟩, ⟨-, -, hslots⟩, -⟩ := slots_and_counters_apart hwhole tokens
  have hslot : (packer.afterTokens tokens).1.counters.get? "slot:belt" = some (.int 3) := by rfl
  have hcounter : (packer.afterTokens tokens).1.counters.get? "BELT" = some (.int 2) := by rfl
  exact ⟨hslot, (hslots "slot:belt" (by decide)).trans hslot, hcounter,
    (hcounters "BELT" (by decide)).trans hcounter⟩

end Questbook
