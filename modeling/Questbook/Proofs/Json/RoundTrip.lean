import Questbook.Proofs.Json.Number
import Questbook.Proofs.Json.Text

set_option autoImplicit false

/-! # Written values read back

A value is plain if it holds no float and if no object in it has two fields of one name. The text of
a plain value that can be written states this value again (`readChars_written`), and so do its bytes
(`readBytes_render`).

The reader's bound on its depth is spent twice at each bracket and once at each comma, so twice the
length of what is read is enough.
-/

namespace Questbook.Json

open Text Numeral

/-! ## Plain values -/

mutual

/-- **Whether a value has one written form only.** -/
def Plain : Json → Prop
  | .float _ => False
  | .arr xs => PlainItems xs
  | .obj fs => (fs.map Prod.fst).Nodup ∧ PlainFields fs
  | _ => True

/-- Whether all items are plain. -/
def PlainItems : List Json → Prop
  | [] => True
  | x :: xs => x.Plain ∧ PlainItems xs

/-- Whether the values of all fields are plain. -/
def PlainFields : List (String × Json) → Prop
  | [] => True
  | f :: fs => f.2.Plain ∧ PlainFields fs

end

theorem plainItems_iff {xs : List Json} : PlainItems xs ↔ ∀ x ∈ xs, x.Plain := by
  induction xs with
  | nil => simp [PlainItems]
  | cons x xs ih => simp [PlainItems, ih]

theorem plainFields_iff {fs : List (String × Json)} : PlainFields fs ↔ ∀ f ∈ fs, f.2.Plain := by
  induction fs with
  | nil => simp [PlainFields]
  | cons f fs ih => simp only [PlainFields, ih, List.forall_mem_cons]

/-! ## Gaps -/

/-- Whether a character can stand between the parts of a value. -/
def isGapChar (c : Char) : Bool :=
  c = ' ' ∨ c = '\t' ∨ c = '\n' ∨ c = '\r'

/-- **Whether a text starts a value,** or is over: neither a gap nor a closing bracket comes
first. -/
def StartsValue (cs : List Char) : Prop :=
  ∀ c, cs.head? = some c → isGapChar c = false ∧ c ≠ ']' ∧ c ≠ '}'

theorem startsValue_nil : StartsValue [] := by
  intro c hc
  cases hc

theorem startsValue_cons {c : Char} {cs : List Char}
    (h : isGapChar c = false ∧ c ≠ ']' ∧ c ≠ '}') : StartsValue (c :: cs) := by
  intro d hd
  cases hd
  exact h

theorem skipGap_cons_of_gap {c : Char} (h : isGapChar c = true) (cs : List Char) :
    skipGap (c :: cs) = skipGap cs := by
  rw [skipGap, if_pos (by simpa [isGapChar] using h)]

theorem skipGap_cons_of_not_gap {c : Char} (h : isGapChar c = false) (cs : List Char) :
    skipGap (c :: cs) = c :: cs := by
  rw [skipGap, if_neg (by simpa [isGapChar] using h)]

theorem skipGap_of_startsValue {cs : List Char} (h : StartsValue cs) : skipGap cs = cs := by
  cases cs with
  | nil => rfl
  | cons c cs => exact skipGap_cons_of_not_gap (h c rfl).1 cs

theorem skipGap_lineGap (depth : Nat) (cs : List Char) :
    skipGap (lineGap depth ++ cs) = skipGap cs := by
  have hblanks : ∀ n, skipGap (List.replicate n ' ' ++ cs) = skipGap cs := by
    intro n
    induction n with
    | zero => rfl
    | succ n ih =>
        rw [List.replicate_succ, List.cons_append, skipGap_cons_of_gap (by decide), ih]
  unfold lineGap
  rw [List.cons_append, skipGap_cons_of_gap (by decide), hblanks]

theorem endsNumber_cons {c : Char} {cs : List Char}
    (h : c.isDigit = false ∧ c ≠ '.' ∧ c ≠ 'e' ∧ c ≠ 'E') : EndsNumber (c :: cs) := by
  intro d hd
  cases hd
  exact h

theorem endsNumber_lineGap (depth : Nat) (cs : List Char) : EndsNumber (lineGap depth ++ cs) :=
  endsNumber_cons (by decide)

/-! ## Values without parts -/

theorem readValue_of_digit {c : Char} (hc : c.isDigit = true) (fuel : Nat) (cs : List Char) :
    readValue (fuel + 1) (c :: cs) = readNumber (c :: cs) := by
  rw [readValue.eq_def]
  dsimp only
  split
  all_goals first
    | rfl
    | next heq =>
      obtain ⟨rfl, -⟩ := List.cons.inj heq
      exact absurd hc (by decide)

theorem readValue_of_minus {c : Char} (hc : c.isDigit = true) (fuel : Nat) (cs : List Char) :
    readValue (fuel + 1) ('-' :: c :: cs) = readNumber ('-' :: c :: cs) := by
  rw [readValue.eq_def]
  dsimp only
  split
  all_goals first
    | rfl
    | next heq =>
      obtain ⟨hminus, hrest⟩ := List.cons.inj heq
      first
        | exact absurd hminus (by decide)
        | obtain ⟨rfl, -⟩ := List.cons.inj hrest
          exact absurd hc (by decide)

theorem readValue_numeralChars (n : Int) (fuel : Nat) (rest : List Char) :
    readValue (fuel + 1) (numeralChars false n ++ rest) =
      readNumber (numeralChars false n ++ rest) := by
  cases hds : Nat.toDigits 10 n.natAbs with
  | nil => exact absurd hds Nat.toDigits_ne_nil
  | cons d ds =>
      have hd : d.isDigit = true := isDigit_of_mem_toDigits (m := n.natAbs) (by simp [hds])
      unfold numeralChars
      rw [hds]
      by_cases hn : n < 0
      · rw [if_pos hn]
        exact readValue_of_minus hd fuel (ds ++ rest)
      · rw [if_neg hn, if_neg (by simp)]
        exact readValue_of_digit hd fuel (ds ++ rest)

theorem exists_cons_numeralChars (n : Int) :
    ∃ c cs, numeralChars false n = c :: cs ∧ isGapChar c = false ∧ c ≠ ']' ∧ c ≠ '}' := by
  cases hds : Nat.toDigits 10 n.natAbs with
  | nil => exact absurd hds Nat.toDigits_ne_nil
  | cons d ds =>
      have hd : d.isDigit = true := isDigit_of_mem_toDigits (m := n.natAbs) (by simp [hds])
      unfold numeralChars
      rw [hds]
      by_cases hn : n < 0
      · rw [if_pos hn]
        exact ⟨'-', d :: ds, rfl, by decide⟩
      · rw [if_neg hn, if_neg (by simp)]
        refine ⟨d, ds, rfl, ?_, ?_, ?_⟩
        · cases hgap : isGapChar d with
          | false => rfl
          | true =>
              simp only [isGapChar, decide_eq_true_eq] at hgap
              rcases hgap with rfl | rfl | rfl | rfl <;> exact absurd hd (by decide)
        · rintro rfl
          exact absurd hd (by decide)
        · rintro rfl
          exact absurd hd (by decide)

theorem lt_writeLimit_of_hindrance? {n : Int} (h : hindrance? (.int n) = none) :
    n.natAbs < writeLimit := by
  have hif : (if writeLimit ≤ n.natAbs then some Fault.longNumeral else none) = none := h
  apply Nat.lt_of_not_le
  intro hle
  rw [if_pos hle] at hif
  cases hif

theorem hasHalf_of_hindrance? {s : String} (h : hindrance? (.str s) = none) : hasHalf s = false := by
  have hif : (if hasHalf s then some Fault.unencodable else none) = none := h
  cases hhalf : hasHalf s with
  | false => rfl
  | true =>
      rw [if_pos hhalf] at hif
      cases hif

/-- A written text is read up to its closing quote. -/
theorem readText_of_writtenText {s : String} (h : hasHalf s = false) (rest : List Char) :
    ∃ cs, writtenText s ++ rest = '"' :: cs ∧ readText cs = .ok (s.toList, rest) := by
  refine ⟨(points s.toList).flatMap writtenPoint ++ '"' :: rest, by simp [writtenText], ?_⟩
  exact readText_writtenText h rest

theorem readValue_writtenText {s : String} (h : hasHalf s = false) (fuel : Nat)
    (rest : List Char) : readValue (fuel + 1) (writtenText s ++ rest) = .ok (.str s, rest) := by
  obtain ⟨cs, hcs, hread⟩ := readText_of_writtenText h rest
  rw [hcs, readValue, hread]
  show Except.ok (Json.str (String.ofList s.toList), rest) = _
  rw [String.ofList_toList]

/-- Whether a value has no parts. -/
def isAtom : Json → Bool
  | .arr (_ :: _) => false
  | .obj (_ :: _) => false
  | _ => true

theorem exists_parts {j : Json} (h : ¬ j.isAtom = true) :
    (∃ x xs, j = .arr (x :: xs)) ∨ ∃ name x fs, j = .obj ((name, x) :: fs) := by
  cases j with
  | arr xs =>
      cases xs with
      | nil => exact absurd rfl h
      | cons x xs => exact Or.inl ⟨x, xs, rfl⟩
  | obj fs =>
      cases fs with
      | nil => exact absurd rfl h
      | cons f fs => exact Or.inr ⟨f.1, f.2, fs, rfl⟩
  | _ => exact absurd rfl h

theorem written_of_isAtom {j : Json} (h : j.isAtom = true) (style : Layout) (depth : Nat) :
    written style depth j = writtenAtom j := by
  cases j with
  | arr xs => cases xs <;> first | rfl | cases h
  | obj fs => cases fs <;> first | rfl | cases h
  | _ => rfl

theorem stoppedAt?_of_isAtom {j : Json} (h : j.isAtom = true) (style : Layout) (depth : Nat) :
    stoppedAt? style depth j = (hindrance? j).map fun f => ([], f) := by
  cases j with
  | arr xs => cases xs <;> first | rfl | cases h
  | obj fs => cases fs <;> first | rfl | cases h
  | _ => rfl

/-- **A value without parts is read back.** -/
theorem readValue_writtenAtom {j : Json} (hatom : j.isAtom = true) (hplain : j.Plain)
    (hwritten : hindrance? j = none) {fuel : Nat} {rest : List Char} (hrest : EndsNumber rest) :
    readValue (fuel + 1) (writtenAtom j ++ rest) = .ok (j, rest) := by
  cases j with
  | null => rfl
  | bool b => cases b <;> rfl
  | int n =>
      show readValue (fuel + 1) ((toString n).toList ++ rest) = _
      rw [toList_toString_int, readValue_numeralChars,
        readNumber_append (lt_writeLimit_of_hindrance? hwritten) hrest]
  | float x => exact hplain.elim
  | str s => exact readValue_writtenText (hasHalf_of_hindrance? hwritten) fuel rest
  | arr xs =>
      cases xs with
      | nil => rfl
      | cons x xs => cases hatom
  | obj fs =>
      cases fs with
      | nil => rfl
      | cons f fs => cases hatom

/-- No plain value starts like the space between values or like the end of one. -/
theorem exists_cons_written (style : Layout) (depth : Nat) {j : Json} (hplain : j.Plain) :
    ∃ c cs, written style depth j = c :: cs ∧ isGapChar c = false ∧ c ≠ ']' ∧ c ≠ '}' := by
  cases j with
  | null => exact ⟨'n', ['u', 'l', 'l'], rfl, by decide⟩
  | bool b =>
      cases b with
      | false => exact ⟨'f', ['a', 'l', 's', 'e'], rfl, by decide⟩
      | true => exact ⟨'t', ['r', 'u', 'e'], rfl, by decide⟩
  | int n =>
      obtain ⟨c, cs, hcs, hc⟩ := exists_cons_numeralChars n
      exact ⟨c, cs, (toList_toString_int n).trans hcs, hc⟩
  | float x => exact hplain.elim
  | str s => exact ⟨'"', (points s.toList).flatMap writtenPoint ++ ['"'], rfl, by decide⟩
  | arr xs => cases xs with
    | nil => exact ⟨'[', [']'], rfl, by decide⟩
    | cons x xs =>
      rw [written]
      exact ⟨'[', _, rfl, by decide⟩
  | obj fs => cases fs with
    | nil => exact ⟨'{', ['}'], rfl, by decide⟩
    | cons f fs =>
      rw [written]
      exact ⟨'{', _, rfl, by decide⟩

theorem startsValue_written (style : Layout) (depth : Nat) {j : Json} (hplain : j.Plain)
    (rest : List Char) : StartsValue (written style depth j ++ rest) := by
  obtain ⟨c, cs, hcs, hc⟩ := exists_cons_written style depth hplain
  rw [hcs]
  exact startsValue_cons hc

theorem length_written_pos (style : Layout) (depth : Nat) {j : Json} (hplain : j.Plain) :
    0 < (written style depth j).length := by
  obtain ⟨c, cs, hcs, -⟩ := exists_cons_written style depth hplain
  rw [hcs]
  exact Nat.succ_pos _

/-! ## Steps through lists and objects -/

variable {fuel depth : Nat} {cs rest : List Char} {x : Json}

theorem readValue_bracket (h : StartsValue cs) :
    readValue (fuel + 1) ('[' :: (lineGap depth ++ cs)) =
      (readItems fuel cs).map fun p => (.arr p.1, p.2) := by
  rw [readValue]
  rw [skipGap_lineGap, skipGap_of_startsValue h]
  split
  · exact absurd rfl (h ']' rfl).2.1
  · rfl

theorem readValue_brace (h : StartsValue cs) :
    readValue (fuel + 1) ('{' :: (lineGap depth ++ cs)) =
      (readFields fuel cs).map fun p => (.obj (mergeFields p.1), p.2) := by
  rw [readValue]
  rw [skipGap_lineGap, skipGap_of_startsValue h]
  split
  · exact absurd rfl (h '}' rfl).2.2
  · rfl

/-- The last item of a list. -/
theorem readItems_last (h : readValue fuel cs = .ok (x, lineGap depth ++ ']' :: rest)) :
    readItems (fuel + 1) cs = .ok ([x], rest) := by
  rw [readItems, h]
  dsimp only
  rw [skipGap_lineGap, skipGap_cons_of_not_gap (by decide)]
  rfl

/-- An item that another one follows. -/
theorem readItems_next {next : List Char}
    (h : readValue fuel cs = .ok (x, ',' :: (lineGap depth ++ next))) (hnext : StartsValue next) :
    readItems (fuel + 1) cs = (readItems fuel next).map fun p => (x :: p.1, p.2) := by
  rw [readItems, h]
  dsimp only
  rw [skipGap_cons_of_not_gap (by decide)]
  show (readItems fuel (skipGap (lineGap depth ++ next))).map _ = _
  rw [skipGap_lineGap, skipGap_of_startsValue hnext]

/-- What follows the value of a field. -/
def readAfterField (fuel : Nat) (name : String) :
    Except ReadFault (Json × List Char) → Except ReadFault (List (String × Json) × List Char)
  | .error e => .error e
  | .ok (x, rest) =>
    match skipGap rest with
    | ',' :: rest => (readFields fuel (skipGap rest)).map fun p => ((name, x) :: p.1, p.2)
    | '}' :: rest => .ok ([(name, x)], rest)
    | _ => .error .malformed

/-- A written name is followed by the value under it. -/
theorem readFields_writtenText {name : String} (hname : hasHalf name = false)
    (hcs : StartsValue cs) :
    readFields (fuel + 1) (writtenText name ++ ':' :: ' ' :: cs) =
      readAfterField fuel name (readValue fuel cs) := by
  obtain ⟨rest, hrest, hread⟩ := readText_of_writtenText hname (':' :: ' ' :: cs)
  have hgap : skipGap (':' :: ' ' :: cs) = ':' :: ' ' :: cs :=
    skipGap_cons_of_not_gap (by decide) _
  have hvalue : skipGap (' ' :: cs) = cs := by
    rw [skipGap_cons_of_gap (by decide), skipGap_of_startsValue hcs]
  rw [hrest, readFields, hread]
  dsimp only
  rw [hgap, String.ofList_toList]
  simp only [hvalue]
  cases readValue fuel cs with
  | error e => rfl
  | ok p => rfl

/-- The last field of an object. -/
theorem readAfterField_last (name : String) :
    readAfterField fuel name (.ok (x, lineGap depth ++ '}' :: rest)) = .ok ([(name, x)], rest) := by
  rw [readAfterField, skipGap_lineGap, skipGap_cons_of_not_gap (by decide)]
  rfl

/-- A field that another one follows. -/
theorem readAfterField_next (name : String) {next : List Char} (hnext : StartsValue next) :
    readAfterField fuel name (.ok (x, ',' :: (lineGap depth ++ next))) =
      (readFields fuel next).map fun p => ((name, x) :: p.1, p.2) := by
  rw [readAfterField, skipGap_cons_of_not_gap (by decide)]
  show (readFields fuel (skipGap (lineGap depth ++ next))).map _ = _
  rw [skipGap_lineGap, skipGap_of_startsValue hnext]

/-! ## Merging -/

theorem putField_of_not_mem {fs : List (String × Json)} {name : String}
    (h : name ∉ fs.map Prod.fst) (value : Json) : putField fs name value = fs ++ [(name, value)] := by
  induction fs with
  | nil => rfl
  | cons f fs ih =>
      rw [List.map_cons, List.mem_cons] at h
      rw [putField, if_neg fun heq => h (Or.inl heq.symm), ih fun hm => h (Or.inr hm)]
      rfl

/-- Fields with different names are kept as they are. -/
theorem mergeFields_of_nodup {fs : List (String × Json)} (h : (fs.map Prod.fst).Nodup) :
    mergeFields fs = fs := by
  have happend : ∀ gs : List (String × Json), ((gs ++ fs).map Prod.fst).Nodup →
      fs.foldl (fun acc f => putField acc f.1 f.2) gs = gs ++ fs := by
    clear h
    induction fs with
    | nil => intro gs _; rw [List.foldl_nil, List.append_nil]
    | cons f fs ih =>
        intro gs hnodup
        have hnew : f.1 ∉ gs.map Prod.fst := by
          intro hmem
          rw [List.map_append, List.nodup_append] at hnodup
          exact hnodup.2.2 f.1 hmem f.1 (by simp) rfl
        rw [List.foldl_cons, putField_of_not_mem hnew, ih, List.append_assoc]
        · rfl
        · rwa [List.append_assoc]
  exact happend [] h

/-! ## Whole values -/

theorem written_arr_append (depth : Nat) (x : Json) (xs : List Json) (rest : List Char) :
    written lines depth (.arr (x :: xs)) ++ rest =
      '[' :: (lineGap (depth + 1) ++ (written lines (depth + 1) x ++
        (writtenItems lines (depth + 1) xs ++ (lineGap depth ++ ']' :: rest)))) := by
  rw [written]
  simp [lines]

theorem written_obj_append (depth : Nat) (name : String) (x : Json) (fs : List (String × Json))
    (rest : List Char) :
    written lines depth (.obj ((name, x) :: fs)) ++ rest =
      '{' :: (lineGap (depth + 1) ++ (writtenText name ++ ':' :: ' ' ::
        (written lines (depth + 1) x ++
          (writtenFields lines (depth + 1) fs ++ (lineGap depth ++ '}' :: rest))))) := by
  rw [written]
  simp [lines]

theorem writtenItems_cons_append (depth : Nat) (x : Json) (xs : List Json) (rest : List Char) :
    writtenItems lines depth (x :: xs) ++ rest =
      ',' :: (lineGap depth ++ (written lines depth x ++ (writtenItems lines depth xs ++ rest))) := by
  rw [writtenItems]
  simp [lines]

theorem writtenFields_cons_append (depth : Nat) (name : String) (x : Json)
    (fs : List (String × Json)) (rest : List Char) :
    writtenFields lines depth ((name, x) :: fs) ++ rest =
      ',' :: (lineGap depth ++ (writtenText name ++ ':' :: ' ' ::
        (written lines depth x ++ (writtenFields lines depth fs ++ rest)))) := by
  rw [writtenFields]
  simp [lines]

theorem stoppedInItems?_cons_eq_none {style : Layout} {depth : Nat} {lead : List Char} {x : Json}
    {xs : List Json} (h : stoppedInItems? style depth lead (x :: xs) = none) :
    stoppedAt? style depth x = none ∧
      stoppedInItems? style depth (',' :: style.between depth) xs = none := by
  rw [stoppedInItems?] at h
  split at h
  · cases h
  · next hx => exact ⟨hx, Option.map_eq_none_iff.mp h⟩

theorem stoppedInFields?_cons_eq_none {style : Layout} {depth : Nat} {lead : List Char}
    {name : String} {x : Json} {fs : List (String × Json)}
    (h : stoppedInFields? style depth lead ((name, x) :: fs) = none) :
    hasHalf name = false ∧ stoppedAt? style depth x = none ∧
      stoppedInFields? style depth (',' :: style.between depth) fs = none := by
  rw [stoppedInFields?] at h
  split at h
  · cases h
  · next hname =>
    split at h
    · cases h
    · next hx => exact ⟨hasHalf_of_hindrance? hname, hx, Option.map_eq_none_iff.mp h⟩

theorem startsValue_writtenText (name : String) (rest : List Char) :
    StartsValue (writtenText name ++ rest) :=
  startsValue_cons (by decide)

mutual

/-- **A written value is read back,** and what follows it is left. -/
theorem readValue_written {j : Json} (hplain : j.Plain) (depth : Nat)
    (hwhole : stoppedAt? lines depth j = none) {fuel : Nat} {rest : List Char}
    (hfuel : 2 * (written lines depth j).length ≤ fuel) (hrest : EndsNumber rest) :
    readValue fuel (written lines depth j ++ rest) = .ok (j, rest) := by
  have hpos := length_written_pos lines depth hplain
  obtain ⟨fuel, rfl⟩ : ∃ k, fuel = k + 1 := ⟨fuel - 1, by omega⟩
  by_cases hatom : j.isAtom = true
  · rw [stoppedAt?_of_isAtom hatom] at hwhole
    rw [written_of_isAtom hatom]
    exact readValue_writtenAtom hatom hplain (Option.map_eq_none_iff.mp hwhole) hrest
  · rw [← List.append_nil (written lines depth j)] at hfuel
    rcases exists_parts hatom with ⟨x, xs, hj⟩ | ⟨name, x, fs, hj⟩
    · have hsize : sizeOf x + sizeOf xs + 1 < sizeOf j := by
        rw [hj]
        simp
        omega
      rw [hj] at hplain hwhole hfuel ⊢
      rw [written_arr_append] at hfuel ⊢
      rw [readValue_bracket (startsValue_written _ _ hplain.1 _),
        readItems_written hplain.1 hplain.2 (depth + 1) hwhole]
      · rfl
      · simp only [List.length_cons, List.length_append] at hfuel ⊢
        omega
    · have hsize : sizeOf x + sizeOf fs + 1 < sizeOf j := by
        rw [hj]
        simp
        omega
      rw [hj] at hplain hwhole hfuel ⊢
      rw [written_obj_append] at hfuel ⊢
      rw [readValue_brace (startsValue_writtenText _ _),
        readFields_written hplain.2.1 hplain.2.2 (depth + 1) hwhole]
      · show Except.ok (Json.obj (mergeFields _), rest) = _
        rw [mergeFields_of_nodup hplain.1]
      · simp only [List.length_cons, List.length_append] at hfuel ⊢
        omega
termination_by sizeOf j

/-- Written items are read back up to the closing bracket. -/
theorem readItems_written {x : Json} {xs : List Json} (hx : x.Plain) (hxs : PlainItems xs)
    (depth : Nat) {lead : List Char} (hwhole : stoppedInItems? lines depth lead (x :: xs) = none)
    {fuel closing : Nat} {rest : List Char}
    (hfuel : 2 * (written lines depth x ++ writtenItems lines depth xs).length + 1 ≤ fuel) :
    readItems fuel (written lines depth x ++ (writtenItems lines depth xs ++
      (lineGap closing ++ ']' :: rest))) = .ok (x :: xs, rest) := by
  obtain ⟨fuel, rfl⟩ : ∃ k, fuel = k + 1 := ⟨fuel - 1, by omega⟩
  obtain ⟨hself, htail⟩ := stoppedInItems?_cons_eq_none hwhole
  rw [List.length_append] at hfuel
  have hread : ∀ after, EndsNumber after →
      readValue fuel (written lines depth x ++ after) = .ok (x, after) :=
    fun after hafter => readValue_written hx depth hself (by omega) hafter
  cases xs with
  | nil => exact readItems_last (hread _ (endsNumber_lineGap _ _))
  | cons y ys =>
      have hlength : (writtenItems lines depth (y :: ys)).length =
          (',' :: (lineGap depth ++ (written lines depth y ++ writtenItems lines depth ys))).length := by
        rw [← List.append_nil (writtenItems lines depth (y :: ys)), writtenItems_cons_append,
          List.append_nil]
      rw [hlength] at hfuel
      simp only [List.length_cons, List.length_append] at hfuel
      rw [writtenItems_cons_append,
        readItems_next (hread _ (endsNumber_cons (by decide))) (startsValue_written _ _ hxs.1 _),
        readItems_written hxs.1 hxs.2 depth htail]
      · rfl
      · rw [List.length_append]
        omega
termination_by sizeOf x + sizeOf xs + 1

/-- Written fields are read back up to the closing brace. -/
theorem readFields_written {name : String} {x : Json} {fs : List (String × Json)} (hx : x.Plain)
    (hfs : PlainFields fs) (depth : Nat) {lead : List Char}
    (hwhole : stoppedInFields? lines depth lead ((name, x) :: fs) = none)
    {fuel closing : Nat} {rest : List Char}
    (hfuel : 2 * (written lines depth x ++ writtenFields lines depth fs).length + 1 ≤ fuel) :
    readFields fuel (writtenText name ++ ':' :: ' ' :: (written lines depth x ++
      (writtenFields lines depth fs ++ (lineGap closing ++ '}' :: rest)))) =
      .ok ((name, x) :: fs, rest) := by
  obtain ⟨fuel, rfl⟩ : ∃ k, fuel = k + 1 := ⟨fuel - 1, by omega⟩
  obtain ⟨hname, hself, htail⟩ := stoppedInFields?_cons_eq_none hwhole
  rw [List.length_append] at hfuel
  have hread : ∀ after, EndsNumber after →
      readValue fuel (written lines depth x ++ after) = .ok (x, after) :=
    fun after hafter => readValue_written hx depth hself (by omega) hafter
  have hfirst : ∀ after, readFields (fuel + 1) (writtenText name ++ ':' :: ' ' ::
      (written lines depth x ++ after)) =
        readAfterField fuel name (readValue fuel (written lines depth x ++ after)) :=
    fun after => readFields_writtenText hname (startsValue_written _ _ hx after)
  cases fs with
  | nil =>
      rw [hfirst, writtenFields, List.nil_append, hread _ (endsNumber_lineGap _ _)]
      exact readAfterField_last name
  | cons g gs =>
      obtain ⟨hy, hgs⟩ : g.2.Plain ∧ PlainFields gs := hfs
      have hsize : sizeOf g = 1 + sizeOf g.1 + sizeOf g.2 := rfl
      have hlength : (writtenFields lines depth (g :: gs)).length =
          (',' :: (lineGap depth ++ (writtenText g.1 ++ ':' :: ' ' ::
            (written lines depth g.2 ++ writtenFields lines depth gs)))).length := by
        rw [← List.append_nil (writtenFields lines depth (g :: gs)),
          writtenFields_cons_append depth g.1, List.append_nil]
      rw [hlength] at hfuel
      simp only [List.length_cons, List.length_append] at hfuel
      rw [hfirst, writtenFields_cons_append depth g.1, hread _ (endsNumber_cons (by decide)),
        readAfterField_next name (startsValue_writtenText _ _),
        readFields_written hy hgs depth htail]
      · rfl
      · rw [List.length_append]
        omega
termination_by sizeOf x + sizeOf fs + 1
decreasing_by
  · omega
  · subst_vars
    simp only [List.cons.sizeOf_spec]
    omega

end

/-! ## Documents -/

/-- **The text of a plain value that can be written states this value.** -/
theorem readChars_written {j : Json} (hplain : j.Plain) (hwhole : stoppedAt? lines 0 j = none) :
    readChars (written lines 0 j) = .ok j := by
  have hstart := startsValue_written lines 0 hplain []
  have hread := readValue_written hplain 0 hwhole (Nat.le_add_right _ 2) endsNumber_nil
  rw [List.append_nil] at hstart hread
  unfold readChars
  rw [skipGap_of_startsValue hstart, hread]
  rfl

theorem fromUTF8?_toUTF8 (s : String) : String.fromUTF8? s.toUTF8 = some s := by
  unfold String.fromUTF8?
  exact dif_pos s.isValidUTF8

/-- The bytes of a text state what the text states. -/
theorem readBytes_toUTF8 (s : String) : readBytes s.toUTF8 = readChars s.toList := by
  unfold readBytes
  rw [fromUTF8?_toUTF8]
  rfl

/-- The same for its bytes. -/
theorem readBytes_render {j : Json} (hplain : j.Plain) (hwhole : stoppedAt? lines 0 j = none) :
    readBytes j.render.toUTF8 = .ok j := by
  rw [readBytes_toUTF8]
  show readChars (String.ofList (written lines 0 j)).toList = _
  rw [String.toList_ofList, readChars_written hplain hwhole]

end Questbook.Json
