import Questbook.Json.Reader
import Questbook.Proofs.Outcome

set_option autoImplicit false

/-! # Numerals that are too long

Reading a document gives a fault of its own if a whole number in it has too many digits. This happens
for texts with a long run of digits only (`exists_longRun_of_readBytes`).

Every reader of a part of a text leaves a suffix of the text, and a reader that meets a long numeral
has met its digits in the text. `Scans` says both, so that it is kept from reader to reader.
-/

namespace Questbook.Json

open Numeral

variable {α β : Type} {cs rest : List Char}

/-- **Whether a text has a run of more digits** than a numeral may have. -/
def HasLongRun (cs : List Char) : Prop :=
  ∃ run, run <:+: cs ∧ (∀ c ∈ run, (Text.asciiDigitValue? c).isSome = true) ∧
    maxDigits < run.length

theorem HasLongRun.of_suffix (h : HasLongRun rest) (hrest : rest <:+ cs) : HasLongRun cs := by
  obtain ⟨run, hrun, hdigits, hlength⟩ := h
  exact ⟨run, hrun.trans hrest.isInfix, hdigits, hlength⟩

/-- **What a reader of a text does:** it leaves a suffix of the text, and it meets a numeral that is too
long only in a long run of digits. -/
structure Scans (cs : List Char) (r : Except ReadFault (α × List Char)) : Prop where
  leaves : ∀ a rest, r = .ok (a, rest) → rest <:+ cs
  meets : r = .error .longNumeral → HasLongRun cs

theorem scans_ok {a : α} (h : rest <:+ cs) : Scans cs (.ok (a, rest)) := by
  refine ⟨?_, nofun⟩
  rintro a' rest' hr
  cases hr
  exact h

theorem scans_malformed (cs : List Char) :
    Scans cs (.error .malformed : Except ReadFault (α × List Char)) :=
  ⟨nofun, nofun⟩

theorem Scans.of_suffix {r : Except ReadFault (α × List Char)} (h : Scans rest r)
    (hrest : rest <:+ cs) : Scans cs r :=
  ⟨fun a rest' hr => (h.leaves a rest' hr).trans hrest, fun hr => (h.meets hr).of_suffix hrest⟩

/-- A reader stops where another one has stopped. -/
theorem Scans.error {r : Except ReadFault (α × List Char)} (h : Scans cs r) {e : ReadFault}
    (hr : r = .error e) : Scans cs (.error e : Except ReadFault (β × List Char)) := by
  refine ⟨nofun, fun he => h.meets ?_⟩
  cases he
  exact hr

/-- What is made of the value that was read does not matter. -/
theorem Scans.map {r : Except ReadFault (α × List Char)} (h : Scans cs r) (f : α → β) :
    Scans cs (r.map fun p => (f p.1, p.2)) := by
  constructor
  · intro b rest hr
    obtain ⟨p, hp, hpair⟩ := map_eq_ok_iff.mp hr
    cases hpair
    exact h.leaves p.1 p.2 hp
  · exact fun hr => h.meets (map_eq_error_iff.mp hr)

/-! ## Gaps and texts -/

theorem skipGap_suffix (cs : List Char) : skipGap cs <:+ cs := by
  induction cs with
  | nil => exact List.suffix_refl []
  | cons c cs ih =>
      unfold skipGap
      split
      · exact ih.trans (List.suffix_cons c cs)
      · exact List.suffix_refl (c :: cs)

theorem Scans.consPoint {r : Except ReadFault (List Char × List Char)} (h : Scans rest r)
    (hrest : rest <:+ cs) (n : Nat) : Scans cs (consPoint n r) :=
  (h.map (Text.kept n ++ ·)).of_suffix hrest

theorem scans_readText (cs : List Char) : Scans cs (readText cs) := by
  -- a code point is put in front of what is read from the text after it, or the text is malformed
  fun_induction readText cs with
  | case1 cs => exact scans_ok (List.suffix_cons '"' cs)
  | case4 a b c d n _ e f g h rest m _ _ ih =>
      exact ih.consPoint (List.suffix_append ['\\', 'u', a, b, c, d, '\\', 'u', e, f, g, h] rest) _
  | case5 a b c d n _ e f g h rest m _ _ ih =>
      exact ih.consPoint (List.suffix_append ['\\', 'u', a, b, c, d] _) _
  | case6 a b c d n _ cs _ ih => exact ih.consPoint (List.suffix_append ['\\', 'u', a, b, c, d] cs) _
  | case7 c cs _ e _ ih => exact ih.consPoint (List.suffix_append ['\\', c] cs) e.toNat
  | case10 c cs _ _ _ _ ih => exact ih.consPoint (List.suffix_cons c cs) c.toNat
  | _ => exact scans_malformed _

/-! ## Numbers -/

/-- The digits that a text starts with are a run of it. -/
theorem exists_run_of_spanDigits (cs : List Char) :
    ∃ run, cs = run ++ (spanDigits cs).2 ∧ run.length = (spanDigits cs).1.length ∧
      ∀ c ∈ run, (Text.asciiDigitValue? c).isSome = true := by
  induction cs with
  | nil => exact ⟨[], rfl, rfl, nofun⟩
  | cons c cs ih =>
      rw [spanDigits]
      split
      · next d hd =>
        obtain ⟨run, hsplit, hlength, hdigits⟩ := ih
        refine ⟨c :: run, congrArg (c :: ·) hsplit, congrArg (· + 1) hlength, ?_⟩
        exact List.forall_mem_cons.mpr ⟨by rw [hd]; rfl, hdigits⟩
      · exact ⟨[], rfl, rfl, nofun⟩

theorem spanDigits_suffix (cs : List Char) : (spanDigits cs).2 <:+ cs := by
  obtain ⟨run, hsplit, -⟩ := exists_run_of_spanDigits cs
  exact ⟨run, hsplit.symm⟩

theorem readFraction_suffix (cs : List Char) : (readFraction cs).2 <:+ cs := by
  unfold readFraction
  split
  · next rest =>
    split
    · exact List.suffix_refl _
    · exact (spanDigits_suffix rest).trans (List.suffix_cons '.' rest)
  · exact List.suffix_refl _

theorem cutSign_suffix (cs : List Char) : (cutSign cs).2 <:+ cs := by
  unfold cutSign
  split
  · exact List.suffix_cons _ _
  · exact List.suffix_cons _ _
  · exact List.suffix_refl _

theorem readExponent_suffix (cs : List Char) : (readExponent cs).2 <:+ cs := by
  unfold readExponent
  split
  · next c rest =>
    split
    · dsimp only
      split
      · exact List.suffix_refl _
      · next ds r _ hdigits =>
        have hr := (spanDigits_suffix (cutSign rest).2).trans (cutSign_suffix rest)
        rw [hdigits] at hr
        exact hr.trans (List.suffix_cons c rest)
    · exact List.suffix_refl _
  · exact List.suffix_refl _

/-- Long digits before the point are a long run of the text. -/
theorem hasLongRun_of_readWholePart (h : maxDigits < (readWholePart cs).1.length) :
    HasLongRun cs := by
  unfold readWholePart at h
  split at h
  · exact absurd h (Nat.not_lt_of_le (by decide : 1 ≤ maxDigits))
  · obtain ⟨run, hsplit, hlength, hdigits⟩ := exists_run_of_spanDigits cs
    exact ⟨run, ⟨[], _, hsplit.symm⟩, hdigits, by omega⟩

theorem readWholePart_suffix (cs : List Char) : (readWholePart cs).2 <:+ cs := by
  unfold readWholePart
  split
  · exact List.suffix_cons _ _
  · exact spanDigits_suffix cs

theorem numberOf_eq_error_longNumeral {negative : Bool} {whole fraction : List Nat}
    {exponent : Option Int} (h : numberOf negative whole fraction exponent = .error .longNumeral) :
    maxDigits < whole.length := by
  unfold numberOf at h
  split at h
  · split at h
    · next hlong => exact hlong
    · cases h
  · cases h

/-- A number is read from the digits after its sign on. -/
theorem scans_numberOf {negative : Bool} {body after : List Char} {whole : List Nat}
    (hbody : body <:+ cs) (hwhole : readWholePart body = (whole, after)) :
    Scans cs ((numberOf negative whole (readFraction after).1
      (readExponent (readFraction after).2).1).map fun j =>
        (j, (readExponent (readFraction after).2).2)) := by
  have hafter : after <:+ cs := by
    rw [← show _ = after from congrArg Prod.snd hwhole]
    exact (readWholePart_suffix body).trans hbody
  constructor
  · intro j rest hr
    obtain ⟨number, -, hpair⟩ := map_eq_ok_iff.mp hr
    cases hpair
    exact ((readExponent_suffix _).trans (readFraction_suffix after)).trans hafter
  · intro hr
    have hlong := numberOf_eq_error_longNumeral (map_eq_error_iff.mp hr)
    rw [← show _ = whole from congrArg Prod.fst hwhole] at hlong
    exact (hasLongRun_of_readWholePart hlong).of_suffix hbody

theorem scans_readNumber (cs : List Char) : Scans cs (readNumber cs) := by
  unfold readNumber
  dsimp only
  split
  · exact scans_malformed cs
  · next whole after _ hwhole =>
    refine scans_numberOf ?_ hwhole
    split
    · exact List.suffix_cons _ _
    · exact List.suffix_refl _

/-! ## Values -/

/-- What the readers of values, items and fields do up to a depth. -/
structure ScansTo (depth : Nat) : Prop where
  value : ∀ cs, Scans cs (readValue depth cs)
  items : ∀ cs, Scans cs (readItems depth cs)
  fields : ∀ cs, Scans cs (readFields depth cs)

theorem ScansTo.zero : ScansTo 0 :=
  ⟨scans_malformed, scans_malformed, scans_malformed⟩

/-- What follows an opening bracket or brace, after a gap. -/
theorem afterGap_suffix (c : Char) {inner : List Char} (h : skipGap cs = inner) :
    inner <:+ c :: cs := by
  rw [← h]
  exact (skipGap_suffix cs).trans (List.suffix_cons c cs)

theorem ScansTo.value_succ {depth : Nat} (ih : ScansTo depth) (cs : List Char) :
    Scans cs (readValue (depth + 1) cs) := by
  unfold readValue
  split
  · next rest =>
    exact ((scans_readText rest).map fun t => Json.str (String.ofList t)).of_suffix
      (List.suffix_cons '"' rest)
  · next rest =>
    split
    · next after hgap => exact scans_ok ((List.suffix_cons ']' after).trans (afterGap_suffix '[' hgap))
    · exact ((ih.items _).map Json.arr).of_suffix (afterGap_suffix '[' rfl)
  · next rest =>
    split
    · next after hgap => exact scans_ok ((List.suffix_cons '}' after).trans (afterGap_suffix '{' hgap))
    · exact ((ih.fields _).map fun fs => Json.obj (mergeFields fs)).of_suffix
        (afterGap_suffix '{' rfl)
  -- null, the truth values and the floats that have names
  · exact scans_ok (List.suffix_append ['n', 'u', 'l', 'l'] _)
  · exact scans_ok (List.suffix_append ['t', 'r', 'u', 'e'] _)
  · exact scans_ok (List.suffix_append ['f', 'a', 'l', 's', 'e'] _)
  · exact scans_ok (List.suffix_append ['N', 'a', 'N'] _)
  · exact scans_ok (List.suffix_append ['I', 'n', 'f', 'i', 'n', 'i', 't', 'y'] _)
  · exact scans_ok (List.suffix_append ['-', 'I', 'n', 'f', 'i', 'n', 'i', 't', 'y'] _)
  · exact scans_readNumber cs

theorem ScansTo.items_succ {depth : Nat} (ih : ScansTo depth) (cs : List Char) :
    Scans cs (readItems (depth + 1) cs) := by
  unfold readItems
  have hfirst := ih.value cs
  split
  · next e he => exact hfirst.error he
  · next x rest hx =>
    have hrest := hfirst.leaves x rest hx
    have hgap := (skipGap_suffix rest).trans hrest
    split
    · next after hafter =>
      rw [hafter] at hgap
      exact ((ih.items _).map (x :: ·)).of_suffix ((afterGap_suffix ',' rfl).trans hgap)
    · next after hafter =>
      rw [hafter] at hgap
      exact scans_ok ((List.suffix_cons ']' after).trans hgap)
    · exact scans_malformed cs

theorem ScansTo.fields_succ {depth : Nat} (ih : ScansTo depth) (cs : List Char) :
    Scans cs (readFields (depth + 1) cs) := by
  unfold readFields
  split
  · next rest =>
    have hname := (scans_readText rest).of_suffix (List.suffix_cons '"' rest)
    split
    · next e he => exact hname.error he
    · next name rest hname' =>
      have hcolon := (skipGap_suffix rest).trans (hname.leaves _ _ hname')
      split
      · next after hafter =>
        rw [hafter] at hcolon
        have hvalue := (ih.value (skipGap after)).of_suffix
          ((afterGap_suffix ':' rfl).trans hcolon)
        split
        · next e he => exact hvalue.error he
        · next x rest hx =>
          have hgap := (skipGap_suffix rest).trans (hvalue.leaves x rest hx)
          split
          · next after hafter =>
            rw [hafter] at hgap
            exact ((ih.fields _).map ((String.ofList name, x) :: ·)).of_suffix
              ((afterGap_suffix ',' rfl).trans hgap)
          · next after hafter =>
            rw [hafter] at hgap
            exact scans_ok ((List.suffix_cons '}' after).trans hgap)
          · exact scans_malformed _
      · exact scans_malformed _
  · exact scans_malformed _

theorem scansTo (depth : Nat) : ScansTo depth := by
  induction depth with
  | zero => exact .zero
  | succ depth ih => exact ⟨ih.value_succ, ih.items_succ, ih.fields_succ⟩

/-- **A numeral that is too long is met only in a long run of digits** of the text. -/
theorem exists_longRun_of_readBytes {bytes : ByteArray}
    (h : readBytes bytes = .error .longNumeral) :
    ∃ s, String.fromUTF8? bytes = some s ∧ HasLongRun s.toList := by
  unfold readBytes at h
  split at h
  · next s hs =>
    refine ⟨s, hs, ?_⟩
    unfold Json.read readChars at h
    split at h
    · next e he =>
      cases h
      exact (((scansTo _).value _).meets he).of_suffix (skipGap_suffix _)
    · split at h <;> cases h
  · cases h

end Questbook.Json
