import Questbook.Book.Basic
import Questbook.Proofs.Json.Written
import Questbook.Proofs.Outcome

set_option autoImplicit false

/-! # Books that are read again

The document of a book is always read again (`Book.ofJson_toJson`), and what comes of it is the same book with
the defaults in the place of what does not count as given (`Book.reread`). A book that was read from a document
has its defaults already, with one exception: a block or a page that states no text but null keeps the null, which
is replaced when it is read the second time. `Book.LeavesTextOut` says of a document that it holds such a block or
page; all other documents give books that stay as they are (`Book.reread_eq_self_of_ofJson`).
-/

namespace Questbook

open Json

variable {j : Json}

/-! ## What is read of the documents of the parts -/

/-- A value, or the empty text in the place of null. -/
def Json.orEmpty : Json → Json
  | .null => .str ""
  | v => v

/-- What is read from the document of a block. -/
def ContentBlock.reread (b : ContentBlock) : ContentBlock :=
  { b with text := b.text.orEmpty }

/-- What is read from the document of a page. -/
def FrontPage.reread (p : FrontPage) : FrontPage :=
  { p with text := p.text.orEmpty }

/-- What is read from the document of an outcome. -/
def RandomOutcome.reread (o : RandomOutcome) : RandomOutcome :=
  { o with target := o.target.orElse (.str "") }

/-- What is read from the document of a choice. -/
def Choice.reread (c : Choice) : Choice :=
  { c with
    text := c.text.orElse (.str "")
    target := c.target.orElse (.str "")
    outcomes := c.outcomes.map RandomOutcome.reread }

/-- What is read from the document of a section. -/
def Section.reread (s : Section) : Section :=
  { s with
    title := s.title.orElse (.str "")
    blocks := s.blocks.map ContentBlock.reread
    choices := s.choices.map Choice.reread }

/-- **What is read from the document of a book.** -/
def Book.reread (b : Book) : Book where
  id := b.id.orElse (.str "")
  series := b.series.orElse (.str "")
  title := b.title.orElse (.str "")
  frontPages := b.frontPages.map FrontPage.reread
  sections := b.sections.map Section.reread

theorem blockText_obj {fs : List (String × Json)} {v : Json} (htext : field? "text" fs = some v)
    (hhtml : (Json.obj fs).fieldOr "html" (.str "") = .ok (.str "")) :
    blockText (.obj fs) = .ok v.orEmpty := by
  unfold blockText
  rw [fieldOr_obj htext]
  cases v with
  | null => exact hhtml
  | _ => rfl

theorem ContentBlock.ofJson_toJson (b : ContentBlock) :
    ContentBlock.ofJson b.toJson = .ok b.reread := by
  unfold ContentBlock.ofJson ContentBlock.toJson
  rw [blockText_obj rfl rfl, fieldOr_obj rfl]
  rfl

theorem FrontPage.ofJson_toJson (p : FrontPage) : FrontPage.ofJson p.toJson = .ok p.reread := by
  unfold FrontPage.ofJson FrontPage.toJson
  rw [blockText_obj rfl rfl, fieldOr_obj rfl, fieldOr_obj rfl]
  rfl

theorem RandomOutcome.ofJson_toJson (o : RandomOutcome) :
    RandomOutcome.ofJson o.toJson = .ok o.reread := by
  unfold RandomOutcome.ofJson RandomOutcome.toJson
  rw [wholeOr_obj rfl, wholeOr_obj rfl, givenOr_obj rfl, listed_obj rfl]
  rfl

theorem Choice.ofJson_toJson (c : Choice) : Choice.ofJson c.toJson = .ok c.reread := by
  unfold Choice.ofJson Choice.toJson
  rw [givenOr_obj rfl, givenOr_obj rfl, listed_obj rfl, listed_obj rfl, listed_obj rfl,
    records_obj_map (fun o _ => RandomOutcome.ofJson_toJson o) rfl]
  rfl

theorem Section.ofJson_toJson (s : Section) : Section.ofJson s.toJson = .ok s.reread := by
  unfold Section.ofJson Section.toJson
  rw [fieldOr_obj rfl, givenOr_obj rfl, records_obj_map (fun b _ => ContentBlock.ofJson_toJson b) rfl,
    records_obj_map (fun c _ => Choice.ofJson_toJson c) rfl]
  rfl

/-- **The document of a book is read again.** -/
theorem Book.ofJson_toJson (b : Book) : Book.ofJson b.toJson = .ok b.reread := by
  unfold Book.ofJson Book.toJson
  rw [givenOr_obj rfl, givenOr_obj rfl, givenOr_obj rfl,
    records_obj_map (fun p _ => FrontPage.ofJson_toJson p) rfl,
    records_obj_map (fun s _ => Section.ofJson_toJson s) rfl]
  rfl

/-! ## Nothing changes the second time -/

theorem orEmpty_orEmpty (v : Json) : v.orEmpty.orEmpty = v.orEmpty := by
  cases v <;> rfl

theorem map_map_eq_of_idempotent {α : Type} {f : α → α} (h : ∀ x, f (f x) = f x) (xs : List α) :
    (xs.map f).map f = xs.map f :=
  map_eq_self_iff.mpr fun y hy => by
    obtain ⟨x, -, rfl⟩ := List.mem_map.mp hy
    exact h x

theorem ContentBlock.reread_reread (b : ContentBlock) : b.reread.reread = b.reread := by
  simp only [reread, orEmpty_orEmpty]

theorem FrontPage.reread_reread (p : FrontPage) : p.reread.reread = p.reread := by
  simp only [reread, orEmpty_orEmpty]

theorem RandomOutcome.reread_reread (o : RandomOutcome) : o.reread.reread = o.reread := by
  simp only [reread, orElse_orElse]

theorem Choice.reread_reread (c : Choice) : c.reread.reread = c.reread := by
  simp only [reread, orElse_orElse, map_map_eq_of_idempotent RandomOutcome.reread_reread]

theorem Section.reread_reread (s : Section) : s.reread.reread = s.reread := by
  simp only [reread, orElse_orElse, map_map_eq_of_idempotent ContentBlock.reread_reread,
    map_map_eq_of_idempotent Choice.reread_reread]

theorem Book.reread_reread (b : Book) : b.reread.reread = b.reread := by
  simp only [reread, orElse_orElse, map_map_eq_of_idempotent FrontPage.reread_reread,
    map_map_eq_of_idempotent Section.reread_reread]

/-! ## Documents that leave a text out -/

/-- Whether a value is one of those that a field lists. -/
def Json.Lists (j : Json) (name : String) (x : Json) : Prop :=
  ∃ xs, j.listed name = .ok xs ∧ x ∈ xs

theorem lists_iff {name : String} {xs : List Json} (h : j.listed name = .ok xs) (x : Json) :
    j.Lists name x ↔ x ∈ xs := by
  constructor
  · rintro ⟨ys, hys, hx⟩
    rwa [Except.ok.inj (h.symm.trans hys)]
  · exact fun hx => ⟨xs, h, hx⟩

/-- **Whether a block or page states null for its text:** under `html`, and nothing or null under
`text`. -/
def Json.LeavesTextOut (j : Json) : Prop :=
  (j.field "text" = .ok none ∨ j.field "text" = .ok (some .null)) ∧
    j.field "html" = .ok (some .null)

/-- Whether a section has a block that leaves its text out. -/
def Section.LeavesTextOut (j : Json) : Prop :=
  ∃ block, j.Lists "blocks" block ∧ block.LeavesTextOut

/-- **Whether a book has a page or a block that leaves its text out.** -/
def Book.LeavesTextOut (j : Json) : Prop :=
  (∃ page, j.Lists "frontMatter" page ∧ page.LeavesTextOut) ∨
    ∃ s, j.Lists "sections" s ∧ Section.LeavesTextOut s

theorem fieldOr_eq_ok_iff {name : String} {default v : Json} :
    j.fieldOr name default = .ok v ↔
      (j.field name = .ok none ∧ v = default) ∨ j.field name = .ok (some v) := by
  unfold fieldOr
  rw [map_eq_ok_iff]
  constructor
  · rintro ⟨found, hfound, rfl⟩
    cases found with
    | none => exact Or.inl ⟨hfound, rfl⟩
    | some w => exact Or.inr hfound
  · rintro (⟨hnone, rfl⟩ | hsome)
    · exact ⟨none, hnone, rfl⟩
    · exact ⟨some v, hsome, rfl⟩

theorem blockText_eq_null_iff : blockText j = .ok .null ↔ j.LeavesTextOut := by
  have htext : j.fieldOr "text" .null = .ok .null ↔
      j.field "text" = .ok none ∨ j.field "text" = .ok (some .null) := by
    simp [fieldOr_eq_ok_iff]
  have hhtml : j.fieldOr "html" (.str "") = .ok .null ↔ j.field "html" = .ok (some .null) := by
    simp [fieldOr_eq_ok_iff]
  unfold blockText LeavesTextOut
  rw [bind_eq_ok_iff, ← htext, ← hhtml]
  constructor
  · rintro ⟨v, hv, hrest⟩
    split at hrest
    · exact ⟨hv, hrest⟩
    · next hnull => exact absurd (Except.ok.inj hrest) hnull
  · rintro ⟨hnull, hrest⟩
    exact ⟨.null, hnull, hrest⟩

theorem ContentBlock.text_eq_null_iff {b : ContentBlock} (h : ContentBlock.ofJson j = .ok b) :
    b.text = .null ↔ j.LeavesTextOut := by
  obtain ⟨text, htext, h⟩ := bind_eq_ok_iff.mp h
  obtain ⟨kind, -, h⟩ := bind_eq_ok_iff.mp h
  cases h
  rw [← blockText_eq_null_iff, htext]
  exact ⟨congrArg Except.ok, Except.ok.inj⟩

theorem FrontPage.text_eq_null_iff {p : FrontPage} (h : FrontPage.ofJson j = .ok p) :
    p.text = .null ↔ j.LeavesTextOut := by
  obtain ⟨text, htext, h⟩ := bind_eq_ok_iff.mp h
  obtain ⟨id, -, h⟩ := bind_eq_ok_iff.mp h
  obtain ⟨title, -, h⟩ := bind_eq_ok_iff.mp h
  cases h
  rw [← blockText_eq_null_iff, htext]
  exact ⟨congrArg Except.ok, Except.ok.inj⟩

/-- One of the records of a list is of a kind if one of the listed values is of the kind that gives such
records. -/
theorem exists_mem_records_iff {α : Type} {readRecord : Json → Except Fault α} {name : String}
    {ys : List α} (h : records readRecord j name = .ok ys) {P : α → Prop} {Q : Json → Prop}
    (hkinds : ∀ x y, readRecord x = .ok y → (P y ↔ Q x)) :
    (∃ y ∈ ys, P y) ↔ ∃ x, j.Lists name x ∧ Q x := by
  obtain ⟨xs, hxs, hys⟩ := bind_eq_ok_iff.mp h
  constructor
  · rintro ⟨y, hy, hkind⟩
    obtain ⟨x, hx, hread⟩ := mem_of_mapM hys y hy
    exact ⟨x, ⟨xs, hxs, hx⟩, (hkinds x y hread).mp hkind⟩
  · rintro ⟨x, hx, hkind⟩
    obtain ⟨y, hy, hread⟩ := exists_of_mem_of_mapM hys x ((lists_iff hxs x).mp hx)
    exact ⟨y, hy, (hkinds x y hread).mpr hkind⟩

theorem Section.null_text_iff {s : Section} (h : Section.ofJson j = .ok s) :
    (∃ b ∈ s.blocks, b.text = .null) ↔ Section.LeavesTextOut j := by
  obtain ⟨written, -, h⟩ := bind_eq_ok_iff.mp h
  obtain ⟨id, -, h⟩ := bind_eq_ok_iff.mp h
  obtain ⟨title, -, h⟩ := bind_eq_ok_iff.mp h
  obtain ⟨blocks, hblocks, h⟩ := bind_eq_ok_iff.mp h
  obtain ⟨choices, -, h⟩ := bind_eq_ok_iff.mp h
  cases h
  exact exists_mem_records_iff hblocks fun _ _ hread => ContentBlock.text_eq_null_iff hread

theorem Book.null_text_iff {b : Book} (h : Book.ofJson j = .ok b) :
    ((∃ p ∈ b.frontPages, p.text = .null) ∨ ∃ s ∈ b.sections, ∃ k ∈ s.blocks, k.text = .null) ↔
      Book.LeavesTextOut j := by
  obtain ⟨id, -, h⟩ := bind_eq_ok_iff.mp h
  obtain ⟨series, -, h⟩ := bind_eq_ok_iff.mp h
  obtain ⟨title, -, h⟩ := bind_eq_ok_iff.mp h
  obtain ⟨frontPages, hpages, h⟩ := bind_eq_ok_iff.mp h
  obtain ⟨sections, hsections, h⟩ := bind_eq_ok_iff.mp h
  cases h
  exact or_congr (exists_mem_records_iff hpages fun _ _ hread => FrontPage.text_eq_null_iff hread)
    (exists_mem_records_iff hsections fun _ _ hread => Section.null_text_iff hread)

/-! ## Books that stay as they are -/

/-- Records that each stay as they are do so in their list. -/
theorem map_eq_self_of_records {α : Type} {readRecord : Json → Except Fault α} {name : String}
    {ys : List α} (h : records readRecord j name = .ok ys) {again : α → α}
    (hagain : ∀ x y, readRecord x = .ok y → again y = y) : ys.map again = ys := by
  obtain ⟨xs, -, hys⟩ := bind_eq_ok_iff.mp h
  refine map_eq_self_iff.mpr fun y hy => ?_
  obtain ⟨x, -, hread⟩ := mem_of_mapM hys y hy
  exact hagain x y hread

theorem orEmpty_eq_self {v : Json} (h : v ≠ .null) : v.orEmpty = v := by
  cases v with
  | null => exact absurd rfl h
  | _ => rfl

theorem ContentBlock.reread_eq_self {b : ContentBlock} (h : b.text ≠ .null) : b.reread = b := by
  simp only [reread, orEmpty_eq_self h]

theorem FrontPage.reread_eq_self {p : FrontPage} (h : p.text ≠ .null) : p.reread = p := by
  simp only [reread, orEmpty_eq_self h]

theorem RandomOutcome.reread_of_ofJson {o : RandomOutcome} (h : RandomOutcome.ofJson j = .ok o) :
    o.reread = o := by
  obtain ⟨min, -, h⟩ := bind_eq_ok_iff.mp h
  obtain ⟨max, -, h⟩ := bind_eq_ok_iff.mp h
  obtain ⟨target, htarget, h⟩ := bind_eq_ok_iff.mp h
  obtain ⟨effects, -, h⟩ := bind_eq_ok_iff.mp h
  cases h
  simp only [reread, orElse_of_givenOr htarget]

theorem Choice.reread_of_ofJson {c : Choice} (h : Choice.ofJson j = .ok c) : c.reread = c := by
  obtain ⟨text, htext, h⟩ := bind_eq_ok_iff.mp h
  obtain ⟨target, htarget, h⟩ := bind_eq_ok_iff.mp h
  obtain ⟨requirements, -, h⟩ := bind_eq_ok_iff.mp h
  obtain ⟨effects, -, h⟩ := bind_eq_ok_iff.mp h
  obtain ⟨outcomes, houtcomes, h⟩ := bind_eq_ok_iff.mp h
  obtain ⟨ruleIds, -, h⟩ := bind_eq_ok_iff.mp h
  cases h
  simp only [reread, orElse_of_givenOr htext, orElse_of_givenOr htarget,
    map_eq_self_of_records houtcomes fun _ _ hread => RandomOutcome.reread_of_ofJson hread]

theorem Section.reread_of_ofJson {s : Section} (h : Section.ofJson j = .ok s)
    (htexts : ∀ b ∈ s.blocks, b.text ≠ .null) : s.reread = s := by
  obtain ⟨written, -, h⟩ := bind_eq_ok_iff.mp h
  obtain ⟨id, -, h⟩ := bind_eq_ok_iff.mp h
  obtain ⟨title, htitle, h⟩ := bind_eq_ok_iff.mp h
  obtain ⟨blocks, -, h⟩ := bind_eq_ok_iff.mp h
  obtain ⟨choices, hchoices, h⟩ := bind_eq_ok_iff.mp h
  cases h
  have hblocks : blocks.map ContentBlock.reread = blocks :=
    map_eq_self_iff.mpr fun b hb => ContentBlock.reread_eq_self (htexts b hb)
  simp only [reread, orElse_of_givenOr htitle, hblocks,
    map_eq_self_of_records hchoices fun _ _ hread => Choice.reread_of_ofJson hread]

/-- **A book without null texts stays as it is** when it is read again. -/
theorem Book.reread_eq_self_of_ofJson {b : Book} (h : Book.ofJson j = .ok b)
    (hpages : ∀ p ∈ b.frontPages, p.text ≠ .null)
    (hsections : ∀ s ∈ b.sections, ∀ k ∈ s.blocks, k.text ≠ .null) : b.reread = b := by
  obtain ⟨id, hid, h⟩ := bind_eq_ok_iff.mp h
  obtain ⟨series, hseries, h⟩ := bind_eq_ok_iff.mp h
  obtain ⟨title, htitle, h⟩ := bind_eq_ok_iff.mp h
  obtain ⟨frontPages, -, h⟩ := bind_eq_ok_iff.mp h
  obtain ⟨sections, hread, h⟩ := bind_eq_ok_iff.mp h
  cases h
  have hfront : frontPages.map FrontPage.reread = frontPages :=
    map_eq_self_iff.mpr fun p hp => FrontPage.reread_eq_self (hpages p hp)
  have hrest : sections.map Section.reread = sections := by
    obtain ⟨xs, -, hys⟩ := bind_eq_ok_iff.mp hread
    refine map_eq_self_iff.mpr fun s hs => ?_
    obtain ⟨x, -, hx⟩ := mem_of_mapM hys s hs
    exact Section.reread_of_ofJson hx (hsections s hs)
  simp only [reread, orElse_of_givenOr hid, orElse_of_givenOr hseries, orElse_of_givenOr htitle,
    hfront, hrest]

/-! ## Books that change -/

/-- Objects that are the same have the same under each name. -/
theorem same_of_mem {fs gs : List (String × Json)} (h : same (.obj fs) (.obj gs) = true)
    {f : String × Json} (hf : f ∈ fs) {v : Json} (hv : field? f.1 gs = some v) :
    same f.2 v = true := by
  have hfields : sameFields fs gs = true := by
    simp only [same, Bool.and_eq_true] at h
    exact h.2
  clear h
  induction fs with
  | nil => cases hf
  | cons g fs ih =>
      simp only [sameFields, Bool.and_eq_true] at hfields
      obtain ⟨hfirst, hrest⟩ := hfields
      rcases List.mem_cons.mp hf with rfl | hf
      · simpa only [hv] using hfirst
      · exact ih hf hrest

/-- What is written of the elements of a list in two ways is the same if it is so for each of them. -/
theorem sameItems_map_iff {α : Type} {f g : α → Json} {xs : List α} :
    sameItems (xs.map f) (xs.map g) = true ↔ ∀ x ∈ xs, same (f x) (g x) = true := by
  induction xs with
  | nil => simp [sameItems]
  | cons x xs ih => simp only [List.map_cons, sameItems, Bool.and_eq_true, ih, List.forall_mem_cons]

theorem ContentBlock.text_ne_null_of_same {b : ContentBlock}
    (h : same b.reread.toJson b.toJson = true) : b.text ≠ .null := by
  have htext : same b.text.orEmpty b.text = true :=
    same_of_mem (f := ("text", b.text.orEmpty)) h (by simp [reread]) rfl
  intro hnull
  rw [hnull] at htext
  cases htext

theorem FrontPage.text_ne_null_of_same {p : FrontPage}
    (h : same p.reread.toJson p.toJson = true) : p.text ≠ .null := by
  have htext : same p.text.orEmpty p.text = true :=
    same_of_mem (f := ("text", p.text.orEmpty)) h (by simp [reread]) rfl
  intro hnull
  rw [hnull] at htext
  cases htext

theorem Section.text_ne_null_of_same {s : Section} (h : same s.reread.toJson s.toJson = true) :
    ∀ b ∈ s.blocks, b.text ≠ .null := by
  have hblocks : same (.arr (s.reread.blocks.map ContentBlock.toJson))
      (.arr (s.blocks.map ContentBlock.toJson)) = true :=
    same_of_mem (f := ("blocks", _)) h (by simp) rfl
  simp only [same, reread, List.map_map, sameItems_map_iff] at hblocks
  exact fun b hb => ContentBlock.text_ne_null_of_same (hblocks b hb)

/-- **A book that gives the same document when it is read again** has no null texts. -/
theorem Book.text_ne_null_of_same {b : Book} (h : same b.reread.toJson b.toJson = true) :
    (∀ p ∈ b.frontPages, p.text ≠ .null) ∧ ∀ s ∈ b.sections, ∀ k ∈ s.blocks, k.text ≠ .null := by
  have hpages : same (.arr (b.reread.frontPages.map FrontPage.toJson))
      (.arr (b.frontPages.map FrontPage.toJson)) = true :=
    same_of_mem (f := ("frontMatter", _)) h (by simp) rfl
  have hsections : same (.arr (b.reread.sections.map Section.toJson))
      (.arr (b.sections.map Section.toJson)) = true :=
    same_of_mem (f := ("sections", _)) h (by simp) rfl
  simp only [same, reread, List.map_map, sameItems_map_iff] at hpages hsections
  exact ⟨fun p hp => FrontPage.text_ne_null_of_same (hpages p hp),
    fun s hs => Section.text_ne_null_of_same (hsections s hs)⟩

/-! ## All books -/

/-- **The document of a book that was read is read again,** and the book that it gives stays as it is from then
on. It gives the same document as the first one, unless the document that was read at first leaves a text out:
then the two documents differ. -/
theorem Book.ofJson_toJson_of_ofJson {b : Book} (h : Book.ofJson j = .ok b) :
    ∃ b', Book.ofJson b.toJson = .ok b' ∧ Book.ofJson b'.toJson = .ok b' ∧
      (¬ Book.LeavesTextOut j → b'.toJson = b.toJson) ∧
      (Book.LeavesTextOut j → same b'.toJson b.toJson = false) := by
  refine ⟨b.reread, b.ofJson_toJson, ?_, ?_, ?_⟩
  · rw [b.reread.ofJson_toJson, b.reread_reread]
  · intro htexts
    rw [← Book.null_text_iff h, not_or] at htexts
    obtain ⟨hpages, hsections⟩ := htexts
    rw [Book.reread_eq_self_of_ofJson h (fun p hp hnull => hpages ⟨p, hp, hnull⟩)
      fun s hs k hk hnull => hsections ⟨s, hs, k, hk, hnull⟩]
  · intro hleaves
    rw [← Book.null_text_iff h] at hleaves
    rw [← Bool.not_eq_true]
    intro hsame
    obtain ⟨hpages, hsections⟩ := Book.text_ne_null_of_same hsame
    rcases hleaves with ⟨p, hp, hnull⟩ | ⟨s, hs, k, hk, hnull⟩
    · exact hpages p hp hnull
    · exact hsections s hs k hk hnull

/-- A book with its texts under `html`, names in capitals, and values of other types gives the same document
again. -/
theorem Book.ofJson_toJson_of_ofJson_dawn :
    let d : Json := .obj [("id", .str "dawn"), ("Title", .null),
      ("frontMatter", .arr [.obj [("Html", .str "A Quest"), ("text", .null)]]),
      ("sections", .arr [.obj [("id", .int 1), ("blocks", .arr [.obj [("html", .str "Dark.")]]),
        ("choices", .arr [.obj [("targetId", .int 0), ("effects", .str "ab"),
          ("randomOutcomes", .arr [.obj [("Min", .bool true), ("max", .str " 4 ")]])]])]])]
    ¬ Book.LeavesTextOut d ∧
      ∃ b b', Book.ofJson d = .ok b ∧ Book.ofJson b.toJson = .ok b' ∧ b'.toJson = b.toJson := by
  intro d
  have htexts : ¬ Book.LeavesTextOut d := by
    rintro (⟨page, hpage, -, hhtml⟩ | ⟨s, hs, block, hblock, -, hhtml⟩)
    · obtain rfl := List.mem_singleton.mp ((lists_iff rfl page).mp hpage)
      cases hhtml
    · obtain rfl := List.mem_singleton.mp ((lists_iff rfl s).mp hs)
      obtain rfl := List.mem_singleton.mp ((lists_iff rfl block).mp hblock)
      cases hhtml
  obtain ⟨b, hb⟩ : ∃ b, Book.ofJson d = .ok b := exists_of_toBool (by decide +kernel)
  obtain ⟨b', hb', -, hsame, -⟩ := Book.ofJson_toJson_of_ofJson hb
  exact ⟨htexts, b, b', hb, hb', hsame htexts⟩

/-- **A block whose only text is null** is written with null and read with the empty text. -/
theorem Book.null_text_differs :
    ∃ b b', Book.ofJson (.obj [("sections",
        .arr [.obj [("id", .str "1"), ("blocks", .arr [.obj [("html", .null)]])]])]) = .ok b ∧
      Book.ofJson b.toJson = .ok b' ∧ same b'.toJson b.toJson = false :=
  ⟨_, _, rfl, rfl, by decide +kernel⟩

end Questbook
