import Mathlib.Data.List.Perm.Basic
import Questbook.Proofs.Files
import Questbook.Proofs.Files.Name

set_option autoImplicit false

/-! # What a directory lists

The documents of a directory are the names in it that end as documents do (`documentNames`), sorted
without this ending (`documents_eq`). What is put into the directory comes last among its names, unless
it was there (`namesIn_put`), and what is dropped is no longer among them (`namesIn_drop`).

A path into a directory leads to what the file is called there (`resolve_child`).
-/

namespace Questbook.FileTree

variable {t u : FileTree} {p : Path} {place : List String} {name : String}

/-! ## Names in a directory -/

/-- The name that a place has in a directory, if it lies there. -/
def nameIn? (place other : List String) : Option String :=
  if other.dropLast = place then other.getLast? else none

theorem nameIn?_eq_some_iff {other : List String} :
    nameIn? place other = some name ↔ other = place ++ [name] := by
  unfold nameIn?
  constructor
  · intro h
    split at h
    · next hplace =>
      obtain ⟨front, rfl⟩ := List.getLast?_eq_some_iff.mp h
      rw [List.dropLast_concat] at hplace
      rw [hplace]
    · cases h
  · rintro rfl
    rw [List.dropLast_concat, if_pos rfl, List.getLast?_concat]

theorem namesIn_eq (t : FileTree) (place : List String) : t.namesIn place =
    (t.wayHome? place).toList ++ t.nodes.filterMap fun n => nameIn? place n.1 := rfl

/-- The way to the working directory goes through all places above it. -/
theorem wayHome?_eq_some_iff : t.wayHome? place = some name ↔ place ++ [name] <+: t.home := by
  unfold wayHome?
  constructor
  · intro h
    split at h
    · next habove =>
      obtain ⟨rest, hrest⟩ := habove
      rw [← hrest, List.getElem?_append_right (Nat.le_refl _), Nat.sub_self] at h
      obtain ⟨rest', rfl⟩ := List.head?_eq_some_iff.mp (List.head?_eq_getElem?.trans h)
      exact ⟨rest', by rw [← hrest, List.append_assoc]; rfl⟩
    · cases h
  · rintro ⟨rest, hrest⟩
    rw [List.append_assoc] at hrest
    rw [if_pos ⟨_, hrest⟩, ← hrest, List.getElem?_append_right (Nat.le_refl _), Nat.sub_self]
    rfl

theorem mem_namesIn_iff : name ∈ t.namesIn place ↔
    place ++ [name] <+: t.home ∨ ∃ n ∈ t.nodes, n.1 = place ++ [name] := by
  rw [namesIn_eq, List.mem_append, Option.mem_toList, wayHome?_eq_some_iff,
    List.mem_filterMap]
  simp only [nameIn?_eq_some_iff]

theorem nodeIn?_eq_none_iff {other : List String} {ns : List (List String × FileNode)} :
    nodeIn? other ns = none ↔ ∀ n ∈ ns, n.1 ≠ other := by
  induction ns with
  | nil => simp [nodeIn?]
  | cons n ns ih =>
      rw [nodeIn?, List.forall_mem_cons, ← ih]
      by_cases hn : n.1 = other
      · simp [hn]
      · simp [hn]

/-- **Nothing stands under a name exactly if it is not listed.** -/
theorem node?_eq_none_iff : t.node? (place ++ [name]) = none ↔ name ∉ t.namesIn place := by
  rw [mem_namesIn_iff, not_or, not_exists]
  unfold node?
  by_cases habove : place ++ [name] <+: t.home
  · simp [habove]
  · rw [if_neg habove, nodeIn?_eq_none_iff, and_iff_right habove]
    exact forall_congr' fun n => not_and.symm

/-! ### Putting and dropping -/

theorem filterMap_putNode (f : List String → Option String) (other : List String) (node : FileNode)
    (ns : List (List String × FileNode)) :
    (putNode other node ns).filterMap (fun n => f n.1) =
      ns.filterMap (fun n => f n.1) ++
        if ∃ n ∈ ns, n.1 = other then [] else (f other).toList := by
  induction ns with
  | nil => cases hf : f other <;> simp [putNode, hf]
  | cons n ns ih =>
      by_cases hn : n.1 = other
      · have hmem : ∃ m ∈ n :: ns, m.1 = other := ⟨n, List.mem_cons_self .., hn⟩
        rw [putNode, if_pos hn, if_pos hmem, List.append_nil, List.filterMap_cons,
          List.filterMap_cons, hn]
      · have hiff : (∃ m ∈ n :: ns, m.1 = other) ↔ ∃ m ∈ ns, m.1 = other := by
          rw [List.exists_mem_cons_iff]
          exact or_iff_right hn
        rw [putNode, if_neg hn, List.filterMap_cons, List.filterMap_cons, ih]
        simp only [hiff]
        cases f n.1 <;> rfl

/-- **What is put into a directory is listed last,** unless its name was listed before. -/
theorem namesIn_put (h : t.node? (place ++ [name]) ≠ some .directory) (node : FileNode) :
    (t.put (place ++ [name]) node).namesIn place =
      if name ∈ t.namesIn place then t.namesIn place else t.namesIn place ++ [name] := by
  have hname : nameIn? place (place ++ [name]) = some name := nameIn?_eq_some_iff.mpr rfl
  have hput := filterMap_putNode (nameIn? place) (place ++ [name]) node t.nodes
  have hbelow : ¬ place ++ [name] <+: t.home := fun habove => h (if_pos habove)
  have hmem : name ∈ t.namesIn place ↔ ∃ n ∈ t.nodes, n.1 = place ++ [name] := by
    rw [mem_namesIn_iff, or_iff_right hbelow]
  have hhome : (t.put (place ++ [name]) node).wayHome? place = t.wayHome? place := rfl
  rw [hname] at hput
  simp only [hmem]
  rw [namesIn_eq, hhome, put, hput, ← List.append_assoc, ← namesIn_eq]
  split
  · rw [List.append_nil]
  · rfl

/-- **What is dropped is not listed.** -/
theorem namesIn_drop (h : t.node? (place ++ [name]) ≠ some .directory) :
    (t.drop (place ++ [name])).namesIn place = (t.namesIn place).filter fun n => n ≠ name := by
  have hhome : (t.wayHome? place).toList.filter (fun n => n ≠ name) =
      (t.wayHome? place).toList := by
    refine List.filter_eq_self.mpr fun other hother => decide_eq_true ?_
    rintro rfl
    exact h (if_pos (wayHome?_eq_some_iff.mp (Option.mem_toList.mp hother)))
  rw [namesIn_eq, namesIn_eq, List.filter_append, hhome, drop, List.filterMap_filter,
    List.filter_filterMap]
  refine congrArg (_ ++ ·) (List.filterMap_congr fun n _ => ?_)
  cases hn : nameIn? place n.1 with
  | none => simp
  | some other =>
      have hplace : n.1 = place ++ [other] := nameIn?_eq_some_iff.mp hn
      by_cases hother : other = name
      · simp [hplace, hother, Option.filter]
      · simp [hplace, hother, Option.filter]

theorem node?_drop {other : List String} (h : t.node? other ≠ some .directory)
    (place : List String) :
    (t.drop other).node? place = if place = other then none else t.node? place := by
  have hbelow : ¬ other <+: t.home := fun habove => h (if_pos habove)
  unfold node? drop
  by_cases hother : place = other
  · rw [if_pos hother, hother, if_neg hbelow]
    refine nodeIn?_eq_none_iff.mpr fun n hn => ?_
    have hne := (List.mem_filter.mp hn).2
    simpa using hne
  · rw [if_neg hother]
    congr 1
    induction t.nodes with
    | nil => rfl
    | cons n ns ih =>
        by_cases hn : n.1 = other
        · have hplace : n.1 ≠ place := fun heq => hother (heq.symm.trans hn)
          rw [List.filter_cons_of_neg (by simpa using hn), nodeIn?, if_neg hplace]
          exact ih
        · rw [List.filter_cons_of_pos (by simpa using hn), nodeIn?, nodeIn?]
          split
          · rfl
          · exact ih

/-- **A file is removed from one place.** -/
theorem exists_place_of_remove (h : t.remove p = .ok u) :
    ∃ place bytes, t.resolve p = .ok place ∧ t.node? place = some (.file bytes) ∧
      u.home = t.home ∧ ∀ other, u.node? other = if other = place then none else t.node? other := by
  obtain ⟨place, hplace, h⟩ := bind_eq_ok_iff.mp h
  split at h
  · next bytes hnode =>
    cases h
    have hnot : t.node? place ≠ some .directory := by
      rw [hnode]
      nofun
    exact ⟨place, bytes, hplace, hnode, rfl, node?_drop hnot⟩
  · cases h
  · cases h

/-! ## Documents -/

/-- Whether a name ends as documents do. -/
def isDocumentName (name : String) : Bool :=
  documentEnd.toList.isSuffixOf name.toList

/-- **The names of the documents in a directory,** with their endings. -/
def documentNames (t : FileTree) (place : List String) : List String :=
  (t.namesIn place).filter isDocumentName

theorem documentNames_put (h : isDocumentName name = true)
    (hnode : t.node? (place ++ [name]) ≠ some .directory) (node : FileNode) :
    (t.put (place ++ [name]) node).documentNames place =
      if name ∈ t.documentNames place then t.documentNames place
      else t.documentNames place ++ [name] := by
  have hmem : name ∈ t.documentNames place ↔ name ∈ t.namesIn place := by
    unfold documentNames
    rw [List.mem_filter, h]
    exact and_iff_left rfl
  simp only [hmem]
  unfold documentNames
  rw [namesIn_put hnode]
  split
  · rfl
  · rw [List.filter_append, List.filter_singleton, h]
    rfl

theorem documentNames_drop (hnode : t.node? (place ++ [name]) ≠ some .directory) :
    (t.drop (place ++ [name])).documentNames place =
      (t.documentNames place).filter fun n => n ≠ name := by
  unfold documentNames
  rw [namesIn_drop hnode, List.filter_filter, List.filter_filter]
  simp only [Bool.and_comm]

theorem documents_eq (hplace : t.resolve p = .ok place) (hnode : t.node? place = some .directory) :
    t.documents p = ((t.documentNames place).map stem).mergeSort Text.nameLe := by
  unfold documents
  rw [hplace]
  exact if_pos hnode

/-- What is no directory has no documents. -/
theorem documents_of_not_isDirectory (h : t.isDirectory p = false) : t.documents p = [] := by
  unfold documents
  cases hplace : t.resolve p with
  | error f => rfl
  | ok place =>
      refine if_neg fun hnode => ?_
      have hthere : t.isDirectory p = true := isDirectory_iff.mpr ⟨place, hplace, hnode⟩
      rw [h] at hthere
      cases hthere

/-! ## Directories -/

/-- A directory that has been made, or was there before, is there. -/
theorem isDirectory_of_settleDirectory (h : t.settleDirectory p (t.makeDirectory p) = .ok u) :
    u.isDirectory p = true := by
  cases hmade : t.makeDirectory p with
  | error f =>
      rw [hmade, settleDirectory] at h
      split at h
      · next hthere =>
        cases h
        exact hthere
      · cases h
  | ok v =>
      rw [hmade] at h
      obtain rfl : v = u := Except.ok.inj h
      have hgrows := grows_makeDirectory hmade
      obtain ⟨place, hplace, hmade⟩ := bind_eq_ok_iff.mp hmade
      cases hnode : t.node? place with
      | some n =>
          rw [hnode] at hmade
          cases hmade
      | none =>
          rw [hnode] at hmade
          cases hmade
          have hnot : t.node? place ≠ some .directory := by simp [hnode]
          refine isDirectory_iff.mpr ⟨place, ?_, ?_⟩
          · exact resolve_of_sameDirectories hgrows.standsIn.sameDirectories hplace
          · rw [node?_put hnot, if_pos rfl]

/-- **A directory that has been made is there.** -/
theorem isDirectory_ensureDirectory (h : t.ensureDirectory p = .ok u) :
    u.isDirectory p = true := by
  unfold ensureDirectory at h
  cases hparts : p.parts.reverse with
  | nil =>
      have htop : p.parts = [] := List.reverse_eq_nil_iff.mp hparts
      have hplace : u.resolve p = .ok (u.startOf p) := by
        unfold resolve Path.isEncodable Path.hasNul
        rw [htop]
        rfl
      exact isDirectory_iff.mpr ⟨_, hplace, u.node?_startOf p⟩
  | cons part parts =>
      have hp : ({ root := p.root, parts := (part :: parts).reverse } : Path) = p := by
        rw [← hparts, List.reverse_reverse]
      rw [hparts, ensureParts] at h
      simp only [hp] at h
      split at h
      · obtain ⟨v, -, h⟩ := bind_eq_ok_iff.mp h
        exact isDirectory_of_settleDirectory h
      · exact isDirectory_of_settleDirectory h

/-! ## Paths into a directory -/

/-- **A path into a directory leads to what the file is called there.** -/
theorem resolve_child {dir : Path} (hplace : t.resolve dir = .ok place)
    (hnode : t.node? place = some .directory) (hencodable : Text.isEncodableName name = true)
    (hnul : name.toList.contains '\x00' = false) (hup : Text.diskName name ≠ "..") :
    t.resolve { dir with parts := dir.parts ++ [name] } =
      .ok (place ++ [Text.diskName name]) := by
  obtain ⟨hdirEncodable, hdirNul, hwalk⟩ := resolve_eq_ok_iff.mp hplace
  have hstart : t.startOf { dir with parts := dir.parts ++ [name] } = t.startOf dir := rfl
  refine resolve_eq_ok_iff.mpr
    ⟨isEncodable_child.mpr ⟨hdirEncodable, hencodable⟩, hasNul_child.mpr ⟨hdirNul, hnul⟩, ?_⟩
  rw [hstart, List.map_append, walk_append, hwalk]
  show t.walk place [Text.diskName name] = _
  rw [walk, hnode]
  exact if_neg hup

/-- A name that cannot be encoded leads nowhere. -/
theorem resolve_child_of_not_encodable {dir : Path} (h : Text.isEncodableName name = false) :
    t.resolve { dir with parts := dir.parts ++ [name] } = .error .unencodable := by
  have hchild : ({ dir with parts := dir.parts ++ [name] } : Path).isEncodable = false := by
    rw [← Bool.not_eq_true, isEncodable_child, h]
    simp
  unfold resolve
  rw [hchild]
  rfl

/-! ## New directories -/

/-- **Whether all that a tree has lies in directories.** -/
def Rooted (t : FileTree) : Prop :=
  ∀ place name node, t.node? (place ++ [name]) = some node → t.node? place = some .directory

/-- What is above a directory is a directory. -/
theorem Rooted.above (h : t.Rooted) {rest : List String}
    (hnode : t.node? (place ++ rest) = some .directory) : t.node? place = some .directory := by
  induction rest generalizing place with
  | nil => rwa [List.append_nil] at hnode
  | cons name rest ih =>
      have hassoc : place ++ name :: rest = place ++ [name] ++ rest := by simp
      rw [hassoc] at hnode
      exact h place name _ (ih hnode)

/-- Without going up, a path leads to the place of its names. -/
theorem eq_of_walk {start parts : List String} (hup : ".." ∉ parts)
    (h : t.walk start parts = .ok place) : place = start ++ parts := by
  induction parts generalizing start with
  | nil =>
      cases h
      rw [List.append_nil]
  | cons part parts ih =>
      rw [List.mem_cons, not_or] at hup
      rw [walk] at h
      split at h
      · rw [if_neg (Ne.symm hup.1)] at h
        rw [ih hup.2 h, List.append_assoc]
        rfl
      · cases h
      · cases h

theorem Rooted.walk (h : t.Rooted) {start parts : List String} (hup : ".." ∉ parts)
    (hnode : t.node? (start ++ parts) = some .directory) :
    t.walk start parts = .ok (start ++ parts) := by
  induction parts generalizing start with
  | nil => rw [FileTree.walk, List.append_nil]
  | cons part parts ih =>
      rw [List.mem_cons, not_or] at hup
      have hrest : start ++ part :: parts = start ++ [part] ++ parts := by simp
      rw [FileTree.walk, h.above hnode]
      dsimp only
      rw [if_neg (Ne.symm hup.1), hrest]
      exact ih hup.2 (hrest ▸ hnode)

/-- **A directory that was missing is empty when it has been made.** -/
theorem namesIn_ensureDirectory (hrooted : t.Rooted) (hup : ".." ∉ p.parts.map Text.diskName)
    (hmissing : t.isDirectory p = false) (h : t.ensureDirectory p = .ok u)
    (hplace : u.resolve p = .ok place) : u.namesIn place = [] := by
  obtain ⟨hencodable, hnul, hwalk⟩ := resolve_eq_ok_iff.mp hplace
  have hgrows := grows_ensureDirectory h
  rw [startOf_of_home hgrows.home] at hwalk
  obtain rfl : place = t.startOf p ++ p.parts.map Text.diskName := eq_of_walk hup hwalk
  rw [List.eq_nil_iff_forall_not_mem]
  intro name hname
  obtain ⟨node, hnode⟩ :=
    Option.ne_none_iff_exists'.mp fun hnone => node?_eq_none_iff.mp hnone hname
  rcases hgrows.node (t.startOf p ++ p.parts.map Text.diskName ++ [name]) with
    hsame | ⟨-, -, hlength⟩
  · -- it was there before, and so was the directory
    rw [hnode] at hsame
    have hdirectory := hrooted _ name node hsame.symm
    have hresolve := resolve_eq_ok_iff.mpr ⟨hencodable, hnul, hrooted.walk hup hdirectory⟩
    have hthere := isDirectory_iff.mpr ⟨_, hresolve, hdirectory⟩
    rw [hmissing] at hthere
    cases hthere
  · -- it is new, but nothing is made below the directory
    unfold depthOf at hlength
    simp only [List.length_append, List.length_map, List.length_singleton] at hlength
    omega

end Questbook.FileTree
