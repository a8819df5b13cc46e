import Questbook.Files.Tree
import Questbook.Proofs.Outcome

set_option autoImplicit false

/-! # What stays in a tree of files

Making directories adds to a tree and takes nothing away (`standsIn_ensureDirectory`). Writing a file
changes what stands at one place (`exists_place_of_write`). In both cases directories stay directories,
so that a path leads where it led before (`resolve_of_sameDirectories`).

Two trees that differ in the bytes of one file only (`DifferAt`) have all other files in common
(`DifferAt.read`).
-/

namespace Questbook.FileTree

variable {t u v : FileTree} {p : Path}

/-- **Whether a tree stands in another one:** what it has at a place, the other one has there, and
they have the same working directory. -/
structure StandsIn (t u : FileTree) : Prop where
  home : u.home = t.home
  kept : ∀ place node, t.node? place = some node → u.node? place = some node

theorem standsIn_refl (t : FileTree) : t.StandsIn t := ⟨rfl, fun _ _ h => h⟩

theorem StandsIn.trans (htu : t.StandsIn u) (huv : u.StandsIn v) : t.StandsIn v :=
  ⟨huv.home.trans htu.home, fun place node h => huv.kept place node (htu.kept place node h)⟩

/-! ## Following paths -/

/-- Whether the directories of a tree are directories in another one, which has the same working
directory. -/
structure SameDirectories (t u : FileTree) : Prop where
  home : u.home = t.home
  kept : ∀ place, t.node? place = some .directory → u.node? place = some .directory

theorem StandsIn.sameDirectories (h : t.StandsIn u) : t.SameDirectories u :=
  ⟨h.home, fun place hd => h.kept place .directory hd⟩

theorem sameDirectories_refl (t : FileTree) : t.SameDirectories t := ⟨rfl, fun _ h => h⟩

theorem SameDirectories.trans (htu : t.SameDirectories u) (huv : u.SameDirectories v) :
    t.SameDirectories v :=
  ⟨huv.home.trans htu.home, fun place h => huv.kept place (htu.kept place h)⟩

theorem startOf_of_home (h : u.home = t.home) (p : Path) : u.startOf p = t.startOf p := by
  unfold startOf
  rw [h]

/-- A path starts in a directory. -/
theorem node?_startOf (t : FileTree) (p : Path) : t.node? (t.startOf p) = some .directory := by
  unfold startOf
  split
  · exact if_pos (List.prefix_refl t.home)
  · exact if_pos List.nil_prefix

/-- A step of a walk enters or leaves a directory. -/
theorem walk_cons_eq_ok {start place : List String} {part : String} {parts : List String}
    (h : t.walk start (part :: parts) = .ok place) :
    t.node? start = some .directory ∧
      ∃ next, t.walk next parts = .ok place ∧
        ∀ u : FileTree, u.node? start = some .directory →
          u.walk start (part :: parts) = u.walk next parts := by
  unfold walk at h
  split at h
  · next hdir =>
    refine ⟨hdir, ?_⟩
    by_cases hup : part = ".."
    · rw [if_pos hup] at h
      refine ⟨_, h, fun u hu => ?_⟩
      rw [walk, hu]
      exact if_pos hup
    · rw [if_neg hup] at h
      refine ⟨_, h, fun u hu => ?_⟩
      rw [walk, hu]
      exact if_neg hup
  · cases h
  · cases h

theorem walk_of_sameDirectories (hsame : t.SameDirectories u) {parts start place : List String}
    (h : t.walk start parts = .ok place) : u.walk start parts = .ok place := by
  induction parts generalizing start with
  | nil => exact h
  | cons part parts ih =>
      obtain ⟨hdir, next, hnext, hstep⟩ := walk_cons_eq_ok h
      rw [hstep u (hsame.kept start hdir)]
      exact ih hnext

/-- **Where a path leads:** its names have to be such that files can have them. -/
theorem resolve_eq_ok_iff {place : List String} :
    t.resolve p = .ok place ↔ p.isEncodable = true ∧ p.hasNul = false ∧
      t.walk (t.startOf p) (p.parts.map Text.diskName) = .ok place := by
  unfold resolve
  cases p.isEncodable <;> cases p.hasNul <;> simp

/-- **A path leads to the same place** as long as directories stay directories. -/
theorem resolve_of_sameDirectories (hsame : t.SameDirectories u) {place : List String}
    (h : t.resolve p = .ok place) : u.resolve p = .ok place := by
  obtain ⟨hencodable, hnul, hwalk⟩ := resolve_eq_ok_iff.mp h
  rw [← startOf_of_home hsame.home] at hwalk
  exact resolve_eq_ok_iff.mpr ⟨hencodable, hnul, walk_of_sameDirectories hsame hwalk⟩

/-- A place has no more names than the path that leads to it and the place where it starts. -/
theorem length_of_walk {start place parts : List String} (h : t.walk start parts = .ok place) :
    place.length ≤ start.length + parts.length := by
  induction parts generalizing start with
  | nil =>
      cases h
      simp
  | cons part parts ih =>
      rw [walk] at h
      split at h
      · split at h
        · have hlength := ih h
          simp only [List.length_dropLast, List.length_cons] at hlength ⊢
          omega
        · have hlength := ih h
          simp only [List.length_append, List.length_cons, List.length_nil] at hlength ⊢
          omega
      · cases h
      · cases h

/-! ## Making directories -/

/-- **Whether a tree has the same as another one,** but for new directories that are not below a
depth. -/
structure Grows (depth : Nat) (t u : FileTree) : Prop where
  home : u.home = t.home
  node : ∀ place, u.node? place = t.node? place ∨
    t.node? place = none ∧ u.node? place = some .directory ∧ place.length ≤ depth

theorem grows_refl (depth : Nat) (t : FileTree) : t.Grows depth t := ⟨rfl, fun _ => Or.inl rfl⟩

theorem Grows.mono {depth depth' : Nat} (h : t.Grows depth u) (hle : depth ≤ depth') :
    t.Grows depth' u := by
  refine ⟨h.home, fun place => ?_⟩
  rcases h.node place with hsame | ⟨ht, hu, hlength⟩
  · exact Or.inl hsame
  · exact Or.inr ⟨ht, hu, by omega⟩

theorem Grows.trans {depth : Nat} (htu : t.Grows depth u) (huv : u.Grows depth v) :
    t.Grows depth v := by
  refine ⟨huv.home.trans htu.home, fun place => ?_⟩
  rcases huv.node place with hv | ⟨hu, hv, hlength⟩
  · rw [hv]
    exact htu.node place
  · rcases htu.node place with hsame | ⟨ht, -⟩
    · exact Or.inr ⟨hsame.symm.trans hu, hv, hlength⟩
    · exact Or.inr ⟨ht, hv, hlength⟩

theorem Grows.standsIn {depth : Nat} (h : t.Grows depth u) : t.StandsIn u := by
  refine ⟨h.home, fun place node hnode => ?_⟩
  rcases h.node place with hsame | ⟨hnone, -⟩
  · exact hsame.trans hnode
  · rw [hnone] at hnode
    cases hnode

/-- **Whether two trees have the same files.** -/
def SameFiles (t u : FileTree) : Prop :=
  ∀ place bytes, t.node? place = some (.file bytes) ↔ u.node? place = some (.file bytes)

theorem sameFiles_refl (t : FileTree) : t.SameFiles t := fun _ _ => Iff.rfl

theorem Grows.sameFiles {depth : Nat} (h : t.Grows depth u) : t.SameFiles u := by
  intro place bytes
  rcases h.node place with hsame | ⟨hnone, hdirectory, -⟩
  · rw [hsame]
  · rw [hnone, hdirectory]
    simp

/-- How far down a path may lead. -/
def depthOf (t : FileTree) (p : Path) : Nat := (t.startOf p).length + p.parts.length

theorem grows_makeDirectory (h : t.makeDirectory p = .ok u) : t.Grows (t.depthOf p) u := by
  obtain ⟨place, hplace, h⟩ := bind_eq_ok_iff.mp h
  split at h
  · cases h
  · next hnone =>
    cases h
    have hnot : t.node? place ≠ some .directory := by
      rw [hnone]
      nofun
    have hlength : place.length ≤ t.depthOf p := by
      have hwalk := length_of_walk (resolve_eq_ok_iff.mp hplace).2.2
      rwa [List.length_map] at hwalk
    refine ⟨rfl, fun other => ?_⟩
    rw [node?_put hnot]
    by_cases hother : other = place
    · rw [if_pos hother, hother]
      exact Or.inr ⟨hnone, rfl, hlength⟩
    · rw [if_neg hother]
      exact Or.inl rfl

theorem grows_settleDirectory (h : t.settleDirectory p (t.makeDirectory p) = .ok u) :
    t.Grows (t.depthOf p) u := by
  cases hmade : t.makeDirectory p with
  | ok v =>
      rw [hmade] at h
      cases h
      exact grows_makeDirectory hmade
  | error f =>
      rw [hmade, settleDirectory] at h
      split at h
      · cases h
        exact grows_refl _ t
      · cases h

theorem grows_ensureParts {root : String} {parts : List String}
    (h : t.ensureParts root parts = .ok u) :
    t.Grows (t.depthOf { root, parts := parts.reverse }) u := by
  induction parts generalizing t u with
  | nil =>
      cases h
      exact grows_refl _ t
  | cons part parts ih =>
      unfold ensureParts at h
      dsimp only at h
      split at h
      · obtain ⟨v, hv, h⟩ := bind_eq_ok_iff.mp h
        have habove := ih hv
        have hsettled := grows_settleDirectory h
        have hstart := startOf_of_home habove.home { root, parts := (part :: parts).reverse }
        unfold depthOf at hsettled
        rw [hstart] at hsettled
        refine (habove.mono ?_).trans hsettled
        unfold depthOf
        simp only [List.length_reverse, List.length_cons]
        exact Nat.add_le_add_left (Nat.le_succ _) _
      · exact grows_settleDirectory h

theorem grows_ensureDirectory (h : t.ensureDirectory p = .ok u) : t.Grows (t.depthOf p) u := by
  have hgrows := grows_ensureParts h
  rwa [List.reverse_reverse] at hgrows

/-- **Making a directory takes nothing away.** -/
theorem standsIn_ensureDirectory (h : t.ensureDirectory p = .ok u) : t.StandsIn u :=
  (grows_ensureDirectory h).standsIn

/-! ## Writing files -/

/-- **A file is written at one place,** where no directory stands. -/
theorem exists_place_of_write {bytes : ByteArray} (h : t.write p bytes = .ok u) :
    ∃ place, t.resolve p = .ok place ∧ t.node? place ≠ some .directory ∧ u.home = t.home ∧
      ∀ place', u.node? place' = if place' = place then some (.file bytes) else t.node? place' := by
  obtain ⟨place, hplace, h⟩ := bind_eq_ok_iff.mp h
  split at h
  · cases h
  · next hnot =>
    cases h
    exact ⟨place, hplace, hnot, rfl, node?_put hnot (.file bytes)⟩

theorem write_of_resolve {place : List String} (hplace : t.resolve p = .ok place)
    (hnode : t.node? place ≠ some .directory) (bytes : ByteArray) :
    t.write p bytes = .ok (t.put place (.file bytes)) := by
  unfold write
  rw [hplace]
  simp only [bind, Except.bind]
  rfl

theorem sameDirectories_write {bytes : ByteArray} (h : t.write p bytes = .ok u) :
    t.SameDirectories u := by
  obtain ⟨place, -, hnot, hhome, hnode⟩ := exists_place_of_write h
  refine ⟨hhome, fun place' hdir => ?_⟩
  rw [hnode, if_neg]
  · exact hdir
  · rintro rfl
    exact hnot hdir

/-- **A file that a path leads to is read.** -/
theorem read_of_node? {place : List String} {bytes : ByteArray} (hplace : t.resolve p = .ok place)
    (hnode : t.node? place = some (.file bytes)) : t.read p = .ok bytes := by
  unfold read stat
  rw [hplace]
  simp only [bind, Except.bind, hnode]
  rfl

/-- A file that is read stands at a place of the tree. -/
theorem node?_of_read {bytes : ByteArray} (h : t.read p = .ok bytes) :
    ∃ place, t.resolve p = .ok place ∧ t.node? place = some (.file bytes) := by
  obtain ⟨node, hstat, h⟩ := bind_eq_ok_iff.mp h
  obtain ⟨place, hplace, hstat⟩ := bind_eq_ok_iff.mp hstat
  refine ⟨place, hplace, ?_⟩
  cases hnode : t.node? place with
  | none =>
      rw [hnode] at hstat
      cases hstat
  | some n =>
      rw [hnode] at hstat
      cases hstat
      cases node with
      | directory => cases h
      | file b =>
          cases h
          rfl

theorem pathExists_of_read {bytes : ByteArray} (h : t.read p = .ok bytes) :
    t.pathExists p = true := by
  obtain ⟨node, hstat, -⟩ := bind_eq_ok_iff.mp h
  unfold pathExists
  rw [hstat]
  rfl

theorem isFile_of_read {bytes : ByteArray} (h : t.read p = .ok bytes) : t.isFile p = true := by
  obtain ⟨node, hstat, h⟩ := bind_eq_ok_iff.mp h
  unfold isFile
  rw [hstat]
  cases node with
  | directory => cases h
  | file b => rfl

/-- What is read depends on the place that a path leads to only. -/
theorem read_eq_of_resolve_eq {q : Path} (h : t.resolve q = t.resolve p) : t.read q = t.read p := by
  unfold read stat
  rw [h]

/-- A file that is read is read again as long as it is not the one at a place that was written. -/
theorem read_of_kept {place : List String} (hsame : t.SameDirectories u)
    (hkept : ∀ other node, other ≠ place → t.node? other = some node → u.node? other = some node)
    {bytes : ByteArray} (h : t.read p = .ok bytes) (hp : u.resolve p ≠ .ok place) :
    u.read p = .ok bytes := by
  obtain ⟨other, hother, hnode⟩ := node?_of_read h
  have hresolve := resolve_of_sameDirectories hsame hother
  have hne : other ≠ place := by
    rintro rfl
    exact hp hresolve
  exact read_of_node? hresolve (hkept other _ hne hnode)

/-! ## Directories that are there -/

theorem walk_append (t : FileTree) (start : List String) (a b : List String) :
    t.walk start (a ++ b) = (t.walk start a >>= fun place => t.walk place b) := by
  induction a generalizing start with
  | nil => rfl
  | cons part a ih =>
      rw [List.cons_append, walk, walk]
      cases t.node? start with
      | none => rfl
      | some node =>
          cases node with
          | file b => rfl
          | directory =>
              by_cases hup : part = ".."
              · simp only [hup, if_true]
                exact ih start.dropLast
              · simp only [hup, if_false]
                exact ih (start ++ [part])

theorem isDirectory_iff :
    t.isDirectory p = true ↔ ∃ place, t.resolve p = .ok place ∧ t.node? place = some .directory := by
  unfold isDirectory stat
  cases t.resolve p with
  | error f => simp [bind, Except.bind]
  | ok place =>
      cases hnode : t.node? place with
      | none => simp [bind, Except.bind, hnode]
      | some node => cases node <;> simp [bind, Except.bind, hnode, pure, Except.pure]

theorem isEncodable_child {dir : Path} {name : String} :
    ({ dir with parts := dir.parts ++ [name] } : Path).isEncodable = true ↔
      dir.isEncodable = true ∧ Text.isEncodableName name = true := by
  simp [Path.isEncodable, List.all_append]

theorem hasNul_child {dir : Path} {name : String} :
    ({ dir with parts := dir.parts ++ [name] } : Path).hasNul = false ↔
      dir.hasNul = false ∧ name.toList.contains '\x00' = false := by
  simp [Path.hasNul, List.any_append]

/-- A path that leads on from a directory passes this directory. -/
theorem isDirectory_of_resolve_append {dir : Path} {name : String} {place : List String}
    (h : t.resolve { dir with parts := dir.parts ++ [name] } = .ok place) :
    t.isDirectory dir = true := by
  obtain ⟨hencodable, hnul, hwalk⟩ := resolve_eq_ok_iff.mp h
  rw [List.map_append, walk_append] at hwalk
  obtain ⟨mid, hmid, hlast⟩ := bind_eq_ok_iff.mp hwalk
  have hdirectory : t.node? mid = some .directory := (walk_cons_eq_ok hlast).1
  have hresolve : t.resolve dir = .ok mid :=
    resolve_eq_ok_iff.mpr
      ⟨(isEncodable_child.mp hencodable).1, (hasNul_child.mp hnul).1, hmid⟩
  exact isDirectory_iff.mpr ⟨mid, hresolve, hdirectory⟩

/-- **A directory that is there is not made.** -/
theorem ensureDirectory_of_isDirectory (h : t.isDirectory p = true) :
    t.ensureDirectory p = .ok t := by
  unfold ensureDirectory
  cases hparts : p.parts.reverse with
  | nil => rfl
  | cons part parts =>
      have hp : ({ root := p.root, parts := (part :: parts).reverse } : Path) = p := by
        rw [← hparts, List.reverse_reverse]
      have hmake : t.makeDirectory p = .error .fileExists := by
        unfold isDirectory stat at h
        unfold makeDirectory
        cases hplace : t.resolve p with
        | error f =>
            rw [hplace] at h
            cases h
        | ok place =>
            rw [hplace] at h
            simp only [bind, Except.bind] at h ⊢
            cases hnode : t.node? place with
            | none =>
                rw [hnode] at h
                cases h
            | some node => rfl
      have hsettle : t.settleDirectory p (.error .fileExists) = .ok t := if_pos h
      unfold ensureParts
      simp only [hp, hmake]
      exact hsettle

/-! ## Trees that differ in one file -/

/-- **Whether two trees differ in the bytes of one file at most.** -/
structure DifferAt (place : List String) (t u : FileTree) : Prop where
  home : u.home = t.home
  kept : ∀ other, other ≠ place → u.node? other = t.node? other
  left : ∃ bytes, t.node? place = some (.file bytes)
  right : ∃ bytes, u.node? place = some (.file bytes)

variable {place : List String}

theorem DifferAt.refl {bytes : ByteArray} (h : t.node? place = some (.file bytes)) :
    DifferAt place t t :=
  ⟨rfl, fun _ _ => rfl, ⟨bytes, h⟩, ⟨bytes, h⟩⟩

theorem DifferAt.trans (htu : DifferAt place t u) (huv : DifferAt place u v) :
    DifferAt place t v :=
  ⟨huv.home.trans htu.home,
    fun other hother => (huv.kept other hother).trans (htu.kept other hother), htu.left, huv.right⟩

theorem DifferAt.walk (h : DifferAt place t u) (start parts : List String) :
    u.walk start parts = t.walk start parts := by
  induction parts generalizing start with
  | nil => rfl
  | cons part parts ih =>
      rw [FileTree.walk, FileTree.walk]
      by_cases hstart : start = place
      · obtain ⟨a, ha⟩ := h.left
        obtain ⟨b, hb⟩ := h.right
        rw [hstart, ha, hb]
      · rw [h.kept start hstart]
        simp only [ih]

/-- In both trees a path leads to the same place. -/
theorem DifferAt.resolve (h : DifferAt place t u) (p : Path) : u.resolve p = t.resolve p := by
  unfold FileTree.resolve
  rw [h.walk, startOf_of_home h.home]

/-- **All other files are the same.** -/
theorem DifferAt.stat (h : DifferAt place t u) (hp : t.resolve p ≠ .ok place) :
    u.stat p = t.stat p := by
  unfold FileTree.stat
  rw [h.resolve]
  cases hplace : t.resolve p with
  | error f => rfl
  | ok other =>
      have hother : other ≠ place := by
        rintro rfl
        exact hp hplace
      simp only [bind, Except.bind, h.kept other hother]

theorem DifferAt.read (h : DifferAt place t u) (hp : t.resolve p ≠ .ok place) :
    u.read p = t.read p := by
  unfold FileTree.read
  rw [h.stat hp]

theorem DifferAt.isFile (h : DifferAt place t u) (p : Path) : u.isFile p = t.isFile p := by
  by_cases hp : t.resolve p = .ok place
  · obtain ⟨a, ha⟩ := h.left
    obtain ⟨b, hb⟩ := h.right
    unfold FileTree.isFile FileTree.stat
    rw [h.resolve, hp]
    simp only [bind, Except.bind, ha, hb]
    rfl
  · unfold FileTree.isFile
    rw [h.stat hp]

end Questbook.FileTree
