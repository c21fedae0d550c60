import SearchQuery.Proofs.Ancestry
import SearchQuery.Proofs.Discovery

/-!
# Exactly the files that count

The walk up from a directory is a recursion on the list of its ancestors. What it finds can be said
without it.

* `LooksIn`: the directories that are looked at are those on the way up to the first that declares
  itself the root, or all of them if none does. Such directories exist from everywhere
  (`exists_looksIn`).
* The walk finds the configuration files that there are in these directories, in their order
  (`LooksIn.filesUpToRoot_eq`), and the global file may stand behind them (`LooksIn.discover_eq`). All
  of them are different (`LooksIn.pairwise_discover`).
* `discover_exact`: this for every tree, every home and every directory, a relative one too.
-/

namespace SearchQuery.Config

variable {t : FileTree} {home cwd dir : Path} {dirs outer : List Path} {met : Bool}

/-! ## Roots -/

/-- The directory has a file that can be read, is a configuration, and sets `root = true`. -/
def DeclaresRoot (t : FileTree) (dir : Path) : Prop :=
  ∃ text file, t.readText (dir.child fileName) = .ok text ∧ File.read? text = some file ∧
    file.root = some true

theorem isRootFile_iff : isRootFile t (dir.child fileName) = true ↔ DeclaresRoot t dir := by
  unfold isRootFile DeclaresRoot
  cases htext : t.readText (dir.child fileName) with
  | error e => simp
  | ok text =>
    cases hread : File.read? text with
    | none => simp [hread]
    | some file => simp [hread, File.isRoot]

/-! ## Files in directories -/

/-- The configuration files that there are in directories, in their order. -/
def filesIn (t : FileTree) (dirs : List Path) : List Path :=
  (dirs.map (·.child fileName)).filter t.isFile

theorem filesIn_cons_of_isFile (h : t.isFile (dir.child fileName) = true) (dirs : List Path) :
    filesIn t (dir :: dirs) = dir.child fileName :: filesIn t dirs :=
  List.filter_cons_of_pos h

theorem filesIn_cons_of_not_isFile (h : ¬ t.isFile (dir.child fileName) = true) (dirs : List Path) :
    filesIn t (dir :: dirs) = filesIn t dirs :=
  List.filter_cons_of_neg h

theorem filesIn_append (t : FileTree) (dirs dirs' : List Path) :
    filesIn t (dirs ++ dirs') = filesIn t dirs ++ filesIn t dirs' := by
  rw [filesIn, List.map_append, List.filter_append]
  rfl

theorem mem_filesIn {path : Path} :
    path ∈ filesIn t dirs ↔ ∃ d ∈ dirs, path = d.child fileName ∧ t.isFile path = true := by
  rw [filesIn, List.mem_filter, List.mem_map]
  constructor
  · rintro ⟨⟨d, hd, rfl⟩, hfile⟩
    exact ⟨d, hd, rfl, hfile⟩
  · rintro ⟨d, hd, rfl, hfile⟩
    exact ⟨⟨d, hd, rfl⟩, hfile⟩

theorem sameAs_child_fileName {d d' : Path} :
    (d.child fileName).sameAs (d'.child fileName) = true ↔ d.sameAs d' = true :=
  Path.sameAs_child_iff (by decide +kernel) (by decide +kernel)

/-- Directories without a root are passed by, and their files are collected. -/
theorem filesUpToRoot_append (h : ∀ d ∈ dirs, ¬ DeclaresRoot t d) (outer : List Path) :
    filesUpToRoot t (dirs ++ outer) =
      (filesIn t dirs ++ (filesUpToRoot t outer).1, (filesUpToRoot t outer).2) := by
  induction dirs with
  | nil => rfl
  | cons d dirs ih =>
    have hrest := ih fun d' hd' => h d' (List.mem_cons_of_mem d hd')
    have hd : ¬ isRootFile t (d.child fileName) = true :=
      fun hroot => h d (List.mem_cons_self ..) (isRootFile_iff.mp hroot)
    rw [List.cons_append, filesUpToRoot, hrest]
    simp only [if_neg hd]
    split
    · next hfile => rw [filesIn_cons_of_isFile hfile, List.cons_append]
    · next hfile => rw [filesIn_cons_of_not_isFile hfile]

/-- A directory with a root is the last. -/
theorem filesUpToRoot_cons_of_root (h : DeclaresRoot t dir) (outer : List Path) :
    filesUpToRoot t (dir :: outer) = (filesIn t [dir], true) := by
  have hroot := isRootFile_iff.mpr h
  have hfile := isFile_of_isRootFile hroot
  rw [filesUpToRoot, filesIn_cons_of_isFile hfile]
  simp only [hfile, hroot, if_true]
  rfl

/-- What is put behind files that are found on the way up: the global file, if no root was met, it is
a file, and it is not among them. -/
def globalBehind (t : FileTree) (home : Path) (met : Bool) (paths : List Path) : List Path :=
  if met = false ∧ t.isFile (globalPath home) = true ∧
      ∀ p ∈ paths, p.sameAs (globalPath home) = false
    then [globalPath home] else []

/-! ## The directories that are looked at -/

/-- The directories in which one looks for files that count for a directory: those on the way up to
the first that declares itself the root, or all of them if none does. The flag says whether a root was
met. -/
inductive LooksIn (t : FileTree) (cwd : Path) : List Path → Bool → Prop
  | upToRoot {below : List Path} {dir : Path} (hclimbs : cwd.Climbs below dir)
      (hbelow : ∀ d ∈ below, ¬ DeclaresRoot t d) (hroot : DeclaresRoot t dir) :
      LooksIn t cwd (below ++ [dir]) true
  | upToTop {below : List Path} {top : Path} (hclimbs : cwd.Climbs below top)
      (htop : top.parent? = none) (hnone : ∀ d ∈ below ++ [top], ¬ DeclaresRoot t d) :
      LooksIn t cwd (below ++ [top]) false

theorem exists_looksIn (t : FileTree) (cwd : Path) : ∃ dirs met, LooksIn t cwd dirs met := by
  obtain ⟨below, top, hclimbs, htop⟩ := cwd.exists_climbs_top
  rcases hclimbs.first (DeclaresRoot t) with ⟨front, dir, hfront, hbelow, hroot⟩ | hnone
  · exact ⟨_, _, .upToRoot hfront hbelow hroot⟩
  · exact ⟨_, _, .upToTop hclimbs htop hnone⟩

namespace LooksIn

theorem exists_climbs (h : LooksIn t cwd dirs met) :
    ∃ below d, cwd.Climbs below d ∧ dirs = below ++ [d] := by
  cases h with
  | upToRoot hclimbs _ _ => exact ⟨_, _, hclimbs, rfl⟩
  | upToTop hclimbs _ _ => exact ⟨_, _, hclimbs, rfl⟩

/-- **The walk finds the files in these directories.** -/
theorem filesUpToRoot_eq (h : LooksIn t cwd dirs met) :
    filesUpToRoot t cwd.ancestors = (filesIn t dirs, met) := by
  cases h with
  | @upToRoot below dir hclimbs hbelow hroot =>
    obtain ⟨outer, houter⟩ := dir.exists_ancestors_eq_cons
    rw [Path.ancestors_of_climbs hclimbs, houter, filesUpToRoot_append hbelow,
      filesUpToRoot_cons_of_root hroot, filesIn_append]
  | @upToTop below top hclimbs htop hnone =>
    have hwalk := filesUpToRoot_append hnone []
    rw [List.append_nil, filesUpToRoot, List.append_nil] at hwalk
    rw [Path.ancestors_of_climbs_top hclimbs htop, hwalk]

theorem pairwise_filesIn (h : LooksIn t cwd dirs met) :
    (filesIn t dirs).Pairwise fun p q => p.sameAs q = false := by
  obtain ⟨below, d, hclimbs, rfl⟩ := h.exists_climbs
  refine List.Pairwise.filter _ (List.pairwise_map.mpr (hclimbs.pairwise_sameAs.imp ?_))
  intro d d' hne
  rw [← Bool.not_eq_true, sameAs_child_fileName, hne]
  exact Bool.false_ne_true

/-- **The files found** are those in these directories, and the global file in its place. -/
theorem discover_eq (h : LooksIn t cwd dirs met) (home : Path) :
    discover t home cwd = filesIn t dirs ++ globalBehind t home met (filesIn t dirs) := by
  have hcomm (p : Path) : (globalPath home).sameAs p = p.sameAs (globalPath home) :=
    decide_eq_decide.mpr eq_comm
  unfold discover globalBehind
  rw [h.filesUpToRoot_eq]
  simp only [Bool.and_eq_true, Bool.not_eq_true', List.any_eq_false, hcomm, and_assoc,
    Bool.not_eq_true]
  split
  · rfl
  · exact (List.append_nil _).symm

theorem pairwise_discover (h : LooksIn t cwd dirs met) (home : Path) :
    (discover t home cwd).Pairwise fun p q => p.sameAs q = false := by
  rw [h.discover_eq, globalBehind]
  split
  · next hlast =>
    refine List.pairwise_append.mpr ⟨h.pairwise_filesIn, List.pairwise_singleton .., ?_⟩
    intro p hp q hq
    rw [List.mem_singleton.mp hq]
    exact hlast.2.2 p hp
  · rw [List.append_nil]
    exact h.pairwise_filesIn

end LooksIn

/-- **Exactly the files that count are found, the nearest first.** There are the configuration files
in the directories from the current one up to the first that declares itself the root, in this order;
and behind them the global file, just if no root was met, it is a file, and it is not among them. No
two of the files found are the same, and each one is there. -/
theorem discover_exact (t : FileTree) (home cwd : Path) :
    ∃ dirs met, LooksIn t cwd dirs met ∧
      discover t home cwd = filesIn t dirs ++ globalBehind t home met (filesIn t dirs) ∧
      (discover t home cwd).Pairwise (fun p q => p.sameAs q = false) ∧
      ∀ p ∈ discover t home cwd, t.isFile p = true := by
  obtain ⟨dirs, met, hlooks⟩ := exists_looksIn t cwd
  exact ⟨dirs, met, hlooks, hlooks.discover_eq home, hlooks.pairwise_discover home,
    fun p hp => (mem_discover hp).1⟩

/-- From a relative path with idle parts in it: a configuration that cannot be read as TOML is found,
and the way ends at the root. -/
example :
    let t : FileTree := ⟨[(["a"], .directory), (["a", "b"], .directory),
      ([".sift.toml"], .file (.text "")), (["a", ".sift.toml"], .file (.text "root = true")),
      (["a", "b", ".sift.toml"], .file (.text "no configuration"))], []⟩
    discover t ⟨"/"⟩ ⟨"a/./b//"⟩ = [⟨"a/./b//.sift.toml"⟩, ⟨"a/.sift.toml"⟩] := by
  decide +kernel

end SearchQuery.Config
