import SearchQuery.Proofs.Merging
import SearchQuery.Proofs.Places

/-!
# What the files for a directory depend on

* Only files that can be seen on the way up matter to the walk (`filesUpToRoot_congr`), and nothing
  beyond a file that declares itself the root does (`filesUpToRoot_beyond`).
* A walk that meets a root ends with it, and no file before it is one (`filesUpToRoot_cases`).
* A configuration that is loaded has read all files that were found (`load_eq_ok`).
* `root_isolates`: a root keeps a directory apart from everything further out, the global file
  included.
-/

namespace SearchQuery

namespace Config

variable {t t' : FileTree} {home cwd dir path : Path} {dirs below paths : List Path} {file : File}
  {c : Config}

/-! ## Reading files -/

theorem readFile_eq_ok_iff {result : Path × File} :
    readFile t path = .ok result ↔
      result.1 = path ∧ ∃ text, t.readText path = .ok text ∧ File.read? text = some result.2 := by
  obtain ⟨path', file⟩ := result
  unfold readFile
  cases htext : t.readText path with
  | error e => simp
  | ok text =>
    cases hread : File.read? text with
    | none => simp [hread]
    | some file' => simp [hread, eq_comm]

theorem isFile_of_isRootFile (h : isRootFile t path = true) : t.isFile path = true := by
  unfold isRootFile at h
  split at h
  · next htext => exact FileTree.isFile_of_readText htext
  · cases h

/-- Whether a file declares itself the root is told by what is read. -/
theorem isRootFile_of_readFile (h : readFile t path = .ok (path, file)) :
    isRootFile t path = file.isRoot := by
  obtain ⟨-, text, htext, hread⟩ := readFile_eq_ok_iff.mp h
  simp only at hread
  simp [isRootFile, htext, hread]

theorem isRootFile_congr (h : t'.seen? path = t.seen? path) :
    isRootFile t' path = isRootFile t path := by
  by_cases hfile : t.isFile path = true
  · unfold isRootFile
    rw [FileTree.readText_congr h hfile]
  · have hfile' : ¬ t'.isFile path = true := by rwa [FileTree.isFile_congr h]
    have hroot : ¬ isRootFile t path = true := fun hroot => hfile (isFile_of_isRootFile hroot)
    have hroot' : ¬ isRootFile t' path = true := fun hroot => hfile' (isFile_of_isRootFile hroot)
    rw [Bool.eq_false_iff.mpr hroot, Bool.eq_false_iff.mpr hroot']

theorem readFile_congr (h : t'.seen? path = t.seen? path) (hfile : t.isFile path = true) :
    readFile t' path = readFile t path := by
  unfold readFile
  rw [FileTree.readText_congr h hfile]

theorem mapM_readFile_congr (h : ∀ p ∈ paths, readFile t' p = readFile t p) :
    paths.mapM (readFile t') = paths.mapM (readFile t) := by
  induction paths with
  | nil => rfl
  | cons p paths ih =>
    rw [List.mapM_cons, List.mapM_cons, h p (List.mem_cons_self ..),
      ih fun q hq => h q (List.mem_cons_of_mem p hq)]

/-- Files that have all been read are those of the paths, in order. -/
theorem mapM_readFile_eq_ok {files : List (Path × File)} (h : paths.mapM (readFile t) = .ok files) :
    files.map (·.1) = paths ∧ ∀ f ∈ files, readFile t f.1 = .ok f := by
  induction paths generalizing files with
  | nil =>
    obtain rfl := Except.ok.inj h
    simp
  | cons p paths ih =>
    rw [List.mapM_cons] at h
    cases hread : readFile t p with
    | error e => simp [hread, bind, Except.bind] at h
    | ok result =>
      cases hrest : paths.mapM (readFile t) with
      | error e => simp [hread, hrest, bind, Except.bind] at h
      | ok results =>
        simp only [hread, hrest, bind, Except.bind] at h
        obtain rfl := Except.ok.inj h
        obtain ⟨hpath, -⟩ := readFile_eq_ok_iff.mp hread
        obtain ⟨hpaths, hall⟩ := ih hrest
        refine ⟨by rw [List.map_cons, hpath, hpaths], fun f hf => ?_⟩
        rcases List.mem_cons.mp hf with rfl | hmem
        · rw [hpath, hread]
        · exact hall f hmem

theorem exists_readFile {files : List (Path × File)} (h : paths.mapM (readFile t) = .ok files)
    (hp : path ∈ paths) : ∃ file, readFile t path = .ok (path, file) := by
  obtain ⟨hpaths, hall⟩ := mapM_readFile_eq_ok h
  rw [← hpaths] at hp
  obtain ⟨f, hf, rfl⟩ := List.mem_map.mp hp
  exact ⟨f.2, hall f hf⟩

/-- A configuration that is loaded comes from all files that were found. -/
theorem load_eq_ok (h : load t home cwd = .ok c) :
    ∃ files, (discover t home cwd).mapM (readFile t) = .ok files ∧
      merge (globalPath home) files = .ok c ∧ c.sources = discover t home cwd := by
  unfold load loadFiles at h
  cases hfiles : (discover t home cwd).mapM (readFile t) with
  | error e => simp [hfiles, bind, Except.bind] at h
  | ok files =>
    simp only [hfiles, bind, Except.bind] at h
    refine ⟨files, rfl, h, ?_⟩
    obtain ⟨-, hc⟩ := merge_eq_ok_iff.mp h
    rw [hc]
    exact (mapM_readFile_eq_ok hfiles).1

/-! ## The walk -/

/-- Every file of the walk lies in a directory on the way. -/
theorem mem_filesUpToRoot (h : path ∈ (filesUpToRoot t dirs).1) :
    t.isFile path = true ∧ ∃ dir ∈ dirs, path = dir.child fileName := by
  induction dirs with
  | nil => simp [filesUpToRoot] at h
  | cons dir dirs ih =>
    unfold filesUpToRoot at h
    simp only at h
    split at h
    · next hfile =>
      split at h
      · rw [List.mem_singleton.mp h]
        exact ⟨hfile, dir, List.mem_cons_self .., rfl⟩
      · rcases List.mem_cons.mp h with rfl | hmem
        · exact ⟨hfile, dir, List.mem_cons_self .., rfl⟩
        · obtain ⟨hfile', dir', hdir', hpath⟩ := ih hmem
          exact ⟨hfile', dir', List.mem_cons_of_mem dir hdir', hpath⟩
    · obtain ⟨hfile', dir', hdir', hpath⟩ := ih h
      exact ⟨hfile', dir', List.mem_cons_of_mem dir hdir', hpath⟩

/-- **Only what can be seen in the directories matters to the walk.** -/
theorem filesUpToRoot_congr
    (h : ∀ dir ∈ dirs, t'.seen? (dir.child fileName) = t.seen? (dir.child fileName)) :
    filesUpToRoot t' dirs = filesUpToRoot t dirs := by
  induction dirs with
  | nil => rfl
  | cons dir dirs ih =>
    have hdir := h dir (List.mem_cons_self ..)
    have hdirs := ih fun dir' hdir' => h dir' (List.mem_cons_of_mem dir hdir')
    unfold filesUpToRoot
    simp only [FileTree.isFile_congr hdir, isRootFile_congr hdir, hdirs]

/-- **Nothing beyond a root is looked at**, and the walk ends with having met one. -/
theorem filesUpToRoot_beyond (hroot : isRootFile t (dir.child fileName) = true)
    (below outer : List Path) :
    filesUpToRoot t (below ++ dir :: outer) = filesUpToRoot t (below ++ [dir]) ∧
      (filesUpToRoot t (below ++ [dir])).2 = true := by
  have hfile := isFile_of_isRootFile hroot
  induction below with
  | nil => simp [filesUpToRoot, hfile, hroot]
  | cons d below ih =>
    obtain ⟨hsame, hmet⟩ := ih
    rw [List.cons_append, List.cons_append, filesUpToRoot, filesUpToRoot, hsame]
    refine ⟨rfl, ?_⟩
    simp only
    split
    · split
      · rfl
      · exact hmet
    · exact hmet

/-- A walk that has met a root ends with it, and no other file of a walk is one. -/
theorem filesUpToRoot_cases (t : FileTree) (dirs : List Path) :
    (∃ front path, filesUpToRoot t dirs = (front ++ [path], true) ∧ isRootFile t path = true ∧
      ∀ p ∈ front, isRootFile t p = false) ∨
    ∃ paths, filesUpToRoot t dirs = (paths, false) ∧ ∀ p ∈ paths, isRootFile t p = false := by
  induction dirs with
  | nil => exact .inr ⟨[], rfl, by simp⟩
  | cons dir dirs ih =>
    unfold filesUpToRoot
    simp only
    split
    · split
      · next hroot => exact .inl ⟨[], dir.child fileName, rfl, hroot, by simp⟩
      · next hroot =>
        have hfirst : isRootFile t (dir.child fileName) = false := by simpa using hroot
        rcases ih with ⟨front, path, heq, hlast, hfront⟩ | ⟨paths, heq, hpaths⟩
        · refine .inl ⟨dir.child fileName :: front, path, by rw [heq]; rfl, hlast, ?_⟩
          intro p hp
          rcases List.mem_cons.mp hp with rfl | hmem
          · exact hfirst
          · exact hfront p hmem
        · refine .inr ⟨dir.child fileName :: paths, by rw [heq], ?_⟩
          intro p hp
          rcases List.mem_cons.mp hp with rfl | hmem
          · exact hfirst
          · exact hpaths p hmem
    · exact ih

theorem discover_of_root (h : (filesUpToRoot t cwd.ancestors).2 = true) (home : Path) :
    discover t home cwd = (filesUpToRoot t cwd.ancestors).1 := by
  unfold discover
  simp [h]

theorem mem_discover_of_mem_walk (h : path ∈ (filesUpToRoot t cwd.ancestors).1) (home : Path) :
    path ∈ discover t home cwd := by
  unfold discover
  simp only
  split
  · exact List.mem_append_left _ h
  · exact h

/-- Everything found is a file, with the name of a configuration file. -/
theorem mem_discover (h : path ∈ discover t home cwd) :
    t.isFile path = true ∧ ∃ dir : Path, path = dir.child fileName := by
  have hwalk (hmem : path ∈ (filesUpToRoot t cwd.ancestors).1) :
      t.isFile path = true ∧ ∃ dir : Path, path = dir.child fileName := by
    obtain ⟨hfile, dir, -, hpath⟩ := mem_filesUpToRoot hmem
    exact ⟨hfile, dir, hpath⟩
  unfold discover at h
  simp only at h
  split at h
  · next hglobal =>
    rcases List.mem_append.mp h with hmem | hmem
    · exact hwalk hmem
    · obtain rfl := List.mem_singleton.mp hmem
      simp only [Bool.and_eq_true] at hglobal
      exact ⟨hglobal.1.2, home, rfl⟩
  · exact hwalk h

/-! ## A root -/

/-- **A root keeps its directory apart.** Whatever directory on the way up from the current one has a
file that declares itself the root: in every tree in which the same can be seen at the paths of the
configuration files from the current directory up to this one, the same files are found and the same
configuration is loaded, or the same error is given. So neither what lies further out nor the global
file has a say.

A walk from which a configuration is loaded has a root at its end only, and where it has one there,
it is the last of all files. -/
theorem root_isolates (home cwd : Path) :
    (∀ (t t' : FileTree) (below : List Path) (dir : Path), cwd.Climbs below dir →
      isRootFile t (dir.child fileName) = true →
      (∀ d ∈ below ++ [dir], t'.seen? (d.child fileName) = t.seen? (d.child fileName)) →
      discover t' home cwd = discover t home cwd ∧ load t' home cwd = load t home cwd) ∧
    ∀ (t : FileTree) (c : Config), load t home cwd = .ok c →
      (∀ p ∈ (filesUpToRoot t cwd.ancestors).1.dropLast,
        ∃ file, readFile t p = .ok (p, file) ∧ file.isRoot = false) ∧
      ∀ p file, (filesUpToRoot t cwd.ancestors).1.getLast? = some p →
        readFile t p = .ok (p, file) → file.isRoot = true →
        discover t home cwd = (filesUpToRoot t cwd.ancestors).1 ∧
          c.sources = (filesUpToRoot t cwd.ancestors).1 := by
  constructor
  · intro t t' below dir hclimbs hroot hseen
    have hroot' : isRootFile t' (dir.child fileName) = true := by
      rwa [isRootFile_congr (hseen dir (by simp))]
    obtain ⟨outer, houter⟩ := dir.exists_ancestors_eq_cons
    have hancestors : cwd.ancestors = below ++ dir :: outer := by
      rw [Path.ancestors_of_climbs hclimbs, houter]
    obtain ⟨hwalk, hmet⟩ := filesUpToRoot_beyond hroot below outer
    obtain ⟨hwalk', hmet'⟩ := filesUpToRoot_beyond hroot' below outer
    rw [← hancestors] at hwalk hwalk'
    have hsame : filesUpToRoot t' cwd.ancestors = filesUpToRoot t cwd.ancestors := by
      rw [hwalk, hwalk', filesUpToRoot_congr hseen]
    have hfound : discover t' home cwd = discover t home cwd := by
      rw [discover_of_root (hwalk' ▸ hmet'), discover_of_root (hwalk ▸ hmet), hsame]
    refine ⟨hfound, ?_⟩
    have hread : ∀ p ∈ discover t home cwd, readFile t' p = readFile t p := by
      intro p hp
      rw [discover_of_root (hwalk ▸ hmet), hwalk] at hp
      obtain ⟨hfile, d, hd, rfl⟩ := mem_filesUpToRoot hp
      exact readFile_congr (hseen d hd) hfile
    unfold load loadFiles
    rw [hfound, mapM_readFile_congr hread]
  · intro t c hload
    obtain ⟨files, hfiles, -, hsources⟩ := load_eq_ok hload
    have hread : ∀ p ∈ (filesUpToRoot t cwd.ancestors).1, ∃ file, readFile t p = .ok (p, file) :=
      fun p hp => exists_readFile hfiles (mem_discover_of_mem_walk hp home)
    have hinner : ∀ p ∈ (filesUpToRoot t cwd.ancestors).1.dropLast, isRootFile t p = false := by
      intro p hp
      rcases filesUpToRoot_cases t cwd.ancestors with ⟨front, path, heq, -, hfront⟩ | ⟨paths, heq, hpaths⟩
      · rw [heq, List.dropLast_concat] at hp
        exact hfront p hp
      · rw [heq] at hp
        exact hpaths p (List.dropLast_subset _ hp)
    constructor
    · intro p hp
      obtain ⟨file, hfile⟩ := hread p (List.dropLast_subset _ hp)
      exact ⟨file, hfile, by rw [← isRootFile_of_readFile hfile, hinner p hp]⟩
    · intro p file hlast hfile hroot
      have hmet : (filesUpToRoot t cwd.ancestors).2 = true := by
        rcases filesUpToRoot_cases t cwd.ancestors with ⟨front, path, heq, -⟩ | ⟨paths, heq, hpaths⟩
        · rw [heq]
        · rw [heq] at hlast
          have hnot := hpaths p (List.mem_of_getLast? hlast)
          rw [isRootFile_of_readFile hfile, hroot] at hnot
          cases hnot
      rw [hsources, discover_of_root hmet]
      exact ⟨rfl, rfl⟩

/-- A project with a root below a directory that is the home of the global file, which is no
configuration at all: it does no harm to the project. -/
theorem root_isolates_project :
    let project : FileTree := ⟨[(["p"], .directory), (["p", "src"], .directory),
      (["p", ".sift.toml"], .file (.text "root = true"))], []⟩
    let whole := project.insert [".sift.toml"] (.file (.text "no configuration"))
    discover whole ⟨"/"⟩ ⟨"/p/src"⟩ = discover project ⟨"/"⟩ ⟨"/p/src"⟩ ∧
      load whole ⟨"/"⟩ ⟨"/p/src"⟩ = load project ⟨"/"⟩ ⟨"/p/src"⟩ ∧
      ∃ c, load project ⟨"/"⟩ ⟨"/p/src"⟩ = .ok c ∧ c.sources = [⟨"/p/.sift.toml"⟩] := by
  intro project whole
  have hclimbs : Path.Climbs ⟨"/p/src"⟩ [⟨"/p/src"⟩] ⟨"/p"⟩ := .up (by decide +kernel) (.here _)
  have hroot : isRootFile project (Path.child ⟨"/p"⟩ fileName) = true := by decide +kernel
  have hseen : ∀ d ∈ [⟨"/p/src"⟩] ++ [(⟨"/p"⟩ : Path)],
      whole.seen? (d.child fileName) = project.seen? (d.child fileName) := by
    intro d hd
    have hfree : project.entry? [".sift.toml"] ≠ some .directory := nofun
    refine (FileTree.writtenAt_insert hfree _).seen?_eq ?_
    simp only [List.cons_append, List.nil_append, List.mem_cons, List.not_mem_nil, or_false] at hd
    rcases hd with rfl | rfl
    · decide +kernel
    · decide +kernel
  obtain ⟨hdiscover, hload⟩ :=
    (root_isolates ⟨"/"⟩ ⟨"/p/src"⟩).1 project whole _ _ hclimbs hroot hseen
  refine ⟨hdiscover, hload, ?_⟩
  have hok : (load project ⟨"/"⟩ ⟨"/p/src"⟩).isOk = true := by decide +kernel
  have hwalk : (filesUpToRoot project (Path.ancestors ⟨"/p/src"⟩)).1 = [⟨"/p/.sift.toml"⟩] := by
    decide +kernel
  cases hc : load project ⟨"/"⟩ ⟨"/p/src"⟩ with
  | error e => simp [hc, Except.isOk, Except.toBool] at hok
  | ok c =>
    obtain ⟨files, hfiles, -⟩ := load_eq_ok hc
    have hfound : (⟨"/p/.sift.toml"⟩ : Path) ∈ discover project ⟨"/"⟩ ⟨"/p/src"⟩ := by decide +kernel
    obtain ⟨file, hfile⟩ := exists_readFile hfiles hfound
    have hisRoot : file.isRoot = true := by
      rw [← isRootFile_of_readFile hfile]
      decide +kernel
    have hsources := (((root_isolates ⟨"/"⟩ ⟨"/p/src"⟩).2 project c hc).2 _ file
      (by rw [hwalk]; rfl) hfile hisRoot).2
    exact ⟨c, rfl, hsources.trans hwalk⟩

end Config

end SearchQuery
