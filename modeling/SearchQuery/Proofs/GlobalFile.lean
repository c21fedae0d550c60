import SearchQuery.Proofs.FilesFound

/-!
# Where the global file stands

The global file gives way to every other, if it stands last among the files found. It does when it is
put behind them, but the home directory may lie on the way up, and then its file stands where the walk
comes upon it.

* `field_of_load`: a field of a configuration that is loaded comes from the first file found that
  defines its label.
* `FileBeyondHome`: the walk comes upon a file of the home directory and, further out, upon another.
* `global_last_iff`: the global file stands last just if this is not so. Then it hides no label of
  another file. Otherwise it hides those labels of the files behind it that no closer file defines
  (`home_hides_outer`).
-/

namespace SearchQuery.Config

variable {t : FileTree} {home cwd path : Path} {dirs paths front behind : List Path} {label : String}
  {files : List (Path × File)} {c : Config} {f : Field}

/-! ## Where fields come from -/

/-- The file at a path can be read and defines the label. -/
def Defines (t : FileTree) (path : Path) (label : String) : Prop :=
  ∃ file, readFile t path = .ok (path, file) ∧ label ∈ file.labels

theorem defines_iff (h : paths.mapM (readFile t) = .ok files) {file : Path × File}
    (hfile : file ∈ files) : Defines t file.1 label ↔ label ∈ file.2.labels := by
  have hread := (mapM_readFile_eq_ok h).2 file hfile
  constructor
  · rintro ⟨file', hread', hlabel⟩
    rwa [Except.ok.inj (hread.symm.trans hread')]
  · intro hlabel
    exact ⟨file.2, hread, hlabel⟩

/-- In a configuration that is loaded, a field comes from the first file found that defines its
label. -/
theorem field_of_load (h : load t home cwd = .ok c) (hf : f ∈ c.fields) :
    ∃ front behind, discover t home cwd = front ++ f.path :: behind ∧ Defines t f.path f.label ∧
      (∀ p ∈ front, ¬ Defines t p f.label) ∧ f.isGlobal = isGlobal home f.path := by
  obtain ⟨files, hfiles, hmerge, -⟩ := load_eq_ok h
  obtain ⟨file, hfind, hglobal⟩ := field_is_nearest hmerge hf
  obtain ⟨hlabel, front, behind, rfl, hfront⟩ := List.find?_eq_some_iff_append.mp hfind
  rw [List.contains_iff_mem] at hlabel
  have hpaths := (mapM_readFile_eq_ok hfiles).1
  rw [List.map_append, List.map_cons] at hpaths
  refine ⟨_, _, hpaths.symm, ?_, ?_, hglobal⟩
  · have hfile : (f.path, file) ∈ front ++ (f.path, file) :: behind := by simp
    exact (defines_iff hfiles hfile).mpr hlabel
  · intro p hp hdefines
    obtain ⟨file', hfile', rfl⟩ := List.mem_map.mp hp
    have hnot := hfront file' hfile'
    rw [Bool.not_eq_true', ← Bool.not_eq_true, List.contains_iff_mem] at hnot
    exact hnot ((defines_iff hfiles (List.mem_append_left _ hfile')).mp hdefines)

theorem exists_field_of_load (h : load t home cwd = .ok c) (hpath : path ∈ discover t home cwd)
    (hdefines : Defines t path label) : ∃ f ∈ c.fields, f.label = label := by
  obtain ⟨files, hfiles, hmerge, -⟩ := load_eq_ok h
  rw [← (mapM_readFile_eq_ok hfiles).1] at hpath
  obtain ⟨file, hfile, rfl⟩ := List.mem_map.mp hpath
  exact exists_field hmerge hfile ((defines_iff hfiles hfile).mp hdefines)

/-- The first element with a property is one only. -/
theorem first_unique {α : Type} {P : α → Prop} {l front behind front' behind' : List α} {a b : α}
    (h : l = front ++ a :: behind) (h' : l = front' ++ b :: behind') (ha : P a) (hb : P b)
    (hfront : ∀ x ∈ front, ¬ P x) (hfront' : ∀ x ∈ front', ¬ P x) : a = b := by
  classical
  have hfind : l.find? (fun x => decide (P x)) = some a :=
    List.find?_eq_some_iff_append.mpr ⟨by simpa using ha, front, behind, h, by simpa using hfront⟩
  have hfind' : l.find? (fun x => decide (P x)) = some b :=
    List.find?_eq_some_iff_append.mpr
      ⟨by simpa using hb, front', behind', h', by simpa using hfront'⟩
  exact Option.some.inj (hfind.symm.trans hfind')

/-! ## Files beyond the home directory -/

/-- On the way up from the current directory, as far as one looks, the home directory has a
configuration file, and so has a directory further out. -/
def FileBeyondHome (t : FileTree) (home cwd : Path) : Prop :=
  ∃ below dir outer met, LooksIn t cwd (below ++ dir :: outer) met ∧ dir.sameAs home = true ∧
    t.isFile (dir.child fileName) = true ∧ ∃ d ∈ outer, t.isFile (d.child fileName) = true

theorem isGlobal_child {dir : Path} :
    isGlobal home (dir.child fileName) = true ↔ dir.sameAs home = true :=
  sameAs_child_fileName

/-- Files behind another lie in directories further out. -/
theorem exists_of_filesIn_eq (h : filesIn t dirs = front ++ path :: behind) :
    ∃ below dir outer, dirs = below ++ dir :: outer ∧ path = dir.child fileName ∧
      t.isFile path = true ∧ filesIn t outer = behind := by
  obtain ⟨l, l', hl, -, hbehind⟩ := List.filter_eq_append_iff.mp h
  obtain ⟨m, m', rfl, -, hfile, hm'⟩ := List.filter_eq_cons_iff.mp hbehind
  obtain ⟨below, rest, rfl, -, hrest⟩ := List.map_eq_append_iff.mp hl
  obtain ⟨below', rest', rfl, -, hrest'⟩ := List.map_eq_append_iff.mp hrest
  obtain ⟨dir, outer, rfl, rfl, rfl⟩ := List.map_eq_cons_iff.mp hrest'
  exact ⟨below ++ below', dir, outer, (List.append_assoc ..).symm, rfl, hfile, hm'⟩

/-- **A file that stands behind the global one lies beyond the home directory.** -/
theorem fileBeyondHome_of_behind (h : discover t home cwd = front ++ path :: behind)
    (hglobal : isGlobal home path = true) (hbehind : behind ≠ []) : FileBeyondHome t home cwd := by
  obtain ⟨dirs, met, hlooks⟩ := exists_looksIn t cwd
  have hfound := hlooks.discover_eq home
  rw [h, globalBehind] at hfound
  split at hfound
  · next hlast =>
    -- The global file is put behind the files of the walk, so that it is none of them.
    have hmem : path ∈ filesIn t dirs := by
      obtain ⟨behind, last, rfl⟩ := List.eq_nil_or_concat' behind |>.resolve_left hbehind
      rw [← List.cons_append, ← List.append_assoc] at hfound
      obtain ⟨hwalk, -⟩ := List.append_inj' hfound rfl
      rw [← hwalk]
      simp
    rw [isGlobal, hlast.2.2 path hmem] at hglobal
    cases hglobal
  · rw [List.append_nil] at hfound
    obtain ⟨below, dir, outer, rfl, rfl, hfile, rfl⟩ := exists_of_filesIn_eq hfound.symm
    obtain ⟨q, hq⟩ := List.exists_mem_of_ne_nil _ hbehind
    obtain ⟨d, hd, rfl, hfile'⟩ := mem_filesIn.mp hq
    exact ⟨below, dir, outer, met, hlooks, isGlobal_child.mp hglobal, hfile, d, hd, hfile'⟩

theorem exists_behind_of_fileBeyondHome (h : FileBeyondHome t home cwd) :
    ∃ front path behind, discover t home cwd = front ++ path :: behind ∧
      isGlobal home path = true ∧ behind ≠ [] := by
  obtain ⟨below, dir, outer, met, hlooks, hhome, hfile, d, hd, hfile'⟩ := h
  have hbeyond : d.child fileName ∈ filesIn t outer := mem_filesIn.mpr ⟨d, hd, rfl, hfile'⟩
  have hfound := hlooks.discover_eq home
  rw [filesIn_append, filesIn_cons_of_isFile hfile, List.append_assoc, List.cons_append] at hfound
  exact ⟨_, _, _, hfound, isGlobal_child.mpr hhome,
    List.append_ne_nil_of_left_ne_nil (List.ne_nil_of_mem hbeyond) _⟩

/-! ## What the global file hides -/

/-- The configuration has the field of the global file for a label that another file found defines as
well. -/
def HiddenByGlobal (t : FileTree) (home cwd : Path) (c : Config) (label : String) : Prop :=
  ∃ f ∈ c.fields, f.label = label ∧ f.isGlobal = true ∧
    ∃ p ∈ discover t home cwd, isGlobal home p = false ∧ Defines t p label

/-- **A label is hidden just if it is defined in the global file and behind it, and not before.** -/
theorem hiddenByGlobal_iff (h : load t home cwd = .ok c) :
    HiddenByGlobal t home cwd c label ↔
      ∃ front g behind, discover t home cwd = front ++ g :: behind ∧ isGlobal home g = true ∧
        Defines t g label ∧ (∀ p ∈ front, ¬ Defines t p label) ∧
        ∃ p ∈ behind, Defines t p label := by
  constructor
  · rintro ⟨f, hf, rfl, hglobal, p, hp, hlocal, hdefines⟩
    obtain ⟨front, behind, hfound, hdefinesHere, hfront, hisGlobal⟩ := field_of_load h hf
    rw [hglobal] at hisGlobal
    refine ⟨front, f.path, behind, hfound, hisGlobal.symm, hdefinesHere, hfront, p, ?_, hdefines⟩
    rw [hfound] at hp
    rcases List.mem_append.mp hp with hmem | hmem
    · exact absurd hdefines (hfront p hmem)
    · rcases List.mem_cons.mp hmem with rfl | hmem
      · rw [hlocal] at hisGlobal
        cases hisGlobal
      · exact hmem
  · rintro ⟨front, g, behind, hfound, hglobal, hdefines, hfront, p, hp, hdefines'⟩
    have hg : g ∈ discover t home cwd := by simp [hfound]
    have hbehind : p ∈ discover t home cwd := by simp [hfound, hp]
    obtain ⟨f, hf, rfl⟩ := exists_field_of_load h hg hdefines
    obtain ⟨front', behind', hfound', hdefinesHere, hfront', hisGlobal⟩ := field_of_load h hf
    obtain rfl : f.path = g := first_unique hfound' hfound hdefinesHere hdefines hfront' hfront
    refine ⟨f, hf, rfl, by rw [hisGlobal, hglobal], p, hbehind, ?_, hdefines'⟩
    obtain ⟨dirs, met, hlooks⟩ := exists_looksIn t cwd
    have hpairwise := hlooks.pairwise_discover home
    rw [hfound] at hpairwise
    have hne := List.rel_of_pairwise_cons (List.pairwise_append.mp hpairwise).2.1 hp
    have hsame : f.path.components = (globalPath home).components := of_decide_eq_true hglobal
    unfold isGlobal Path.sameAs
    unfold Path.sameAs at hne
    rw [← hsame]
    exact decide_eq_false fun heq => of_decide_eq_false hne heq.symm

/-- **When the global file has the lowest precedence.** Among the files found for a directory, it
stands last just if the walk does not come upon it in the home directory and upon a file further out.
Then, in a configuration that is loaded, it hides no label that another file found defines. In every
case, the labels it hides are those that it defines and so does a file behind it, and none before
it. -/
theorem global_last_iff (t : FileTree) (home cwd : Path) :
    ((∀ front p behind, discover t home cwd = front ++ p :: behind → isGlobal home p = true →
        behind = []) ↔ ¬ FileBeyondHome t home cwd) ∧
    ∀ c, load t home cwd = .ok c →
      (¬ FileBeyondHome t home cwd → ∀ label, ¬ HiddenByGlobal t home cwd c label) ∧
      ∀ label, HiddenByGlobal t home cwd c label ↔
        ∃ front g behind, discover t home cwd = front ++ g :: behind ∧ isGlobal home g = true ∧
          Defines t g label ∧ (∀ p ∈ front, ¬ Defines t p label) ∧
          ∃ p ∈ behind, Defines t p label := by
  refine ⟨⟨fun hlast hbeyond => ?_, fun hnot front p behind hfound hglobal => ?_⟩,
    fun c hload => ⟨fun hnot label hhidden => ?_, fun label => hiddenByGlobal_iff hload⟩⟩
  · obtain ⟨front, p, behind, hfound, hglobal, hbehind⟩ := exists_behind_of_fileBeyondHome hbeyond
    exact hbehind (hlast front p behind hfound hglobal)
  · by_contra hbehind
    exact hnot (fileBeyondHome_of_behind hfound hglobal hbehind)
  · obtain ⟨front, g, behind, hfound, hglobal, -, -, p, hp, -⟩ := (hiddenByGlobal_iff hload).mp hhidden
    exact hnot (fileBeyondHome_of_behind hfound hglobal (List.ne_nil_of_mem hp))

/-- Below the home directory: the file of a project comes first, and the global one hides nothing. -/
theorem global_last_iff_project :
    let t : FileTree := ⟨[(["p"], .directory),
      (["p", ".sift.toml"], .file (.text "[[field]]\nlabel = \"A\"\ntoken = \"inner\"\n")),
      ([".sift.toml"], .file (.text "[[field]]\nlabel = \"A\"\ntoken = \"outer\"\n"))], []⟩
    ¬ FileBeyondHome t ⟨"/"⟩ ⟨"/p"⟩ ∧
      ∃ c, load t ⟨"/"⟩ ⟨"/p"⟩ = .ok c ∧ ∀ label, ¬ HiddenByGlobal t ⟨"/"⟩ ⟨"/p"⟩ c label := by
  intro t
  obtain ⟨hlast, hhides⟩ := global_last_iff t ⟨"/"⟩ ⟨"/p"⟩
  have hfound : discover t ⟨"/"⟩ ⟨"/p"⟩ = [⟨"/p/.sift.toml"⟩, ⟨"/.sift.toml"⟩] := by decide +kernel
  have hlocal : isGlobal ⟨"/"⟩ ⟨"/p/.sift.toml"⟩ = false := by decide +kernel
  have hok : (load t ⟨"/"⟩ ⟨"/p"⟩).isOk = true := by decide +kernel
  have hnot : ¬ FileBeyondHome t ⟨"/"⟩ ⟨"/p"⟩ := by
    refine hlast.mp fun front p behind heq hglobal => ?_
    rw [hfound] at heq
    cases front with
    | nil =>
      obtain ⟨rfl, -⟩ := List.cons.inj heq
      rw [hlocal] at hglobal
      cases hglobal
    | cons q front =>
      obtain ⟨-, hrest⟩ := List.cons.inj heq
      obtain ⟨-, -, rfl⟩ | ⟨-, hnil⟩ := List.singleton_eq_append_iff.mp hrest
      · rfl
      · cases hnil
  cases hc : load t ⟨"/"⟩ ⟨"/p"⟩ with
  | error e => simp [hc, Except.isOk, Except.toBool] at hok
  | ok c => exact ⟨hnot, c, rfl, (hhides c hc).1 hnot⟩

/-- In the home directory, with another file further out: the global file is found first, and it hides
the label of the other. -/
theorem home_hides_outer :
    let t : FileTree := ⟨[(["home"], .directory),
      ([".sift.toml"], .file (.text "[[field]]\nlabel = \"A\"\ntoken = \"outer\"\n")),
      (["home", ".sift.toml"], .file (.text "[[field]]\nlabel = \"A\"\ntoken = \"inner\"\n"))], []⟩
    discover t ⟨"/home"⟩ ⟨"/home"⟩ = [globalPath ⟨"/home"⟩, ⟨"/.sift.toml"⟩] ∧
      ((load t ⟨"/home"⟩ ⟨"/home"⟩).map fun c =>
        c.fields.map fun f => (f.label, f.path, f.isGlobal)).toOption =
        some [("A", globalPath ⟨"/home"⟩, true)] := by
  decide +kernel

end SearchQuery.Config
