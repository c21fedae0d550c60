import SearchQuery.Proofs.CleanRuns

/-!
# A configuration file that says nothing

A file put where nothing was comes into the way of every directory below it, and of everybody who has
its directory as home. One that has no fields and is no root makes no difference but that it is named
among the sources.

* `AddsBlank`: a tree with one such file more. What leads to it is read as an empty file
  (`AddsBlank.readFile`), and all else is seen as before (`AddsBlank.seen?_eq`).
* With the file, the walk up and the files found are the same, but for the paths that lead to it
  (`AddsBlank.filesUpToRoot_eq`, `AddsBlank.discover_eq`). All other files are read as before and in the
  same order (`AddsBlank.mapM_readFile_eq`), so that the same fields are loaded or the same error is
  given (`AddsBlank.load_eq`).
* What a command about a query shows depends on its configuration by the scanner only
  (`streams_congr`).
* `init_is_neutral`: `init` where no configuration file was changes nothing that a query shows.
-/

namespace SearchQuery

namespace FileTree

/-- Whether a path leads to a place. -/
def leadsTo (t : FileTree) (place : Place) (p : Path) : Bool := (t.locate p).toOption = some place

theorem leadsTo_iff {t : FileTree} {place : Place} {p : Path} :
    t.leadsTo place p = true ↔ t.locate p = .ok place := by
  unfold leadsTo
  cases t.locate p <;> simp [Except.toOption]

/-- Of paths, those that do not lead to a place. -/
def elsewhere (t : FileTree) (place : Place) (paths : List Path) : List Path :=
  paths.filter fun p => !t.leadsTo place p

theorem elsewhere_cons_of_leadsTo {t : FileTree} {place : Place} {p : Path}
    (h : t.leadsTo place p = true) (paths : List Path) :
    t.elsewhere place (p :: paths) = t.elsewhere place paths :=
  List.filter_cons_of_neg (by simp [h])

theorem elsewhere_cons {t : FileTree} {place : Place} {p : Path} (h : t.leadsTo place p = false)
    (paths : List Path) : t.elsewhere place (p :: paths) = p :: t.elsewhere place paths :=
  List.filter_cons_of_pos (by simp [h])

theorem elsewhere_append (t : FileTree) (place : Place) (paths paths' : List Path) :
    t.elsewhere place (paths ++ paths') = t.elsewhere place paths ++ t.elsewhere place paths' :=
  List.filter_append ..

/-- The same files, with relative paths followed from another directory. -/
def rebased (t : FileTree) (base : Place) : FileTree := { t with base := base }

end FileTree

namespace Config

/-! ## One more file -/

/-- The second tree is the first with a file that has no fields and is no root, at a place where
nothing was. -/
structure AddsBlank (place : SearchQuery.Place) (t t' : FileTree) : Prop where
  absent : t.entry? place = none
  blank : ∃ text, File.read? text = some ⟨none, none⟩ ∧ t.WrittenAt place text t'

namespace AddsBlank

variable {place : SearchQuery.Place} {t t' : FileTree} {p home cwd : Path} {dirs paths : List Path}

theorem rebased (h : AddsBlank place t t') (base : SearchQuery.Place) :
    AddsBlank place (t.rebased base) (t'.rebased base) := by
  obtain ⟨text, htext, hwritten⟩ := h.blank
  exact ⟨h.absent, text, htext, rfl, hwritten.free, hwritten.here, hwritten.elsewhere⟩

theorem locate_iff (h : AddsBlank place t t') {q : SearchQuery.Place} :
    t'.locate p = .ok q ↔ t.locate p = .ok q := by
  obtain ⟨text, -, hwritten⟩ := h.blank
  exact hwritten.locate_iff

theorem seen?_eq (h : AddsBlank place t t') (hp : t.leadsTo place p = false) :
    t'.seen? p = t.seen? p := by
  obtain ⟨text, -, hwritten⟩ := h.blank
  refine hwritten.seen?_eq fun hlocate => ?_
  rw [FileTree.leadsTo_iff.mpr hlocate] at hp
  cases hp

theorem isFile_eq_false (h : AddsBlank place t t') (hp : t.leadsTo place p = true) :
    t.isFile p = false := by
  rw [Bool.eq_false_iff, ne_eq, FileTree.isFile_iff]
  rintro ⟨contents, hfind⟩
  obtain ⟨found, hlocate, hentry⟩ := FileTree.find_eq_ok_iff.mp hfind
  obtain rfl : place = found :=
    Except.ok.inj ((FileTree.leadsTo_iff.mp hp).symm.trans hlocate)
  rw [h.absent] at hentry
  cases hentry

theorem readFile (h : AddsBlank place t t') (hp : t.leadsTo place p = true) :
    readFile t' p = .ok (p, ⟨none, none⟩) := by
  obtain ⟨text, htext, hwritten⟩ := h.blank
  simp [Config.readFile, hwritten.readText_eq (FileTree.leadsTo_iff.mp hp), htext]

theorem isFile_eq_true (h : AddsBlank place t t') (hp : t.leadsTo place p = true) :
    t'.isFile p = true := by
  obtain ⟨-, text, htext, -⟩ := readFile_eq_ok_iff.mp (h.readFile hp)
  exact FileTree.isFile_of_readText htext

/-! ## The files found -/

/-- **The walk is the same, but for the paths that lead to the new file.** -/
theorem filesUpToRoot_eq (h : AddsBlank place t t') (dirs : List Path) :
    filesUpToRoot t dirs =
      (t.elsewhere place (filesUpToRoot t' dirs).1, (filesUpToRoot t' dirs).2) := by
  induction dirs with
  | nil => rfl
  | cons dir dirs ih =>
    unfold filesUpToRoot
    simp only
    cases hleads : t.leadsTo place (dir.child fileName) with
    | true =>
      have hroot : isRootFile t' (dir.child fileName) = false :=
        isRootFile_of_readFile (h.readFile hleads)
      simp only [h.isFile_eq_false hleads, h.isFile_eq_true hleads, hroot, if_true,
        Bool.false_eq_true, if_false]
      rw [FileTree.elsewhere_cons_of_leadsTo hleads, ih]
    | false =>
      have hseen := h.seen?_eq hleads
      rw [FileTree.isFile_congr hseen, isRootFile_congr hseen]
      split
      · split
        · simp only [FileTree.elsewhere_cons hleads]
          rfl
        · simp only [FileTree.elsewhere_cons hleads, ih]
      · exact ih

/-- A path with the components of the global one leads to the global file, and so not to the new
one. -/
theorem any_sameAs_filter (h : AddsBlank place t t') {q : Path} (hq : t.isFile q = true)
    (hpaths : ∀ p ∈ paths, t'.isFile p = true) :
    (t.elsewhere place paths).any q.sameAs = paths.any q.sameAs := by
  rw [Bool.eq_iff_iff, List.any_eq_true, List.any_eq_true]
  constructor
  · rintro ⟨p, hp, hsame⟩
    exact ⟨p, List.mem_of_mem_filter hp, hsame⟩
  · rintro ⟨p, hp, hsame⟩
    refine ⟨p, List.mem_filter.mpr ⟨hp, ?_⟩, hsame⟩
    obtain ⟨_, hfind⟩ := FileTree.isFile_iff.mp (hpaths p hp)
    obtain ⟨found, hlocate, -⟩ := FileTree.find_eq_ok_iff.mp hfind
    obtain ⟨_, hfind'⟩ := FileTree.isFile_iff.mp hq
    obtain ⟨found', hlocate', hentry'⟩ := FileTree.find_eq_ok_iff.mp hfind'
    obtain rfl := FileTree.locate_eq_ok_of_sameAs hlocate' (h.locate_iff.mp hlocate) hsame
    cases hleads : t.leadsTo place p with
    | false => rfl
    | true =>
      obtain rfl : place = found' :=
        Except.ok.inj ((FileTree.leadsTo_iff.mp hleads).symm.trans (h.locate_iff.mp hlocate))
      rw [h.absent] at hentry'
      cases hentry'

/-- **The files found are the same, but for the new one.** -/
theorem discover_eq (h : AddsBlank place t t') (home cwd : Path) :
    discover t home cwd = t.elsewhere place (discover t' home cwd) := by
  unfold discover
  rw [h.filesUpToRoot_eq]
  simp only
  generalize hwalk : filesUpToRoot t' cwd.ancestors = walk
  obtain ⟨paths, root⟩ := walk
  have hpaths : ∀ p ∈ paths, t'.isFile p = true := by
    intro p hp
    have hmem : p ∈ (filesUpToRoot t' cwd.ancestors).1 := by rwa [hwalk]
    exact (mem_filesUpToRoot hmem).1
  cases hleads : t.leadsTo place (globalPath home) with
  | true =>
    rw [h.isFile_eq_false hleads]
    simp only [Bool.and_false, Bool.false_and, Bool.false_eq_true, if_false]
    split
    · rw [FileTree.elsewhere_append, FileTree.elsewhere_cons_of_leadsTo hleads]
      exact (List.append_nil _).symm
    · rfl
  | false =>
    rw [FileTree.isFile_congr (h.seen?_eq hleads)]
    cases hfile : t.isFile (globalPath home) with
    | false => simp
    | true =>
      rw [h.any_sameAs_filter hfile hpaths]
      split
      · rw [FileTree.elsewhere_append, FileTree.elsewhere_cons hleads]
        rfl
      · rfl

/-! ## What they say -/

/-- All other files are read as before, up to the first that cannot be read. -/
theorem mapM_readFile_eq (h : AddsBlank place t t') (hpaths : ∀ p ∈ paths, t'.isFile p = true) :
    (t.elsewhere place paths).mapM (Config.readFile t) =
      (paths.mapM (Config.readFile t')).map (List.filter fun f => !t.leadsTo place f.1) := by
  induction paths with
  | nil => rfl
  | cons p paths ih =>
    have hrest := ih fun q hq => hpaths q (List.mem_cons_of_mem p hq)
    rw [List.mapM_cons]
    cases hleads : t.leadsTo place p with
    | true =>
      rw [FileTree.elsewhere_cons_of_leadsTo hleads, hrest, h.readFile hleads]
      cases paths.mapM (Config.readFile t') with
      | error e => rfl
      | ok files => simp [bind, Except.bind, pure, Except.pure, Except.map, hleads]
    | false =>
      have hseen := h.seen?_eq hleads
      have hfile : t.isFile p = true := by
        rw [← FileTree.isFile_congr hseen]
        exact hpaths p (List.mem_cons_self ..)
      rw [FileTree.elsewhere_cons hleads, List.mapM_cons, hrest, readFile_congr hseen hfile]
      cases hread : Config.readFile t p with
      | error e => rfl
      | ok f =>
        have hpath : f.1 = p := (readFile_eq_ok_iff.mp hread).1
        cases paths.mapM (Config.readFile t') with
        | error e => rfl
        | ok files => simp [bind, Except.bind, pure, Except.pure, Except.map, hpath, hleads]

end AddsBlank

theorem mergeFields_filter (globalPath : Path) {keep : Path × File → Bool}
    {files : List (Path × File)} (h : ∀ f ∈ files, keep f = false → f.2.fields = none)
    (fields : List Field) :
    mergeFields globalPath (files.filter keep) fields = mergeFields globalPath files fields := by
  induction files generalizing fields with
  | nil => rfl
  | cons f files ih =>
    have hrest := ih fun f' hf' => h f' (List.mem_cons_of_mem f hf')
    cases hkeep : keep f with
    | true =>
      rw [List.filter_cons_of_pos hkeep, mergeFields, mergeFields]
      split
      · rfl
      · exact hrest _
    | false =>
      have hnone : f.2.fields = none := h f (List.mem_cons_self ..) hkeep
      rw [List.filter_cons_of_neg (by simp [hkeep]), hrest, mergeFields, hnone]
      rfl

namespace AddsBlank

variable {place : SearchQuery.Place} {t t' : FileTree} {home cwd : Path}

/-- **The same fields are loaded, or the same error is given.** The new file is named among the
sources, and nothing else is different there. -/
theorem load_eq (h : AddsBlank place t t') (home cwd : Path) :
    load t home cwd =
      (load t' home cwd).map fun c => { c with sources := t.elsewhere place c.sources } := by
  unfold load loadFiles
  rw [h.discover_eq home cwd, h.mapM_readFile_eq fun p hp => (mem_discover hp).1]
  cases hfiles : (discover t' home cwd).mapM (Config.readFile t') with
  | error e => rfl
  | ok files =>
    have hblank : ∀ f ∈ files, (!t.leadsTo place f.1) = false → f.2.fields = none := by
      intro f hf hleads
      have hread := (mapM_readFile_eq_ok hfiles).2 f hf
      rw [h.readFile (by simpa using hleads)] at hread
      rw [← Except.ok.inj hread]
    have hsources : (files.filter fun f => !t.leadsTo place f.1).map (·.1) =
        t.elsewhere place (files.map (·.1)) := by
      rw [FileTree.elsewhere, List.filter_map]
      rfl
    simp only [bind, Except.bind, Except.map, merge, mergeFields_filter (globalPath home) hblank,
      hsources]
    cases mergeFields (globalPath home) files [] with
    | error e => rfl
    | ok fields => rfl

end AddsBlank

end Config

namespace CommandLine

open Config Toml

/-! ## A file of comments -/

theorem isComment_commented (cs : List Char) : IsComment (String.ofList (commented cs)) := by
  unfold IsComment commented
  split
  · exact .inl rfl
  · exact .inr ⟨_, String.toList_ofList⟩
  · exact .inr ⟨_, String.toList_ofList⟩

theorem plain_commented {cs : List Char} (h : Plain cs) : Plain (commented cs) := by
  unfold commented
  split
  · exact plain_nil
  · exact h
  · exact plain_append_iff.mpr ⟨(by decide : Plain ['#', ' ']), h⟩

/-- **A file of comments says nothing.** -/
theorem read?_unlines {lines : List String} (hcomment : ∀ line ∈ lines, IsComment line)
    (hplain : ∀ line ∈ lines, Plain line.toList) :
    File.read? (unlines lines) = some ⟨none, none⟩ := by
  by_cases hne : lines = []
  · rw [hne]
    decide +kernel
  · have hmark := dropMark_unlines hne hcomment []
    obtain ⟨m, -, hread⟩ := readAll?_unlines (d := .empty) hcomment hplain
      (Nat.le_refl ((unlines lines).toList ++ []).length)
    rw [List.append_nil] at hmark hread
    rw [File.read?, Toml.read?, hmark, hread]
    cases m <;> rfl

theorem template_eq : template =
    unlines (exampleLines.map fun line => String.ofList (commented line.toList)) := by
  have hlines (ls : List String) :
      (unlines (ls.map fun line => String.ofList (commented line.toList))).toList =
        ls.flatMap fun line => commented line.toList ++ ['\n'] := by
    induction ls with
    | nil => rfl
    | cons l ls ih =>
      rw [List.map_cons, toList_unlines_cons, ih, String.toList_ofList, List.flatMap_cons,
        List.append_assoc]
      rfl
  rw [template, ← hlines exampleLines, String.ofList_toList]

theorem plain_exampleLines : ∀ line ∈ exampleLines, Plain line.toList := by
  -- A literal is a list of characters for the checker; its list would first be decoded from bytes.
  have hplain {cs : List Char} (h : Plain cs) : Plain (String.ofList cs).toList := by
    rwa [String.toList_ofList]
  simp only [exampleLines, List.forall_mem_cons, List.not_mem_nil, false_implies, implies_true,
    and_true]
  and_intros
  all_goals exact hplain (by decide)

/-- The file to start from shows all settings, and sets none. -/
theorem read?_template : File.read? template = some ⟨none, none⟩ := by
  rw [template_eq]
  refine read?_unlines (fun line hline => ?_) fun line hline => ?_
  · obtain ⟨l, -, rfl⟩ := List.mem_map.mp hline
    exact isComment_commented l.toList
  · obtain ⟨l, hl, rfl⟩ := List.mem_map.mp hline
    rw [String.toList_ofList]
    exact plain_commented (plain_exampleLines l hl)

/-! ## What queries show -/

/-- The commands that are about a query. -/
def Command.hasQuery : Command → Bool
  | parse _ _ _ | tokens _ _ => true
  | init _ | config => false

/-- What is seen of a run by somebody who does not look at files. -/
def Outcome.streams (out : Outcome) : Nat × String × String := (out.code, out.stdout, out.stderr)

/-- **What a command about a query shows depends on its configuration by the scanner only.** -/
theorem streams_congr {env env' : Environment} {c : Command} (hc : c.hasQuery = true)
    (h : (env.context c).map (·.2.scanner) = (env'.context c).map (·.2.scanner)) :
    (env.outcome c).map Outcome.streams = (env'.outcome c).map Outcome.streams := by
  unfold Environment.outcome Environment.run
  cases hcontext : env.context c with
  | error e =>
    cases hcontext' : env'.context c with
    | error e' =>
      obtain rfl : e = e' := by simpa [hcontext, hcontext', Except.map] using h
      rfl
    | ok found' => simp [hcontext, hcontext', Except.map] at h
  | ok found =>
    cases hcontext' : env'.context c with
    | error e' => simp [hcontext, hcontext', Except.map] at h
    | ok found' =>
      obtain ⟨cwd, config⟩ := found
      obtain ⟨cwd', config'⟩ := found'
      have hscanner : config.scanner = config'.scanner := by
        simpa [hcontext, hcontext', Except.map] using h
      have hfor (fields : FieldArgs) : scannerFor config fields = scannerFor config' fields := by
        rw [scannerFor, scannerFor, hscanner]
      cases c with
      | parse query fields view =>
        simp only [Environment.runIn, hfor]
        cases scannerFor config' fields with
        | error e => rfl
        | ok s =>
          simp only [Option.map_map]
          congr 1
          funext answer
          cases answer <;> rfl
      | tokens query fields =>
        simp only [Environment.runIn, hfor]
        cases scannerFor config' fields with
        | error e => rfl
        | ok s =>
          simp only [Option.map_map]
          rfl
      | init force => cases hc
      | config => cases hc

theorem context_addsBlank {place : SearchQuery.Place} {t t' : FileTree} (h : AddsBlank place t t')
    (home : Path) (cwd : Option Path) (c : Command) :
    (Environment.context ⟨t, home, cwd⟩ c).map (·.2.scanner) =
      (Environment.context ⟨t', home, cwd⟩ c).map (·.2.scanner) := by
  unfold Environment.context
  cases cwd with
  | none => rfl
  | some dir =>
    simp only
    split
    · rw [h.load_eq home dir]
      cases load t' home dir with
      | error e => rfl
      | ok config =>
        refine congrArg Except.ok (scanner_eq_of_rules ?_)
        rfl
    · rfl

/-- What `init` leaves behind where no configuration file was. -/
theorem addsBlank_of_init {t : FileTree} {home dir : Path} {force : Bool} {out : Outcome}
    (habsent : t.exists? (dir.child fileName) = false)
    (hinit : Environment.outcome ⟨t, home, some dir⟩ (.init force) = some out) (hok : out.code = 0) :
    ∃ place, t.locate (dir.child fileName) = .ok place ∧ AddsBlank place t out.tree := by
  have htidy := Environment.tidy_of_outcome hinit
  obtain ⟨dir', place, hwrites, -⟩ := htidy.written force rfl hok
  obtain rfl : dir = dir' := Option.some.inj hwrites.here
  refine ⟨place, hwrites.leads, ?_, template, read?_template, hwrites.written⟩
  cases hentry : t.entry? place with
  | none => rfl
  | some e =>
    have hexists : t.exists? (dir.child fileName) = true :=
      FileTree.exists?_iff.mpr ⟨e, FileTree.find_eq_ok_iff.mpr ⟨place, hwrites.leads, hentry⟩⟩
    rw [habsent] at hexists
    cases hexists

/-- **`init` where no configuration file was is neutral.** Let it succeed in a directory without one.
Then from everywhere, for every home and every directory, the same fields are loaded as before or the
same error is given; the sources are those from before, and possibly paths that lead to the new file.
Every command about a query has the same exit code and prints the same as before. -/
theorem init_is_neutral {t : FileTree} {home dir : Path} {force : Bool} {out : Outcome}
    (habsent : t.exists? (dir.child fileName) = false)
    (hinit : Environment.outcome ⟨t, home, some dir⟩ (.init force) = some out) (hok : out.code = 0) :
    ∃ place, t.locate (dir.child fileName) = .ok place ∧
      ∀ (base : SearchQuery.Place) (user : Path),
        (∀ w, load (t.rebased base) user w =
          (load (out.tree.rebased base) user w).map fun c =>
            { c with sources := (t.rebased base).elsewhere place c.sources }) ∧
        ∀ (w : Option Path) (c : Command), c.hasQuery = true →
          (Environment.outcome ⟨t.rebased base, user, w⟩ c).map Outcome.streams =
            (Environment.outcome ⟨out.tree.rebased base, user, w⟩ c).map Outcome.streams := by
  obtain ⟨place, hlocate, hadds⟩ := addsBlank_of_init habsent hinit hok
  refine ⟨place, hlocate, fun base user => ⟨fun w => ?_, fun w c hc => ?_⟩⟩
  · exact (hadds.rebased base).load_eq user w
  · exact streams_congr hc (context_addsBlank (hadds.rebased base) user w c)

/-- A project in the home of the global file. After `init` there, a directory of the project still has
the one field of the global file. -/
theorem init_is_neutral_project :
    let t : FileTree := ⟨[(["p"], .directory), (["p", "src"], .directory), ([".sift.toml"],
      .file (.text "[[field]]\nlabel = \"TRIP\"\ntoken = \"trip:[0-9]+\"\n"))], ["p"]⟩
    let src : SearchQuery.Place := ["p", "src"]
    ∃ out, Environment.outcome ⟨t, ⟨"/"⟩, some ⟨"/p"⟩⟩ (.init false) = some out ∧ out.code = 0 ∧
      (load (out.tree.rebased src) ⟨"/"⟩ ⟨"/p/src"⟩).map (·.fields.map (·.label)) = .ok ["TRIP"] ∧
      (Environment.outcome ⟨out.tree.rebased src, ⟨"/"⟩, some ⟨"/p/src"⟩⟩
        (.parse "trip:7" ⟨[], false⟩ .query)).map Outcome.streams = some (0, "trip:7\n", "") := by
  intro t src
  have hcode : (Environment.outcome ⟨t, ⟨"/"⟩, some ⟨"/p"⟩⟩ (.init false)).map (·.code) = some 0 := by
    decide +kernel
  have habsent : t.exists? (Path.child ⟨"/p"⟩ fileName) = false := by decide +kernel
  have hlabels : ((load (t.rebased src) ⟨"/"⟩ ⟨"/p/src"⟩).map (·.fields.map (·.label))).toOption =
      some ["TRIP"] := by
    decide +kernel
  have hstreams : (Environment.outcome ⟨t.rebased src, ⟨"/"⟩, some ⟨"/p/src"⟩⟩
      (.parse "trip:7" ⟨[], false⟩ .query)).map Outcome.streams = some (0, "trip:7\n", "") := by
    decide +kernel
  obtain ⟨out, hout, hok⟩ := Option.map_eq_some_iff.mp hcode
  obtain ⟨place, -, hsame⟩ := init_is_neutral habsent hout hok
  obtain ⟨hload, hshown⟩ := hsame src ⟨"/"⟩
  refine ⟨out, hout, hok, ?_, ?_⟩
  · rw [hload] at hlabels
    cases hc : load (out.tree.rebased src) ⟨"/"⟩ ⟨"/p/src"⟩ with
    | error e => simp [hc, Except.map, Except.toOption] at hlabels
    | ok c => simpa [hc, Except.map, Except.toOption] using hlabels
  · rw [← hshown _ _ rfl, hstreams]

end CommandLine

end SearchQuery
