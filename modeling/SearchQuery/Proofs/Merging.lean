import Mathlib.Data.List.Forall2
import Mathlib.Data.List.Nodup
import SearchQuery.Config.Merge

/-!
# What merging files gives

Files are merged entry by entry. What happens to an entry depends on the labels that stand before it
in its own file and in the files before.

* `Place`, `places`: all entries in order, each with the labels before it. An entry may repeat a
  label of its own file (`Place.repeats`), be the first of its label in all files (`Place.isFirst`),
  or be hidden by a closer file.
* `merge_eq`: merging gives the first fault in this order (`Place.fault?`), or else the fields of all
  first entries (`Place.field?`). Hidden entries are not looked at.
* `mergeFields_induction`: what holds of the fields of closer files, and still holds when a checked
  field with a new label is added, holds in the end.
* `field_is_nearest`: a field comes from the first file that defines its label, and every label that
  is defined has a field (`exists_field`).
* `mergeEntries_of_nodup`: where no label comes twice, merging is no more than checking entry by entry.
-/

namespace SearchQuery.Config

/-! ## Entries where they stand -/

/-- The entries of a file. -/
def File.entries (file : File) : List FieldEntry := file.fields.getD []

/-- An entry with the labels that stand before it. -/
structure Place where
  path : Path
  entry : FieldEntry
  /-- The labels before it in its file. -/
  own : List String
  /-- The labels of the files before. -/
  closer : List String

/-- The entries of one file, after others with the labels `own`. -/
def placesIn (path : Path) (closer : List String) :
    List String → List FieldEntry → List Place
  | _, [] => []
  | own, e :: es => ⟨path, e, own, closer⟩ :: placesIn path closer (e.label :: own) es

/-- The entries of files, after other files with the labels `closer`. -/
def placesAfter : List String → List (Path × File) → List Place
  | _, [] => []
  | closer, (path, file) :: files =>
    placesIn path closer [] file.entries ++
      placesAfter (closer ++ file.entries.map (·.label)) files

/-- The entries of files, file by file. -/
def places (files : List (Path × File)) : List Place := placesAfter [] files

/-- The label is neither blank nor the name of a built-in kind. -/
def LabelAllowed (label : String) : Prop :=
  label.toList.all Text.isWhiteSpace = false ∧ ∀ k ∈ Kind.builtins, k.name ≠ label

/-- The entry passes all checks: its label is allowed, and it has either a pattern for the token
alone or one with two groups, which makes a rule. -/
def FieldEntry.Sound (e : FieldEntry) : Prop :=
  LabelAllowed e.label ∧
    ((∃ t rule, e.token = some t ∧ e.pattern = none ∧ Rule.ofToken (.field e.label) t = .ok rule) ∨
      ∃ t rule, e.token = none ∧ e.pattern = some t ∧ Rule.ofPattern (.field e.label) t = .ok rule)

namespace Place

/-- The label stands in the same file before. -/
def repeats (p : Place) : Bool := p.own.contains p.entry.label

/-- The label stands nowhere before. -/
def isFirst (p : Place) : Bool :=
  !p.own.contains p.entry.label && !p.closer.contains p.entry.label

/-- The entry is in error: it repeats a label, or it is the first of its label and fails a check. -/
def Faulty (p : Place) : Prop := p.repeats = true ∨ p.isFirst = true ∧ ¬ p.entry.Sound

/-- The field is that of the entry. -/
structure Gives (globalPath : Path) (p : Place) (f : Field) : Prop where
  label : f.label = p.entry.label
  source : p.entry.source = .ok f.source
  path : f.path = p.path
  isGlobal : f.isGlobal = p.path.sameAs globalPath
  rule : f.source.rule f.label = .ok f.rule

/-- The error of an entry, if it is in error. -/
def fault? (globalPath : Path) (p : Place) : Option Error :=
  if p.repeats then some (.badEntry p.path p.entry.label .repeatedLabel)
  else if p.isFirst then
    match checkEntry globalPath p.path p.entry with
    | .error err => some err
    | .ok _ => none
  else none

/-- The field of an entry, if it is the first of its label. -/
def field? (globalPath : Path) (p : Place) : Option Field :=
  if p.isFirst then (checkEntry globalPath p.path p.entry).toOption else none

end Place

/-! ## Checks of one entry -/

/-- The file that an error is about. -/
def Error.path : Error → Path
  | unreadable path _ | notToml path | badEntry path _ _ | badRule path _ => path

theorem labelProblem?_eq_none_iff {label : String} :
    labelProblem? label = none ↔ LabelAllowed label := by
  have hbuiltin : (Kind.builtin? label).isSome = false ↔ ∀ k ∈ Kind.builtins, k.name ≠ label := by
    simp [Kind.builtin?]
  rw [labelProblem?, LabelAllowed, ← hbuiltin]
  by_cases hblank : label.toList.all Text.isWhiteSpace = true
  · simp [hblank]
  · by_cases hb : (Kind.builtin? label).isSome = true <;> simp [hblank, hb]

theorem source_eq_ok_iff {e : FieldEntry} {source : Source} :
    e.source = .ok source ↔
      (∃ t, e.token = some t ∧ e.pattern = none ∧ source = .token t) ∨
        ∃ t, e.token = none ∧ e.pattern = some t ∧ source = .pattern t := by
  unfold FieldEntry.source
  cases e.token <;> cases e.pattern <;> simp [eq_comm]

theorem sound_iff {e : FieldEntry} :
    e.Sound ↔ labelProblem? e.label = none ∧
      ∃ source rule, e.source = .ok source ∧ source.rule e.label = .ok rule := by
  rw [FieldEntry.Sound, labelProblem?_eq_none_iff]
  refine and_congr_right fun _ => ⟨?_, ?_⟩
  · rintro (⟨t, rule, htoken, hpattern, hrule⟩ | ⟨t, rule, htoken, hpattern, hrule⟩)
    · exact ⟨.token t, rule, source_eq_ok_iff.mpr (.inl ⟨t, htoken, hpattern, rfl⟩), hrule⟩
    · exact ⟨.pattern t, rule, source_eq_ok_iff.mpr (.inr ⟨t, htoken, hpattern, rfl⟩), hrule⟩
  · rintro ⟨source, rule, hsource, hrule⟩
    rcases source_eq_ok_iff.mp hsource with ⟨t, htoken, hpattern, rfl⟩ | ⟨t, htoken, hpattern, rfl⟩
    · exact .inl ⟨t, rule, htoken, hpattern, hrule⟩
    · exact .inr ⟨t, rule, htoken, hpattern, hrule⟩

variable {globalPath path : Path} {e : FieldEntry} {f : Field} {err : Error}

theorem checkEntry_eq_ok_iff :
    checkEntry globalPath path e = .ok f ↔
      labelProblem? e.label = none ∧ e.source = .ok f.source ∧
        f.source.rule e.label = .ok f.rule ∧ f.label = e.label ∧ f.path = path ∧
          f.isGlobal = path.sameAs globalPath := by
  constructor
  · intro h
    unfold checkEntry at h
    split at h
    · cases h
    · next hlabel =>
      split at h
      · cases h
      · next source hsource =>
        split at h
        · cases h
        · next rule hrule =>
          obtain rfl := Except.ok.inj h
          exact ⟨hlabel, hsource, hrule, rfl, rfl, rfl⟩
  · obtain ⟨label, source, path', isGlobal, rule⟩ := f
    rintro ⟨hlabel, hsource, hrule, rfl, rfl, hglobal⟩
    simp only at hsource hrule hglobal
    simp only [checkEntry, hlabel, hsource, hrule, hglobal]

theorem sound_iff_checkEntry (globalPath path : Path) :
    e.Sound ↔ ∃ f, checkEntry globalPath path e = .ok f := by
  rw [sound_iff]
  constructor
  · rintro ⟨hlabel, source, rule, hsource, hrule⟩
    exact ⟨⟨e.label, source, path, path.sameAs globalPath, rule⟩,
      checkEntry_eq_ok_iff.mpr ⟨hlabel, hsource, hrule, rfl, rfl, rfl⟩⟩
  · rintro ⟨f, h⟩
    obtain ⟨hlabel, hsource, hrule, -⟩ := checkEntry_eq_ok_iff.mp h
    exact ⟨hlabel, f.source, f.rule, hsource, hrule⟩

theorem path_of_checkEntry_eq_error (h : checkEntry globalPath path e = .error err) :
    err.path = path := by
  unfold checkEntry at h
  split at h
  · obtain rfl := Except.error.inj h
    rfl
  · split at h
    · obtain rfl := Except.error.inj h
      rfl
    · split at h
      · obtain rfl := Except.error.inj h
        rfl
      · cases h

/-! ## Merging entry by entry -/

variable {es : List FieldEntry} {own closer : List String} {fields fields' : List Field}
  {files : List (Path × File)}

/-- What is done with the first entry of a file that is merged: its label is new to the file, and
either it is hidden, or it is checked and added. -/
theorem mergeEntries_cons_eq_ok
    (h : mergeEntries globalPath path (e :: es) own fields = .ok fields') :
    e.label ∉ own ∧
      ((e.label ∈ fields.map (·.label) ∧
        mergeEntries globalPath path es (e.label :: own) fields = .ok fields') ∨
      (e.label ∉ fields.map (·.label) ∧ ∃ f, checkEntry globalPath path e = .ok f ∧
        mergeEntries globalPath path es (e.label :: own) (fields ++ [f]) = .ok fields')) := by
  rw [mergeEntries] at h
  have hany : fields.any (·.label == e.label) = true ↔ e.label ∈ fields.map (·.label) := by simp
  split at h
  · cases h
  · next hown =>
    refine ⟨by simpa using hown, ?_⟩
    split at h
    · next hhidden => exact .inl ⟨hany.mp hhidden, h⟩
    · next hnew =>
      refine .inr ⟨fun hmem => hnew (hany.mpr hmem), ?_⟩
      cases hcheck : checkEntry globalPath path e with
      | error err => simp [hcheck] at h
      | ok f => exact ⟨f, rfl, by simpa [hcheck] using h⟩

theorem mergeEntries_induction {P : List Field → Prop}
    (hadd : ∀ fields path e f, P fields → checkEntry globalPath path e = .ok f →
      f.label ∉ fields.map (·.label) → P (fields ++ [f]))
    (h : mergeEntries globalPath path es own fields = .ok fields') (hP : P fields) :
    P fields' := by
  induction es generalizing own fields with
  | nil =>
    obtain rfl := Except.ok.inj h
    exact hP
  | cons e es ih =>
    obtain ⟨-, ⟨-, h⟩ | ⟨hnew, f, hcheck, h⟩⟩ := mergeEntries_cons_eq_ok h
    · exact ih h hP
    · have hlabel : f.label = e.label := (checkEntry_eq_ok_iff.mp hcheck).2.2.2.1
      exact ih h (hadd fields path e f hP hcheck (hlabel ▸ hnew))

/-- **What every added field preserves holds of the merged fields.** -/
theorem mergeFields_induction {P : List Field → Prop}
    (hadd : ∀ fields path e f, P fields → checkEntry globalPath path e = .ok f →
      f.label ∉ fields.map (·.label) → P (fields ++ [f]))
    (h : mergeFields globalPath files fields = .ok fields') (hP : P fields) : P fields' := by
  induction files generalizing fields with
  | nil =>
    obtain rfl := Except.ok.inj h
    exact hP
  | cons file files ih =>
    obtain ⟨path, file⟩ := file
    rw [mergeFields] at h
    cases hfile : mergeEntries globalPath path (file.fields.getD []) [] fields with
    | error err => simp [hfile] at h
    | ok merged =>
      simp only [hfile] at h
      exact ih h (mergeEntries_induction hadd hfile hP)

/-- After a file, the labels are those before it and its own. -/
theorem mem_labels_of_mergeEntries
    (h : mergeEntries globalPath path es own fields = .ok fields') (label : String) :
    label ∈ fields'.map (·.label) ↔
      label ∈ fields.map (·.label) ∨ label ∈ es.map (·.label) := by
  induction es generalizing own fields with
  | nil =>
    obtain rfl := Except.ok.inj h
    simp
  | cons e es ih =>
    obtain ⟨-, ⟨hhidden, h⟩ | ⟨-, f, hcheck, h⟩⟩ := mergeEntries_cons_eq_ok h
    · rw [ih h, List.map_cons, List.mem_cons]
      constructor
      · rintro (hmem | hmem)
        · exact .inl hmem
        · exact .inr (.inr hmem)
      · rintro (hmem | rfl | hmem)
        · exact .inl hmem
        · exact .inl hhidden
        · exact .inr hmem
    · have hlabel : f.label = e.label := (checkEntry_eq_ok_iff.mp hcheck).2.2.2.1
      rw [ih h, List.map_append, List.map_singleton, hlabel, List.map_cons, List.mem_append,
        List.mem_singleton, List.mem_cons, or_assoc]

/-- The answer to entries in order: the first fault, or else their fields after others. -/
def answer (globalPath : Path) (fields : List Field) (ps : List Place) :
    Except Error (List Field) :=
  match ps.findSome? (Place.fault? globalPath) with
  | some err => .error err
  | none => .ok (fields ++ ps.filterMap (Place.field? globalPath))

theorem answer_cons_of_fault {p : Place} {ps : List Place} (h : p.fault? globalPath = some err) :
    answer globalPath fields (p :: ps) = .error err := by
  rw [answer, List.findSome?_cons_of_isSome (by simp [h]), h]

theorem answer_cons_of_hidden {p : Place} {ps : List Place} (hrepeats : p.repeats = false)
    (hfirst : p.isFirst = false) :
    answer globalPath fields (p :: ps) = answer globalPath fields ps := by
  have hfault : p.fault? globalPath = none := by simp [Place.fault?, hrepeats, hfirst]
  have hfield : p.field? globalPath = none := by simp [Place.field?, hfirst]
  rw [answer, answer, List.findSome?_cons_of_isNone (by simp [hfault]),
    List.filterMap_cons_none hfield]

theorem answer_cons_of_field {p : Place} {ps : List Place} (hrepeats : p.repeats = false)
    (hfirst : p.isFirst = true) (hcheck : checkEntry globalPath p.path p.entry = .ok f) :
    answer globalPath fields (p :: ps) = answer globalPath (fields ++ [f]) ps := by
  have hfault : p.fault? globalPath = none := by simp [Place.fault?, hrepeats, hfirst, hcheck]
  have hfield : p.field? globalPath = some f := by
    simp [Place.field?, hfirst, hcheck, Except.toOption]
  rw [answer, answer, List.findSome?_cons_of_isNone (by simp [hfault]),
    List.filterMap_cons_some hfield, List.append_assoc, List.singleton_append]

/-- Merging the entries of a file, where the fields so far have the labels before. -/
theorem mergeEntries_eq
    (hlabels : ∀ label, label ∈ fields.map (·.label) ↔ label ∈ own ∨ label ∈ closer) :
    mergeEntries globalPath path es own fields =
      answer globalPath fields (placesIn path closer own es) := by
  induction es generalizing own fields with
  | nil => simp [mergeEntries, placesIn, answer]
  | cons e es ih =>
    have hany : fields.any (·.label == e.label) = true ↔ e.label ∈ fields.map (·.label) := by simp
    rw [mergeEntries, placesIn]
    by_cases hown : e.label ∈ own
    · rw [if_pos (by simpa using hown)]
      refine (answer_cons_of_fault ?_).symm
      simp [Place.fault?, Place.repeats, hown]
    · rw [if_neg (by simpa using hown)]
      have hrepeats : Place.repeats ⟨path, e, own, closer⟩ = false := by
        simp [Place.repeats, hown]
      by_cases hcloser : e.label ∈ closer
      · rw [if_pos (hany.mpr ((hlabels e.label).mpr (.inr hcloser))),
          answer_cons_of_hidden hrepeats (by simp [Place.isFirst, hcloser])]
        refine ih fun label => ?_
        rw [hlabels, List.mem_cons]
        constructor
        · rintro (hmem | hmem)
          · exact .inl (.inr hmem)
          · exact .inr hmem
        · rintro ((rfl | hmem) | hmem)
          · exact .inr hcloser
          · exact .inl hmem
          · exact .inr hmem
      · have hnew : ¬ fields.any (·.label == e.label) = true :=
          fun h => ((hlabels e.label).mp (hany.mp h)).elim hown hcloser
        have hfirst : Place.isFirst ⟨path, e, own, closer⟩ = true := by
          simp [Place.isFirst, hown, hcloser]
        rw [if_neg hnew]
        cases hcheck : checkEntry globalPath path e with
        | error err =>
          refine (answer_cons_of_fault ?_).symm
          simp [Place.fault?, hrepeats, hfirst, hcheck]
        | ok f =>
          have hlabel : f.label = e.label := (checkEntry_eq_ok_iff.mp hcheck).2.2.2.1
          rw [answer_cons_of_field hrepeats hfirst hcheck]
          refine ih fun label => ?_
          rw [List.map_append, List.map_singleton, hlabel, List.mem_append, hlabels,
            List.mem_singleton, List.mem_cons]
          tauto

/-- The answer to entries after others that are without fault. -/
theorem answer_append (ps qs : List Place) :
    answer globalPath fields (ps ++ qs) =
      match answer globalPath fields ps with
      | .error err => .error err
      | .ok merged => answer globalPath merged qs := by
  unfold answer
  rw [List.findSome?_append, List.filterMap_append]
  cases ps.findSome? (Place.fault? globalPath) with
  | some err => rfl
  | none => simp only [Option.none_or, List.append_assoc]

theorem mergeFields_eq
    (hlabels : ∀ label, label ∈ fields.map (·.label) ↔ label ∈ closer) :
    mergeFields globalPath files fields =
      answer globalPath fields (placesAfter closer files) := by
  induction files generalizing fields closer with
  | nil => simp [mergeFields, placesAfter, answer]
  | cons file files ih =>
    obtain ⟨path, file⟩ := file
    have hfile : mergeEntries globalPath path (file.fields.getD []) [] fields =
        answer globalPath fields (placesIn path closer [] file.entries) :=
      mergeEntries_eq (by simpa using hlabels)
    rw [mergeFields, placesAfter, answer_append, ← hfile]
    cases hmerged : mergeEntries globalPath path (file.fields.getD []) [] fields with
    | error err => rfl
    | ok merged =>
      refine ih fun label => ?_
      rw [mem_labels_of_mergeEntries hmerged, hlabels, List.mem_append]
      rfl

/-- **Merging gives the first fault, or the fields of all first entries.** -/
theorem merge_eq (globalPath : Path) (files : List (Path × File)) :
    merge globalPath files =
      (answer globalPath [] (places files)).map fun fields => ⟨fields, files.map (·.1)⟩ := by
  have hlabels (label : String) :
      label ∈ ([] : List Field).map (·.label) ↔ label ∈ ([] : List String) := by simp
  rw [merge, mergeFields_eq hlabels]
  rfl

/-! ## Faults and fields -/

theorem fault?_eq_none_iff {p : Place} : p.fault? globalPath = none ↔ ¬ p.Faulty := by
  unfold Place.fault? Place.Faulty
  by_cases hrepeats : p.repeats = true
  · simp [hrepeats]
  · by_cases hfirst : p.isFirst = true
    · rw [sound_iff_checkEntry globalPath p.path]
      cases hcheck : checkEntry globalPath p.path p.entry <;> simp [hrepeats, hfirst]
    · simp [hrepeats, hfirst]

theorem fault?_eq_some {p : Place} (h : p.fault? globalPath = some err) :
    p.repeats = true ∧ err = .badEntry p.path p.entry.label .repeatedLabel ∨
      p.isFirst = true ∧ checkEntry globalPath p.path p.entry = .error err := by
  unfold Place.fault? at h
  split at h
  · next hrepeats => exact .inl ⟨hrepeats, (Option.some.inj h).symm⟩
  · split at h
    · next hfirst =>
      refine .inr ⟨hfirst, ?_⟩
      cases hcheck : checkEntry globalPath p.path p.entry with
      | error err' => simpa [hcheck] using h
      | ok f => simp [hcheck] at h
    · cases h

/-- Without a fault, the fields are those of the first entries, one for each. -/
theorem forall₂_gives {ps : List Place} (h : ∀ p ∈ ps, ¬ p.Faulty) :
    List.Forall₂ (Place.Gives globalPath) (ps.filter Place.isFirst)
      (ps.filterMap (Place.field? globalPath)) := by
  induction ps with
  | nil => exact .nil
  | cons p ps ih =>
    have hrest := ih fun q hq => h q (List.mem_cons_of_mem p hq)
    by_cases hfirst : p.isFirst = true
    · have hsound : p.entry.Sound := by
        by_contra hnot
        exact h p (List.mem_cons_self ..) (.inr ⟨hfirst, hnot⟩)
      obtain ⟨f, hcheck⟩ := (sound_iff_checkEntry globalPath p.path).mp hsound
      have hfield : p.field? globalPath = some f := by
        simp [Place.field?, hfirst, hcheck, Except.toOption]
      obtain ⟨-, hsource, hrule, hlabel, hpath, hglobal⟩ := checkEntry_eq_ok_iff.mp hcheck
      rw [List.filter_cons_of_pos hfirst, List.filterMap_cons_some hfield]
      exact .cons ⟨hlabel, hsource, hpath, hglobal, hlabel ▸ hrule⟩ hrest
    · have hfield : p.field? globalPath = none := by simp [Place.field?, hfirst]
      rwa [List.filter_cons_of_neg hfirst, List.filterMap_cons_none hfield]

theorem merge_eq_ok_iff {c : Config} :
    merge globalPath files = .ok c ↔
      (∀ p ∈ places files, ¬ p.Faulty) ∧
        c = ⟨(places files).filterMap (Place.field? globalPath), files.map (·.1)⟩ := by
  have hnone : (places files).findSome? (Place.fault? globalPath) = none ↔
      ∀ p ∈ places files, ¬ p.Faulty := by
    simp only [List.findSome?_eq_none_iff, fault?_eq_none_iff]
  rw [merge_eq, answer, ← hnone]
  cases (places files).findSome? (Place.fault? globalPath) with
  | some err => simp [Except.map]
  | none => simp [Except.map, eq_comm]

theorem mergeFields_of_merge {c : Config} (h : merge globalPath files = .ok c) :
    mergeFields globalPath files [] = .ok c.fields := by
  unfold merge at h
  cases hfields : mergeFields globalPath files [] with
  | error err => simp [hfields, Except.map] at h
  | ok fields =>
    simp only [hfields, Except.map, Except.ok.injEq] at h
    rw [← h]

/-- What holds of no fields, and still holds when a checked field with a new label is added, holds of
the fields of a configuration. -/
theorem merge_induction {P : List Field → Prop}
    (hadd : ∀ fields path e f, P fields → checkEntry globalPath path e = .ok f →
      f.label ∉ fields.map (·.label) → P (fields ++ [f])) (hnil : P []) {c : Config}
    (h : merge globalPath files = .ok c) : P c.fields :=
  mergeFields_induction hadd (mergeFields_of_merge h) hnil

theorem nodup_labels_of_merge {c : Config} (h : merge globalPath files = .ok c) :
    (c.fields.map (·.label)).Nodup := by
  refine merge_induction (P := fun fields => (fields.map (·.label)).Nodup)
    (fun fields path e f hP _ hnew => ?_) List.nodup_nil h
  rw [List.map_append, List.map_singleton, List.nodup_append_comm, List.singleton_append]
  exact List.nodup_cons.mpr ⟨hnew, hP⟩

/-- The label of every field is allowed, and its pattern makes its rule. -/
theorem checked_of_merge {c : Config} (h : merge globalPath files = .ok c) :
    ∀ f ∈ c.fields, LabelAllowed f.label ∧ f.source.rule f.label = .ok f.rule := by
  refine merge_induction
    (P := fun fields => ∀ f ∈ fields, LabelAllowed f.label ∧ f.source.rule f.label = .ok f.rule)
    (fun fields path e f hP hcheck _ => ?_) (by simp) h
  obtain ⟨hallowed, -, hrule, hlabel, -⟩ := checkEntry_eq_ok_iff.mp hcheck
  rw [← hlabel] at hallowed hrule
  intro f' hf'
  rcases List.mem_append.mp hf' with hmem | hmem
  · exact hP f' hmem
  · obtain rfl := List.mem_singleton.mp hmem
    exact ⟨labelProblem?_eq_none_iff.mp hallowed, hrule⟩

/-! ## Where fields come from -/

/-- The labels that a file defines. -/
def File.labels (file : File) : List String := file.entries.map (·.label)

theorem of_mem_placesIn {p : Place} (h : p ∈ placesIn path closer own es) :
    p.path = path ∧ p.entry ∈ es ∧ p.closer = closer := by
  induction es generalizing own with
  | nil => cases h
  | cons e es ih =>
    rcases List.mem_cons.mp h with rfl | hmem
    · exact ⟨rfl, List.mem_cons_self .., rfl⟩
    · obtain ⟨hpath, hentry, hcloser⟩ := ih hmem
      exact ⟨hpath, List.mem_cons_of_mem e hentry, hcloser⟩

/-- An entry stands in one of the files, behind the labels of those before. -/
theorem of_mem_placesAfter {p : Place} (h : p ∈ placesAfter closer files) :
    ∃ front file behind, files = front ++ (p.path, file) :: behind ∧ p.entry ∈ file.entries ∧
      p.closer = closer ++ front.flatMap (·.2.labels) := by
  induction files generalizing closer with
  | nil => cases h
  | cons first files ih =>
    obtain ⟨path, file⟩ := first
    rcases List.mem_append.mp h with hmem | hmem
    · obtain ⟨hpath, hentry, hcloser⟩ := of_mem_placesIn hmem
      exact ⟨[], file, files, by rw [hpath]; rfl, hentry, by simp [hcloser]⟩
    · obtain ⟨front, file', behind, hfiles, hentry, hcloser⟩ := ih hmem
      refine ⟨(path, file) :: front, file', behind, by rw [hfiles]; rfl, hentry, ?_⟩
      rw [hcloser, List.flatMap_cons, List.append_assoc]
      rfl

/-- **A field comes from the first file that defines its label.** -/
theorem field_is_nearest {c : Config} (h : merge globalPath files = .ok c)
    (hf : f ∈ c.fields) :
    ∃ file, files.find? (fun file => file.2.labels.contains f.label) = some (f.path, file) ∧
      f.isGlobal = f.path.sameAs globalPath := by
  obtain ⟨-, rfl⟩ := merge_eq_ok_iff.mp h
  obtain ⟨p, hp, hfield⟩ := List.mem_filterMap.mp hf
  unfold Place.field? at hfield
  split at hfield
  · next hfirst =>
    obtain ⟨front, file, behind, hfiles, hentry, hcloser⟩ := of_mem_placesAfter hp
    cases hcheck : checkEntry globalPath p.path p.entry with
    | error err => simp [hcheck, Except.toOption] at hfield
    | ok f' =>
      obtain rfl : f' = f := by simpa [hcheck, Except.toOption] using hfield
      obtain ⟨-, -, -, hlabel, hpath, hglobal⟩ := checkEntry_eq_ok_iff.mp hcheck
      have hnew : f'.label ∉ front.flatMap (·.2.labels) := by
        rw [List.nil_append] at hcloser
        simp only [Place.isFirst, Bool.and_eq_true, Bool.not_eq_true', hcloser] at hfirst
        rw [hlabel]
        simpa using hfirst.2
      refine ⟨file, List.find?_eq_some_iff_append.mpr ⟨?_, front, behind, ?_, ?_⟩, ?_⟩
      · rw [List.contains_iff_mem, hlabel]
        exact List.mem_map_of_mem hentry
      · rw [hpath, hfiles]
      · intro file' hfile'
        rw [Bool.not_eq_true', ← Bool.not_eq_true, List.contains_iff_mem]
        exact fun hmem => hnew (List.mem_flatMap.mpr ⟨file', hfile', hmem⟩)
      · rw [hglobal, hpath]
  · cases hfield

theorem mem_labels_of_mergeFields
    (h : mergeFields globalPath files fields = .ok fields') (label : String) :
    label ∈ fields'.map (·.label) ↔
      label ∈ fields.map (·.label) ∨ ∃ file ∈ files, label ∈ file.2.labels := by
  induction files generalizing fields with
  | nil =>
    obtain rfl := Except.ok.inj h
    simp
  | cons file files ih =>
    obtain ⟨path, file⟩ := file
    rw [mergeFields] at h
    cases hfile : mergeEntries globalPath path (file.fields.getD []) [] fields with
    | error err => simp [hfile] at h
    | ok merged =>
      simp only [hfile] at h
      rw [ih h, mem_labels_of_mergeEntries hfile, or_assoc]
      simp only [List.mem_cons, exists_eq_or_imp]
      rfl

/-- Every label that a file defines has a field. -/
theorem exists_field {c : Config} {label : String} {file : Path × File}
    (h : merge globalPath files = .ok c) (hfile : file ∈ files) (hlabel : label ∈ file.2.labels) :
    ∃ f ∈ c.fields, f.label = label := by
  have hmem := (mem_labels_of_mergeFields (mergeFields_of_merge h) label).mpr
    (.inr ⟨file, hfile, hlabel⟩)
  exact List.mem_map.mp hmem

/-! ## Entries with different labels -/

/-- Where no label comes twice, all entries are checked in order. -/
theorem mergeEntries_of_nodup (hnodup : (es.map (·.label)).Nodup)
    (hown : ∀ e ∈ es, e.label ∉ own) (hfields : ∀ e ∈ es, e.label ∉ fields.map (·.label)) :
    mergeEntries globalPath path es own fields =
      (es.mapM (checkEntry globalPath path)).map (fields ++ ·) := by
  induction es generalizing own fields with
  | nil => simp [mergeEntries, pure, Except.pure, Except.map]
  | cons e es ih =>
    obtain ⟨hnew, hrest⟩ := List.nodup_cons.mp hnodup
    have hne : ∀ e' ∈ es, e'.label ≠ e.label := by
      intro e' he' heq
      exact hnew (List.mem_map.mpr ⟨e', he', heq⟩)
    have hhidden : ¬ fields.any (·.label == e.label) = true := by
      have hlabels := hfields e (List.mem_cons_self ..)
      simpa using hlabels
    rw [mergeEntries, if_neg (by simpa using hown e (List.mem_cons_self ..)), if_neg hhidden,
      List.mapM_cons]
    cases hcheck : checkEntry globalPath path e with
    | error err => rfl
    | ok f =>
      have hlabel : f.label = e.label := (checkEntry_eq_ok_iff.mp hcheck).2.2.2.1
      simp only
      rw [ih hrest]
      · simp only [bind, Except.bind]
        cases es.mapM (checkEntry globalPath path) with
        | error err => rfl
        | ok fs => simp [Except.map, pure, Except.pure]
      · intro e' he'
        exact List.not_mem_cons_of_ne_of_not_mem (hne e' he')
          (hown e' (List.mem_cons_of_mem e he'))
      · intro e' he' hmem
        rw [List.map_append, List.mem_append, List.map_singleton, List.mem_singleton, hlabel] at hmem
        rcases hmem with hmem | heq
        · exact hfields e' (List.mem_cons_of_mem e he') hmem
        · exact hne e' he' heq

/-! ## The answer as a whole -/

/-- **The nearest definition wins.** Files have a configuration just if no file repeats a label and
every entry that is the first of its label, over all files in order, passes all checks. Its fields
are those of the first entries, in order; their labels are all different and allowed; its sources are
all files. Otherwise the error is that of the first entry in order that repeats a label of its file,
or that is the first of its label and fails a check, and it names the file of this entry. -/
theorem merge_nearest_definition_wins (globalPath : Path) (files : List (Path × File)) :
    ((∃ c, merge globalPath files = .ok c) ↔
      (∀ p ∈ places files, p.repeats = false) ∧
        ∀ p ∈ places files, p.isFirst = true → p.entry.Sound) ∧
    (∀ c, merge globalPath files = .ok c →
      List.Forall₂ (Place.Gives globalPath) ((places files).filter Place.isFirst) c.fields ∧
      (c.fields.map (·.label)).Nodup ∧ (∀ f ∈ c.fields, LabelAllowed f.label) ∧
      c.sources = files.map (·.1)) ∧
    ∀ err, merge globalPath files = .error err →
      ∃ before p after, places files = before ++ p :: after ∧ (∀ q ∈ before, ¬ q.Faulty) ∧
        p.Faulty ∧ err.path = p.path ∧
        (p.repeats = true ∧ err = .badEntry p.path p.entry.label .repeatedLabel ∨
          p.isFirst = true ∧ checkEntry globalPath p.path p.entry = .error err) := by
  refine ⟨?_, fun c h => ?_, fun err h => ?_⟩
  · simp only [merge_eq_ok_iff, exists_and_left, exists_eq, and_true, Place.Faulty, not_or, not_and,
      not_not, Bool.not_eq_true, ← forall_and]
  · obtain ⟨hfaultless, rfl⟩ := merge_eq_ok_iff.mp h
    exact ⟨forall₂_gives hfaultless, nodup_labels_of_merge h, fun f hf => (checked_of_merge h f hf).1,
      rfl⟩
  · have hfault : (places files).findSome? (Place.fault? globalPath) = some err := by
      rw [merge_eq, answer] at h
      cases hfirst : (places files).findSome? (Place.fault? globalPath) with
      | none => simp [hfirst, Except.map] at h
      | some err' => simpa [hfirst, Except.map] using h
    obtain ⟨before, p, after, hplaces, hp, hbefore⟩ := List.findSome?_eq_some_iff.mp hfault
    have hfaulty : p.Faulty := by
      by_contra hnot
      simp [fault?_eq_none_iff.mpr hnot] at hp
    refine ⟨before, p, after, hplaces, fun q hq => fault?_eq_none_iff.mp (hbefore q hq), hfaulty, ?_,
      fault?_eq_some hp⟩
    rcases fault?_eq_some hp with ⟨-, rfl⟩ | ⟨-, hcheck⟩
    · rfl
    · exact path_of_checkEntry_eq_error hcheck

end SearchQuery.Config
