import Mathlib.Data.List.DropRight
import SearchQuery.Config.Discovery

/-!
# Paths and the places they lead to

* A parent is shorter than the path itself (`length_parent?_lt`), so that `Path.ancestors` has all
  ancestors: going up from a path step by step runs through it (`Path.ancestors_of_climbs`).
* Where a path leads to is decided by its components (`locate_eq_ok_of_sameAs`), and a change of
  files that leaves the directories as they are does not lead it elsewhere
  (`locate_eq_ok_of_directories`).
* Writing a file changes what one place holds and nothing else (`WrittenAt`, `writeText_eq_ok`):
  paths lead to where they led before (`WrittenAt.locate_iff`), and elsewhere they see what they saw
  (`WrittenAt.seen?_eq`).
-/

namespace SearchQuery

/-! ## Ancestors -/

namespace Path

theorem segments_ne_nil (cs : List Char) : segments cs ≠ [] := by
  cases cs with
  | nil => simp [segments]
  | cons c cs =>
    unfold segments
    split
    · simp
    · split <;> simp

theorem join_segments (cs : List Char) : join (segments cs) = cs := by
  induction cs with
  | nil => rfl
  | cons c cs ih =>
    obtain ⟨s, rest, hs⟩ := List.exists_cons_of_ne_nil (segments_ne_nil cs)
    unfold segments
    rw [hs] at ih ⊢
    split
    · next hc => rw [hc, ← ih]; rfl
    · cases rest with
      | nil => rw [← ih]; rfl
      | cons s' rest => rw [← ih]; rfl

theorem splitStart_append (cs : List Char) : (splitStart cs).1 ++ (splitStart cs).2 = cs := by
  unfold splitStart
  split <;> rfl

/-- One more segment makes a path longer, unless the segment is empty. -/
theorem length_join_lt_concat {s : List Char} (hs : s ≠ []) (ss : List (List Char)) :
    (join ss).length < (join (ss ++ [s])).length := by
  induction ss with
  | nil => exact List.length_pos_iff.mpr hs
  | cons s' ss ih =>
    cases ss with
    | nil =>
      simp only [List.cons_append, List.nil_append, join, List.length_append, List.length_cons]
      omega
    | cons s'' ss =>
      simp only [List.cons_append, join, List.length_append, List.length_cons] at ih ⊢
      omega

theorem length_join_le_append (ss ss' : List (List Char)) :
    (join ss).length ≤ (join (ss ++ ss')).length := by
  induction ss with
  | nil => exact Nat.zero_le _
  | cons s ss ih =>
    cases ss with
    | nil =>
      cases ss' with
      | nil => exact Nat.le_refl _
      | cons s' ss' =>
        simp only [List.cons_append, List.nil_append, join, List.length_append]
        omega
    | cons s' ss =>
      simp only [List.cons_append, join, List.length_append, List.length_cons] at ih ⊢
      omega

theorem length_join_trimEnd_le (ss : List (List Char)) :
    (join (trimEnd ss)).length ≤ (join ss).length := by
  obtain ⟨more, hmore⟩ := List.rdropWhile_prefix isIdle ss
  have hle := length_join_le_append (ss.rdropWhile isIdle) more
  rw [hmore] at hle
  exact hle

/-- **A parent is shorter than the path.** -/
theorem length_parent?_lt {p q : Path} (h : p.parent? = some q) : q.text.length < p.text.length := by
  have hsplit := splitStart_append p.text.toList
  have hlen : p.text.length =
      (splitStart p.text.toList).1.length + (splitStart p.text.toList).2.length := by
    rw [← String.length_toList, ← List.length_append, hsplit]
  rw [hlen]
  unfold parent? at h
  generalize hstart : splitStart p.text.toList = start at h
  obtain ⟨start, body⟩ := start
  simp only at h ⊢
  split at h
  · next hbody =>
    split at h
    · next hdot =>
      obtain rfl := Option.some.inj h
      have hempty : ("" : String).length = 0 := rfl
      rw [hdot, hempty, List.length_singleton]
      omega
    · cases h
  · next hbody =>
    obtain rfl := Option.some.inj h
    have hne : (segments body).rdropWhile isIdle ≠ [] := hbody
    have hlast : (trimEnd (segments body)).getLast hne ≠ [] := by
      intro hnil
      have hidle := List.rdropWhile_last_not isIdle (segments body) hne
      apply hidle
      change isIdle ((trimEnd (segments body)).getLast hne) = true
      rw [hnil]
      rfl
    have hdrop : (join (trimEnd (segments body)).dropLast).length <
        (join (trimEnd (segments body))).length := by
      have hlt := length_join_lt_concat hlast (trimEnd (segments body)).dropLast
      rwa [List.dropLast_append_getLast (show trimEnd (segments body) ≠ [] from hne)] at hlt
    have htrim := length_join_trimEnd_le (trimEnd (segments body)).dropLast
    have hbodyLen := length_join_trimEnd_le (segments body)
    rw [join_segments] at hbodyLen
    rw [String.length_ofList, List.length_append]
    omega

/-- Any number beyond the length of the path is enough to reach all ancestors. -/
theorem ancestorsWithin_eq {p : Path} {n m : Nat} (hn : p.text.length < n) (hm : p.text.length < m) :
    p.ancestorsWithin n = p.ancestorsWithin m := by
  induction n generalizing p m with
  | zero => omega
  | succ n ih =>
    obtain ⟨m, rfl⟩ := Nat.exists_eq_succ_of_ne_zero (Nat.ne_zero_of_lt hm)
    unfold ancestorsWithin
    cases hparent : p.parent? with
    | none => rfl
    | some q =>
      have hlt := length_parent?_lt hparent
      simp only
      rw [@ih q m (by omega) (by omega)]

theorem ancestors_of_parent? {p q : Path} (h : p.parent? = some q) :
    p.ancestors = p :: q.ancestors := by
  have hlt := length_parent?_lt h
  unfold ancestors
  rw [ancestorsWithin]
  simp only [h]
  rw [@ancestorsWithin_eq q _ (q.text.length + 2) (by omega) (by omega)]

/-- A path comes first among its ancestors. -/
theorem exists_ancestors_eq_cons (p : Path) : ∃ outer, p.ancestors = p :: outer := by
  unfold ancestors ancestorsWithin
  split
  · exact ⟨_, rfl⟩
  · exact ⟨_, rfl⟩

/-- `Climbs p below q`: going up from `p`, from parent to parent, one comes to `q`. The paths on the
way are those of `below`, in which `q` itself is not counted. -/
inductive Climbs : Path → List Path → Path → Prop
  | here (p : Path) : Climbs p [] p
  | up {p q r : Path} {below : List Path} (hparent : p.parent? = some q) (h : Climbs q below r) :
      Climbs p (p :: below) r

/-- **The ancestors are all that is met on the way up.** -/
theorem ancestors_of_climbs {p q : Path} {below : List Path} (h : p.Climbs below q) :
    p.ancestors = below ++ q.ancestors := by
  induction h with
  | here p => rfl
  | up hparent h ih => rw [ancestors_of_parent? hparent, ih, List.cons_append]

/-! ## Files in a directory -/

/-- The path of a file in a directory ends with the name of the file. -/
theorem exists_text_child (p : Path) (name : String) :
    ∃ front, (p.child name).text = front ++ name := by
  unfold child
  split
  · exact ⟨"", (String.empty_append).symm⟩
  · split
    · exact ⟨p.text, rfl⟩
    · exact ⟨p.text ++ "/", rfl⟩

end Path

/-! ## Where paths lead to -/

namespace FileTree

/-- The place at the end of names, if every name is taken literally. -/
def follow (place : Place) (names : List (List Char)) : Place :=
  names.foldl
    (fun place s => if s = ['.', '.'] then place.dropLast else place ++ [String.ofList s]) place

theorem walk_eq_ok {t : FileTree} {place place' : Place} {ss : List (List Char)}
    (h : t.walk place ss = .ok place') :
    place' = follow place (ss.filter (!Path.isIdle ·)) := by
  induction ss generalizing place with
  | nil =>
    obtain rfl := Except.ok.inj h
    rfl
  | cons s ss ih =>
    unfold walk at h
    split at h
    · cases h
    · cases h
    · split at h
      · next hidle =>
        rw [List.filter_cons_of_neg (by simp [hidle])]
        exact ih h
      · next hidle =>
        rw [List.filter_cons_of_pos (by simp [hidle])]
        split at h
        · next hup =>
          rw [ih h, follow, follow, List.foldl_cons, if_pos hup]
        · next hup =>
          simp only at h
          split at h
          · cases h
          · rw [ih h, follow, follow, List.foldl_cons, if_neg hup]

/-- The place where a path with this beginning sets out. -/
def origin (t : FileTree) (start : List Char) : Place := if start = ['/'] then [] else t.base

/-- The names of a path are those on its way, whatever it begins with. -/
theorem filter_segments_splitStart {cs : List Char} (h : ∀ rest, cs ≠ '/' :: rest) :
    (Path.segments cs).filter (!Path.isIdle ·) =
      (Path.segments (Path.splitStart cs).2).filter (!Path.isIdle ·) ∧
      (Path.splitStart cs).1 ≠ ['/'] := by
  unfold Path.splitStart
  split
  · next rest => exact absurd rfl (h rest)
  · exact ⟨rfl, by decide⟩
  · next rest =>
    refine ⟨?_, by simp⟩
    have hdot : Path.segments ('.' :: '/' :: rest) = ['.'] :: Path.segments rest := rfl
    have hslash : Path.segments ('/' :: rest) = [] :: Path.segments rest := rfl
    rw [hdot, hslash, List.filter_cons_of_neg (by decide), List.filter_cons_of_neg (by decide)]
  · exact ⟨rfl, by simp⟩

/-- The components of a path decide where it leads to. -/
theorem locate_eq_ok {t : FileTree} {p : Path} {place : Place} (h : t.locate p = .ok place) :
    place = follow (t.origin p.components.1) p.components.2 := by
  unfold locate at h
  split at h
  · cases h
  · split at h
    · cases h
    · unfold Path.components
      split at h
      · cases h
      · next rest htext =>
        rw [htext]
        exact walk_eq_ok h
      · next cs hnil hslash =>
        obtain ⟨hnames, hstart⟩ := filter_segments_splitStart hslash
        rw [walk_eq_ok h, hnames, origin, if_neg hstart]

/-- **Paths with the same components lead to the same place.** -/
theorem locate_eq_ok_of_sameAs {t : FileTree} {p q : Path} {place place' : Place}
    (hp : t.locate p = .ok place) (hq : t.locate q = .ok place') (h : p.sameAs q = true) :
    place = place' := by
  have hcomponents : p.components = q.components := of_decide_eq_true h
  rw [locate_eq_ok hp, locate_eq_ok hq, hcomponents]

theorem walk_eq_ok_of_directories {t t' : FileTree}
    (h : ∀ place, t.entry? place = some .directory → t'.entry? place = some .directory)
    {place place' : Place} {ss : List (List Char)} (hwalk : t.walk place ss = .ok place') :
    t'.walk place ss = .ok place' := by
  induction ss generalizing place with
  | nil => exact hwalk
  | cons s ss ih =>
    unfold walk at hwalk ⊢
    cases hentry : t.entry? place with
    | none => simp [hentry] at hwalk
    | some e =>
      cases e with
      | file contents => simp [hentry] at hwalk
      | directory =>
        simp only [hentry] at hwalk
        simp only [h place hentry]
        split at hwalk
        · next hidle => rw [if_pos hidle, ih hwalk]
        · next hidle =>
          rw [if_neg hidle]
          split at hwalk
          · next hup => rw [if_pos hup, ih hwalk]
          · next hup =>
            rw [if_neg hup]
            split at hwalk
            · cases hwalk
            · next hlong => rw [if_neg hlong, ih hwalk]

/-- **A path that leads to a place still does when there are more directories.** -/
theorem locate_eq_ok_of_directories {t t' : FileTree} (hbase : t'.base = t.base)
    (h : ∀ place, t.entry? place = some .directory → t'.entry? place = some .directory)
    {p : Path} {place : Place} (hlocate : t.locate p = .ok place) : t'.locate p = .ok place := by
  unfold locate at hlocate ⊢
  split at hlocate
  · cases hlocate
  · next hzero =>
    rw [if_neg hzero]
    split at hlocate
    · cases hlocate
    · next hlong =>
      rw [if_neg hlong, hbase]
      split at hlocate
      · cases hlocate
      · exact walk_eq_ok_of_directories h hlocate
      · exact walk_eq_ok_of_directories h hlocate

/-! ## What paths lead to -/

theorem find_eq_ok_iff {t : FileTree} {p : Path} {e : Entry} :
    t.find p = .ok e ↔ ∃ place, t.locate p = .ok place ∧ t.entry? place = some e := by
  unfold find
  cases hlocate : t.locate p with
  | error err => simp [bind, Except.bind]
  | ok place =>
    cases hentry : t.entry? place with
    | none => simp [bind, Except.bind, hentry]
    | some e' => simp [bind, Except.bind, hentry, pure, Except.pure]

theorem isFile_iff {t : FileTree} {p : Path} :
    t.isFile p = true ↔ ∃ contents, t.find p = .ok (.file contents) := by
  unfold isFile
  cases t.find p with
  | error err => simp
  | ok e => cases e <;> simp

theorem exists?_iff {t : FileTree} {p : Path} : t.exists? p = true ↔ ∃ e, t.find p = .ok e := by
  unfold exists?
  cases t.find p <;> simp [Except.toOption]

/-- Text is read from files only. -/
theorem isFile_of_readText {t : FileTree} {p : Path} {s : String} (h : t.readText p = .ok s) :
    t.isFile p = true := by
  unfold readText at h
  split at h
  · next hfind => exact isFile_iff.mpr ⟨_, hfind⟩
  · cases h
  · cases h
  · cases h

/-- What can be seen at a path, if anything. -/
def seen? (t : FileTree) (p : Path) : Option Entry := (t.find p).toOption

theorem seen?_eq_some_iff {t : FileTree} {p : Path} {e : Entry} :
    t.seen? p = some e ↔ t.find p = .ok e := by
  unfold seen?
  cases t.find p <;> simp [Except.toOption]

theorem find_eq_of_seen? {t t' : FileTree} {p : Path} {e : Entry} (h : t'.seen? p = t.seen? p)
    (hfind : t.find p = .ok e) : t'.find p = .ok e := by
  rw [← seen?_eq_some_iff, h, seen?_eq_some_iff, hfind]

theorem isFile_congr {t t' : FileTree} {p : Path} (h : t'.seen? p = t.seen? p) :
    t'.isFile p = t.isFile p := by
  rw [Bool.eq_iff_iff, isFile_iff, isFile_iff]
  constructor
  · rintro ⟨contents, hfind⟩
    exact ⟨contents, find_eq_of_seen? h.symm hfind⟩
  · rintro ⟨contents, hfind⟩
    exact ⟨contents, find_eq_of_seen? h hfind⟩

theorem readText_congr {t t' : FileTree} {p : Path} (h : t'.seen? p = t.seen? p)
    (hfile : t.isFile p = true) : t'.readText p = t.readText p := by
  obtain ⟨contents, hfind⟩ := isFile_iff.mp hfile
  unfold readText
  rw [hfind, find_eq_of_seen? h hfind]

/-! ## Putting a file into a tree -/

theorem entry?_ne_nil {t : FileTree} {place : Place} (h : t.entry? place ≠ some .directory) :
    place ≠ [] := by
  rintro rfl
  exact h rfl

/-- Only the place itself changes. -/
theorem entry?_insert {t : FileTree} {place : Place} (hplace : place ≠ []) (e : Entry)
    (place' : Place) :
    entry? (t.insert place e) place' = if place' = place then some e else t.entry? place' := by
  unfold entry? insert
  by_cases hnil : place' = []
  · rw [hnil, if_neg (Ne.symm hplace)]
    rfl
  · have hempty : ¬ place'.isEmpty = true := by simpa using hnil
    rw [if_neg hempty, if_neg hempty, List.find?_cons]
    by_cases heq : place' = place
    · simp [heq]
    · have hne : ¬ place = place' := Ne.symm heq
      have hfind : (t.entries.filter (·.1 ≠ place)).find? (·.1 = place') =
          t.entries.find? (·.1 = place') := by
        rw [List.find?_filter]
        congr 1
        funext entry
        by_cases hentry : entry.1 = place'
        · simp [hentry, heq]
        · simp [hentry]
      simp only [hne, decide_false, if_neg heq, hfind]

/-- The second tree is the first with a file of this text at one place, where there was no
directory. -/
structure WrittenAt (place : Place) (s : String) (t t' : FileTree) : Prop where
  base : t'.base = t.base
  free : t.entry? place ≠ some .directory
  here : t'.entry? place = some (.file (.text s))
  elsewhere : ∀ other, other ≠ place → t'.entry? other = t.entry? other

theorem writtenAt_insert {t : FileTree} {place : Place} (h : t.entry? place ≠ some .directory)
    (s : String) : WrittenAt place s t (t.insert place (.file (.text s))) := by
  have hentry := entry?_insert (t := t) (entry?_ne_nil h) (.file (.text s))
  refine ⟨rfl, h, ?_, fun other hother => ?_⟩
  · rw [hentry, if_pos rfl]
  · rw [hentry, if_neg hother]

namespace WrittenAt

variable {t t' t'' : FileTree} {place : Place} {s s' : String} {p : Path}

theorem trans (h : WrittenAt place s t t') (h' : WrittenAt place s' t' t'') :
    WrittenAt place s' t t'' where
  base := h'.base.trans h.base
  free := h.free
  here := h'.here
  elsewhere other hother := (h'.elsewhere other hother).trans (h.elsewhere other hother)

/-- **Paths lead to where they led before**, because the directories are the same. -/
theorem locate_iff (h : WrittenAt place s t t') {found : Place} :
    t'.locate p = .ok found ↔ t.locate p = .ok found := by
  have hdirectory (other : Place) :
      t'.entry? other = some .directory ↔ t.entry? other = some .directory := by
    by_cases heq : other = place
    · rw [heq, h.here]
      simp [h.free]
    · rw [h.elsewhere other heq]
  exact ⟨locate_eq_ok_of_directories h.base.symm fun other => (hdirectory other).mp,
    locate_eq_ok_of_directories h.base fun other => (hdirectory other).mpr⟩

theorem find_eq (h : WrittenAt place s t t') (hp : t.locate p = .ok place) :
    t'.find p = .ok (.file (.text s)) :=
  find_eq_ok_iff.mpr ⟨place, h.locate_iff.mpr hp, h.here⟩

theorem readText_eq (h : WrittenAt place s t t') (hp : t.locate p = .ok place) :
    t'.readText p = .ok s := by
  rw [readText, h.find_eq hp]

/-- What a path leads to elsewhere is seen as before. -/
theorem seen?_eq (h : WrittenAt place s t t') (hp : t.locate p ≠ .ok place) :
    t'.seen? p = t.seen? p := by
  ext e
  simp only [seen?_eq_some_iff, find_eq_ok_iff, h.locate_iff]
  refine exists_congr fun found => and_congr_right fun hlocate => ?_
  have hne : found ≠ place := by
    rintro rfl
    exact hp hlocate
  rw [h.elsewhere found hne]

end WrittenAt

/-- What a text that is written leaves behind. -/
theorem writeText_eq_ok {t t' : FileTree} {p : Path} {s : String} (h : t.writeText p s = .ok t') :
    ∃ place, t.locate p = .ok place ∧ WrittenAt place s t t' := by
  unfold writeText at h
  cases hlocate : t.locate p with
  | error err => simp [hlocate, bind, Except.bind] at h
  | ok place =>
    simp only [hlocate, bind, Except.bind] at h
    split at h
    · cases h
    · next hentry =>
      obtain rfl := Except.ok.inj h
      exact ⟨place, rfl, writtenAt_insert (fun heq => hentry heq) s⟩

end FileTree

end SearchQuery
