import SearchQuery.Proofs.Places

/-!
# The directories on the way up

Paths are texts, but they are compared by their components. What a step does to the text it does to
the components too.

* A file in a directory has the components of the directory and its own name (`components_child`), so
  that files of one name are the same file just if their directories are the same
  (`sameAs_child_iff`).
* The parent of a path has one component less (`components_of_parent?`), and so the directories on a
  way up are all different (`Climbs.depth_decreases`, `Climbs.pairwise_sameAs`).
* Every way up comes to an end (`exists_climbs_top`), and it runs through all ancestors
  (`ancestors_of_climbs_top`).
-/

namespace SearchQuery.Path

/-! ## Cutting and joining texts -/

theorem segments_append_slash (cs rest : List Char) :
    segments (cs ++ '/' :: rest) = segments cs ++ segments rest := by
  induction cs with
  | nil => rfl
  | cons c cs ih =>
    obtain ⟨s, ss, hs⟩ := List.exists_cons_of_ne_nil (segments_ne_nil cs)
    rw [List.cons_append, segments, segments, ih, hs]
    split
    · rfl
    · rfl

theorem segments_of_slash_free {cs : List Char} (h : '/' ∉ cs) : segments cs = [cs] := by
  induction cs with
  | nil => rfl
  | cons c cs ih =>
    obtain ⟨hc, hcs⟩ := List.ne_and_not_mem_of_not_mem_cons h
    rw [segments, if_neg (Ne.symm hc), ih hcs]

theorem slash_free_of_mem_segments {cs s : List Char} (h : s ∈ segments cs) : '/' ∉ s := by
  induction cs generalizing s with
  | nil =>
    rw [List.mem_singleton.mp h]
    exact List.not_mem_nil
  | cons c cs ih =>
    obtain ⟨s', ss, hs⟩ := List.exists_cons_of_ne_nil (segments_ne_nil cs)
    rw [segments, hs] at h
    rw [hs] at ih
    split at h
    · rcases List.mem_cons.mp h with rfl | hmem
      · exact List.not_mem_nil
      · exact ih hmem
    · next hc =>
      rcases List.mem_cons.mp h with rfl | hmem
      · exact List.not_mem_cons_of_ne_of_not_mem (Ne.symm hc) (ih (List.mem_cons_self ..))
      · exact ih (List.mem_cons_of_mem s' hmem)

theorem segments_join {ss : List (List Char)} (hne : ss ≠ []) (h : ∀ s ∈ ss, '/' ∉ s) :
    segments (join ss) = ss := by
  induction ss with
  | nil => exact absurd rfl hne
  | cons s ss ih =>
    have hs := h s (List.mem_cons_self ..)
    cases ss with
    | nil => exact segments_of_slash_free hs
    | cons s' ss =>
      have hrest := ih (List.cons_ne_nil s' ss) fun s'' hs'' => h s'' (List.mem_cons_of_mem s hs'')
      rw [join, segments_append_slash, segments_of_slash_free hs, hrest, List.singleton_append]
      exact List.cons_ne_nil s' ss

theorem join_append {ss ss' : List (List Char)} (hne : ss ≠ []) (hne' : ss' ≠ []) :
    join (ss ++ ss') = join ss ++ '/' :: join ss' := by
  induction ss with
  | nil => exact absurd rfl hne
  | cons s ss ih =>
    cases ss with
    | nil =>
      rw [List.singleton_append, join, join]
      exact hne'
    | cons s' ss =>
      have hrest := ih (List.cons_ne_nil s' ss)
      change s ++ '/' :: join (s' :: ss ++ ss') = (s ++ '/' :: join (s' :: ss)) ++ '/' :: join ss'
      rw [hrest, List.append_assoc, List.cons_append]

theorem splitStart_append_slash {cs : List Char} (h : cs ≠ []) (rest : List Char) :
    splitStart (cs ++ '/' :: rest) = ((splitStart cs).1, (splitStart cs).2 ++ '/' :: rest) := by
  cases cs with
  | nil => exact absurd rfl h
  | cons c cs =>
    by_cases hslash : c = '/'
    · rw [hslash]
      rfl
    · by_cases hdot : c = '.'
      · rw [hdot]
        cases cs with
        | nil => rfl
        | cons c' cs =>
          by_cases hslash' : c' = '/'
          · rw [hslash']
            rfl
          · simp [splitStart, hslash']
      · simp [splitStart, hslash, hdot]

theorem splitStart_of_slash_free {cs : List Char} (hslash : '/' ∉ cs) (hidle : isIdle cs = false) :
    splitStart cs = ([], cs) := by
  unfold splitStart
  split
  · simp at hslash
  · cases hidle
  · simp at hslash
  · rfl

theorem splitStart_start (cs : List Char) :
    splitStart (splitStart cs).1 = ((splitStart cs).1, []) := by
  fun_cases splitStart cs <;> rfl

/-- A text that is cut at a slash keeps its beginning. -/
theorem splitStart_of_cut {cs b rest : List Char} (h : (splitStart cs).2 = b ++ '/' :: rest) :
    splitStart ((splitStart cs).1 ++ b) = ((splitStart cs).1, b) := by
  by_cases hnil : (splitStart cs).1 ++ b = []
  · obtain ⟨hstart, hb⟩ := List.append_eq_nil_iff.mp hnil
    rw [hstart, hb]
    rfl
  · have hcs : (splitStart cs).1 ++ b ++ '/' :: rest = cs := by
      rw [List.append_assoc, ← h, splitStart_append]
    have hcut := splitStart_append_slash hnil rest
    rw [hcs] at hcut
    have hstart := congrArg Prod.fst hcut
    have hbody := congrArg Prod.snd hcut
    simp only at hstart hbody
    rw [h] at hbody
    exact Prod.ext hstart.symm (List.append_cancel_right hbody).symm

/-! ## Components -/

/-- The names among segments. -/
def names (ss : List (List Char)) : List (List Char) := ss.filter (!isIdle ·)

theorem names_append (ss ss' : List (List Char)) : names (ss ++ ss') = names ss ++ names ss' :=
  List.filter_append ..

theorem names_concat (ss : List (List Char)) {s : List Char} (h : isIdle s = false) :
    names (ss ++ [s]) = names ss ++ [s] := by
  rw [names_append, names, names, List.filter_cons_of_pos (by simp [h]), List.filter_nil]

theorem names_segments_join {ss : List (List Char)} (h : ∀ s ∈ ss, '/' ∉ s) :
    names (segments (join ss)) = names ss := by
  by_cases hnil : ss = []
  · rw [hnil]
    rfl
  · rw [segments_join hnil h]

/-- What is trimmed off the end is no name. -/
theorem exists_trimEnd_append (ss : List (List Char)) :
    ∃ idle, ss = trimEnd ss ++ idle ∧ names idle = [] := by
  refine ⟨ss.rtakeWhile isIdle, (List.rdropWhile_append_rtakeWhile ..).symm, ?_⟩
  refine List.filter_eq_nil_iff.mpr fun s hs => ?_
  have hidle := List.mem_rtakeWhile_imp hs
  simp [hidle]

/-- The last segment after trimming is a name, if there is one. -/
theorem trimEnd_eq_nil_or (ss : List (List Char)) :
    trimEnd ss = [] ∨ ∃ front s, trimEnd ss = front ++ [s] ∧ isIdle s = false := by
  by_cases hnil : ss.rdropWhile isIdle = []
  · exact .inl hnil
  · refine .inr ⟨_, _, (List.dropLast_append_getLast hnil).symm, ?_⟩
    exact Bool.eq_false_iff.mpr (List.rdropWhile_last_not isIdle ss hnil)

/-- What a text is compared by when it is a path. -/
def componentsOf (cs : List Char) : List Char × List (List Char) :=
  ((splitStart cs).1, names (segments (splitStart cs).2))

theorem components_eq (p : Path) : p.components = componentsOf p.text.toList := rfl

theorem componentsOf_append_slash {cs : List Char} (h : cs ≠ []) (rest : List Char) :
    componentsOf (cs ++ '/' :: rest) =
      ((componentsOf cs).1, (componentsOf cs).2 ++ names (segments rest)) := by
  rw [componentsOf, splitStart_append_slash h, componentsOf, segments_append_slash, names_append]

/-! ## Files in a directory -/

/-- **A file in a directory has one component more than the directory**, its own name. -/
theorem components_child {name : String} (hslash : '/' ∉ name.toList)
    (hidle : isIdle name.toList = false) (p : Path) :
    (p.child name).components = (p.components.1, p.components.2 ++ [name.toList]) := by
  have hname : names (segments name.toList) = [name.toList] := by
    rw [segments_of_slash_free hslash]
    exact names_concat [] hidle
  rw [components_eq, components_eq, child]
  split
  · next hempty =>
    rw [String.isEmpty_iff.mp hempty, componentsOf, splitStart_of_slash_free hslash hidle, hname]
    rfl
  · next hne =>
    have hchars : p.text.toList ≠ [] := by simpa [String.isEmpty_iff] using hne
    split
    · next hends =>
      rw [← String.endsWith_toSlice, String.Slice.endsWith_string_iff, String.copy_toSlice] at hends
      obtain ⟨dir, hdir⟩ := hends
      change dir ++ ['/'] = p.text.toList at hdir
      rw [String.toList_append, ← hdir, List.append_assoc, List.singleton_append]
      by_cases hdirNil : dir = []
      · rw [hdirNil, List.nil_append, List.nil_append, componentsOf, componentsOf]
        change (['/'], names (segments name.toList)) = _
        rw [hname]
        rfl
      · rw [componentsOf_append_slash hdirNil, componentsOf_append_slash hdirNil, hname,
          List.append_assoc]
        rfl
    · rw [String.toList_append, String.toList_append, List.append_assoc]
      change componentsOf (p.text.toList ++ '/' :: name.toList) = _
      rw [componentsOf_append_slash hchars, hname]

/-- Files of one name are the same just if their directories are. -/
theorem sameAs_child_iff {name : String} (hslash : '/' ∉ name.toList)
    (hidle : isIdle name.toList = false) {p q : Path} :
    (p.child name).sameAs (q.child name) = true ↔ p.sameAs q = true := by
  unfold sameAs
  rw [decide_eq_true_iff, decide_eq_true_iff, components_child hslash hidle,
    components_child hslash hidle, Prod.ext_iff, Prod.ext_iff]
  simp only [List.append_cancel_right_eq]

/-! ## Steps up -/

/-- What a step up does to a text: it leaves a single dot away, or it cuts the text before its last
name. -/
theorem parent?_cases {p q : Path} (h : p.parent? = some q) :
    ((splitStart p.text.toList).1 = ['.'] ∧ names (segments (splitStart p.text.toList).2) = [] ∧
      q.text = "") ∨
    ∃ front back s, segments (splitStart p.text.toList).2 = front ++ back ∧ back ≠ [] ∧
      names back = [s] ∧ q.text.toList = (splitStart p.text.toList).1 ++ join front := by
  obtain ⟨idle, hidle, hnames⟩ := exists_trimEnd_append (segments (splitStart p.text.toList).2)
  unfold parent? at h
  simp only at h
  rcases trimEnd_eq_nil_or (segments (splitStart p.text.toList).2) with hnil | ⟨ss, s, hss, hs⟩
  · rw [hnil] at h hidle
    simp only at h
    split at h
    · next hdot =>
      obtain rfl := Option.some.inj h
      exact .inl ⟨hdot, by rw [hidle, List.nil_append, hnames], rfl⟩
    · cases h
  · obtain ⟨idle', hidle', hnames'⟩ := exists_trimEnd_append ss
    rw [hss] at h hidle
    split at h
    · next hnil => exact absurd hnil (List.append_ne_nil_of_right_ne_nil ss (List.cons_ne_nil s []))
    · obtain rfl := Option.some.inj h
      rw [List.dropLast_concat]
      refine .inr ⟨trimEnd ss, idle' ++ [s] ++ idle, s, ?_, by simp, ?_, String.toList_ofList⟩
      · rw [← List.append_assoc, ← List.append_assoc, ← hidle', hidle]
      · rw [names_append, names_concat _ hs, hnames, hnames']
        rfl

/-- **The parent has one component less**: the last name, or a single dot if that is all. -/
theorem components_of_parent? {p q : Path} (h : p.parent? = some q) :
    (∃ s, p.components = (q.components.1, q.components.2 ++ [s])) ∨
      p.components = (['.'], []) ∧ q.components = ([], []) := by
  rcases parent?_cases h with ⟨hdot, hnames, hq⟩ | ⟨front, back, s, hbody, hback, hs, hq⟩
  · refine .inr ⟨Prod.ext hdot hnames, ?_⟩
    rw [components_eq, hq]
    rfl
  · have hfree : ∀ s ∈ front, '/' ∉ s := by
      intro s hs
      have hmem : s ∈ segments (splitStart p.text.toList).2 := by
        rw [hbody]
        exact List.mem_append_left _ hs
      exact slash_free_of_mem_segments hmem
    have hstart : splitStart q.text.toList = ((splitStart p.text.toList).1, join front) := by
      rw [hq]
      by_cases hfront : front = []
      · rw [hfront, join, List.append_nil, splitStart_start]
      · have hcut : (splitStart p.text.toList).2 = join front ++ '/' :: join back := by
          rw [← join_segments (splitStart p.text.toList).2, hbody, join_append hfront hback]
        exact splitStart_of_cut hcut
    refine .inl ⟨s, ?_⟩
    rw [components_eq, components_eq, componentsOf, componentsOf, hstart, hbody, names_append, hs,
      names_segments_join hfree]

/-- How many steps up there are at most. -/
def depth (p : Path) : Nat := p.components.2.length + if p.components.1 = ['.'] then 1 else 0

theorem depth_parent?_lt {p q : Path} (h : p.parent? = some q) : q.depth < p.depth := by
  rcases components_of_parent? h with ⟨s, hp⟩ | ⟨hp, hq⟩
  · rw [depth, depth, hp]
    simp only [List.length_append, List.length_singleton]
    omega
  · rw [depth, depth, hp, hq]
    decide

namespace Climbs

variable {p q : Path} {below : List Path}

theorem depth_le (h : p.Climbs below q) : ∀ d ∈ below ++ [q], d.depth ≤ p.depth := by
  induction h with
  | here p =>
    intro d hd
    rw [List.mem_singleton.mp hd]
  | up hparent h ih =>
    intro d hd
    rcases List.mem_cons.mp hd with rfl | hmem
    · exact Nat.le_refl _
    · exact Nat.le_trans (ih d hmem) (Nat.le_of_lt (depth_parent?_lt hparent))

/-- On the way up, the directories have fewer and fewer components. -/
theorem depth_decreases (h : p.Climbs below q) :
    (below ++ [q]).Pairwise fun d d' => d'.depth < d.depth := by
  induction h with
  | here p => exact List.pairwise_singleton ..
  | up hparent h ih =>
    refine List.pairwise_cons.mpr ⟨fun d hd => ?_, ih⟩
    exact Nat.lt_of_le_of_lt (h.depth_le d hd) (depth_parent?_lt hparent)

/-- **The directories on the way up are all different.** -/
theorem pairwise_sameAs (h : p.Climbs below q) :
    (below ++ [q]).Pairwise fun d d' => d.sameAs d' = false := by
  refine h.depth_decreases.imp fun {d d'} hlt => ?_
  refine decide_eq_false fun hsame => ?_
  rw [depth, depth, hsame] at hlt
  exact Nat.lt_irrefl _ hlt

/-- On the way up, one place is the first with a property, or none has it. -/
theorem first (h : p.Climbs below q) (P : Path → Prop) :
    (∃ front d, p.Climbs front d ∧ (∀ d' ∈ front, ¬ P d') ∧ P d) ∨ ∀ d ∈ below ++ [q], ¬ P d := by
  induction h with
  | here p =>
    by_cases hp : P p
    · exact .inl ⟨[], p, .here p, by simp, hp⟩
    · exact .inr (by simpa using hp)
  | @up p _ _ _ hparent h ih =>
    by_cases hp : P p
    · exact .inl ⟨[], p, .here p, by simp, hp⟩
    · rcases ih with ⟨front, d, hclimbs, hfront, hd⟩ | hnone
      · exact .inl ⟨p :: front, d, .up hparent hclimbs, List.forall_mem_cons.mpr ⟨hp, hfront⟩, hd⟩
      · exact .inr (List.forall_mem_cons.mpr ⟨hp, hnone⟩)

end Climbs

/-! ## The end of the way -/

/-- From every path one comes to one without a parent. -/
theorem exists_climbs_top (p : Path) : ∃ below top, p.Climbs below top ∧ top.parent? = none := by
  induction hdepth : p.depth using Nat.strong_induction_on generalizing p with
  | _ n ih =>
    cases hparent : p.parent? with
    | none => exact ⟨[], p, .here p, hparent⟩
    | some q =>
      have hlt : q.depth < n := hdepth ▸ depth_parent?_lt hparent
      obtain ⟨below, top, hclimbs, htop⟩ := ih q.depth hlt q rfl
      exact ⟨p :: below, top, .up hparent hclimbs, htop⟩

theorem ancestors_of_climbs_top {p top : Path} {below : List Path} (h : p.Climbs below top)
    (htop : top.parent? = none) : p.ancestors = below ++ [top] := by
  rw [ancestors_of_climbs h, ancestors, ancestorsWithin, htop]

end SearchQuery.Path
