import SearchQuery.Proofs.PatternReading

/-!
# The numbers of groups

The reader counts the groups that it opens, and no group in what it has read has a higher number
(`Reader.Reads.counted`). So an expression without groups that capture is one for which the reader
has counted none (`Reader.Reads.groupCount_le`).
-/

namespace SearchQuery.Pattern

variable {n : Nat}

/-! ## Patterns made of patterns -/

theorem groupCount_le_of_mem_factors {p : Pattern} (h : p.groupCount ≤ n) :
    ∀ f ∈ p.factors, f.groupCount ≤ n := by
  induction p with
  | empty => simp [factors]
  | seq p q _ ihq =>
    obtain ⟨hp, hq⟩ := Nat.max_le.mp h
    exact List.forall_mem_cons.mpr ⟨hp, ihq hq⟩
  | one s | anchor a | alt p q | repeated min max greedy p | group i p =>
    exact List.forall_mem_singleton.mpr h

theorem groupCount_ofFactors_le {fs : List Pattern} (h : ∀ f ∈ fs, f.groupCount ≤ n) :
    (ofFactors fs).groupCount ≤ n := by
  fun_induction ofFactors fs with
  | case1 => exact Nat.zero_le _
  | case2 p => exact h p (List.mem_cons_self ..)
  | case3 p ps _ ih =>
    obtain ⟨hp, hps⟩ := List.forall_mem_cons.mp h
    exact Nat.max_le.mpr ⟨hp, ih hps⟩

theorem groupCount_sequence_le {ps : List Pattern} (h : ∀ p ∈ ps, p.groupCount ≤ n) :
    (sequence ps).groupCount ≤ n := by
  refine groupCount_ofFactors_le fun f hf => ?_
  obtain ⟨p, hp, hf⟩ := List.mem_flatMap.mp hf
  exact groupCount_le_of_mem_factors (h p hp) f hf

theorem groupCount_le_of_mem_branches {p : Pattern} (h : p.groupCount ≤ n) :
    ∀ b ∈ p.branches, b.groupCount ≤ n := by
  induction p with
  | alt p q _ ihq =>
    obtain ⟨hp, hq⟩ := Nat.max_le.mp h
    exact List.forall_mem_cons.mpr ⟨hp, ihq hq⟩
  | empty | one s | anchor a | seq p q | repeated min max greedy p | group i p =>
    exact List.forall_mem_singleton.mpr h

theorem groupCount_ofBranches_le {ps : List Pattern} (h : ∀ p ∈ ps, p.groupCount ≤ n) :
    (ofBranches ps).groupCount ≤ n := by
  fun_induction ofBranches ps with
  | case1 => exact Nat.zero_le _
  | case2 p => exact h p (List.mem_cons_self ..)
  | case3 p ps _ ih =>
    obtain ⟨hp, hps⟩ := List.forall_mem_cons.mp h
    exact Nat.max_le.mpr ⟨hp, ih hps⟩

theorem groupCount_splitCommonStart?_le {ps common rests : List Pattern}
    (hps : ∀ p ∈ ps, p.groupCount ≤ n) (h : splitCommonStart? ps = some (common, rests)) :
    (∀ p ∈ common, p.groupCount ≤ n) ∧ ∀ p ∈ rests, p.groupCount ≤ n := by
  unfold splitCommonStart? at h
  split at h
  · cases h
  · next us rest heq =>
    have hunits {vs : List (List Pattern)} (hvs : vs ∈ us :: rest) {u : List Pattern}
        (hu : u ∈ vs) : ∀ f ∈ u, f.groupCount ≤ n := by
      obtain ⟨p, hp, rfl⟩ := List.mem_map.mp (heq ▸ hvs)
      exact fun f hf => groupCount_le_of_mem_factors (hps p hp) f (mem_factors_of_mem_units hu hf)
    split at h
    · cases h
    · split at h
      · cases h
      · obtain ⟨rfl, rfl⟩ := Prod.mk.inj (Option.some.inj h)
        refine ⟨fun f hf => ?_, fun p hp => ?_⟩
        · obtain ⟨u, hu, hf⟩ := List.mem_flatten.mp hf
          exact hunits (List.mem_cons_self ..) (mem_of_mem_foldl_commonStart hu) f hf
        · obtain ⟨vs, hvs, rfl⟩ := List.mem_map.mp hp
          refine groupCount_ofFactors_le fun f hf => ?_
          obtain ⟨u, hu, hf⟩ := List.mem_flatten.mp hf
          exact hunits hvs (List.mem_of_mem_drop hu) f hf

theorem groupCount_choiceWithin_le {fuel : Nat} {ps : List Pattern}
    (h : ∀ p ∈ ps, p.groupCount ≤ n) : (choiceWithin fuel ps).groupCount ≤ n := by
  have hbranches {ps : List Pattern} (h : ∀ p ∈ ps, p.groupCount ≤ n) :
      ∀ b ∈ ps.flatMap branches, b.groupCount ≤ n := by
    intro b hb
    obtain ⟨p, hp, hb⟩ := List.mem_flatMap.mp hb
    exact groupCount_le_of_mem_branches (h p hp) b hb
  induction fuel generalizing ps with
  | zero => exact groupCount_ofBranches_le (hbranches h)
  | succ fuel ih =>
    have hps := hbranches h
    unfold choiceWithin
    split
    · exact Nat.zero_le _
    · next p heq => exact hps p (heq ▸ List.mem_cons_self ..)
    · split
      · exact Nat.zero_le _
      · split
        · next common rests hsplit =>
          obtain ⟨hcommon, hrests⟩ := groupCount_splitCommonStart?_le hps hsplit
          refine groupCount_sequence_le fun p hp => ?_
          rcases List.mem_append.mp hp with hp | hp
          · exact hcommon p hp
          · obtain rfl := List.mem_singleton.mp hp
            exact ih hrests
        · exact groupCount_ofBranches_le hps

theorem groupCount_repetition_le {p : Pattern} (h : p.groupCount ≤ n) (min : Nat)
    (max : Option Nat) (greedy : Bool) : (repetition min max greedy p).groupCount ≤ n := by
  unfold repetition
  dsimp only
  split
  · exact Nat.zero_le _
  · exact h
  · exact h

/-! ## What the reader has read -/

/-- No group in the pieces has a number over `n`. -/
def AllWithin (n : Nat) (ps : List Piece) : Prop := ∀ p ∈ ps, p.pattern.groupCount ≤ n

theorem AllWithin.mono {m : Nat} (hle : m ≤ n) {ps : List Piece} (h : AllWithin m ps) :
    AllWithin n ps := fun p hp => (h p hp).trans hle

namespace Piece

theorem groupCount_sequence_le {ps : List Piece} (h : AllWithin n ps) :
    (Piece.sequence ps).pattern.groupCount ≤ n := by
  unfold Piece.sequence
  split
  · exact Nat.zero_le _
  · exact h _ (List.mem_cons_self ..)
  · refine Pattern.groupCount_sequence_le fun p hp => ?_
    obtain ⟨piece, hpiece, rfl⟩ := List.mem_map.mp hp
    exact h piece hpiece

theorem groupCount_choice_le {ps : List Piece} (h : AllWithin n ps) :
    (Piece.choice ps).pattern.groupCount ≤ n := by
  unfold Piece.choice
  split
  · exact h _ (List.mem_cons_self ..)
  · refine groupCount_choiceWithin_le fun p hp => ?_
    obtain ⟨piece, hpiece, rfl⟩ := List.mem_map.mp hp
    exact h piece hpiece

end Piece

/-- A move that opens no way out of a group, with pieces in which there are no groups. -/
def Move.Plain : Move → Prop
  | .push p => p.pattern.groupCount = 0
  | .closeGroup => False
  | _ => True

namespace Move

theorem plain_ofAtom? {f : Flags} {a : Atom} {m : Move} (h : ofAtom? f a = some m) : m.Plain := by
  cases a with
  | literal c byte =>
    simp only [ofAtom?] at h
    split at h
    · cases h
    · obtain rfl := Option.some.inj h
      rfl
  | set s | anchor a =>
    obtain rfl := Option.some.inj h
    rfl

theorem plain_readOpening? {cs rest : List Char} {m : Move} (h : readOpening? cs = some (m, rest)) :
    m.Plain := by
  have hnamed {cs : List Char} (h : readNamed? cs = some (m, rest)) : m.Plain := by
    obtain ⟨x, -, hpure⟩ := Option.map_eq_some_iff.mp h
    obtain ⟨rfl, -⟩ := Prod.mk.inj hpure
    trivial
  unfold readOpening? at h
  split at h
  case h_1 | h_2 | h_3 | h_4 => cases h
  case h_5 | h_6 => exact hnamed h
  case h_7 =>
    unfold readFlags? at h
    simp only [Option.bind_eq_bind, Option.bind_eq_some_iff] at h
    obtain ⟨x, -, h⟩ := h
    split at h
    · obtain ⟨rfl, -⟩ := Prod.mk.inj (Option.some.inj h)
      trivial
    · split at h
      · cases h
      · obtain ⟨rfl, -⟩ := Prod.mk.inj (Option.some.inj h)
        trivial
  case h_8 =>
    obtain ⟨rfl, -⟩ := Prod.mk.inj (Option.some.inj h)
    trivial

/-- **Only a parenthesis closes a group**, and what is read as one piece has no groups in it. -/
theorem plain_read? {f : Flags} {c : Char} {cs rest : List Char} {m : Move} (hc : c ≠ ')')
    (h : read? f c cs = some (m, rest)) : m.Plain := by
  unfold read? at h
  split at h
  case h_1 => exact plain_readOpening? h
  case h_2 => exact absurd rfl hc
  case h_4 =>
    obtain ⟨x, -, hpure⟩ := Option.map_eq_some_iff.mp h
    obtain ⟨rfl, -⟩ := Prod.mk.inj hpure
    rfl
  case h_8 =>
    obtain ⟨x, -, hpure⟩ := Option.map_eq_some_iff.mp h
    obtain ⟨rfl, -⟩ := Prod.mk.inj hpure
    trivial
  case h_9 =>
    simp only [Option.bind_eq_bind, Option.bind_eq_some_iff] at h
    obtain ⟨x, -, h⟩ := h
    obtain ⟨m', hatom, hpure⟩ := Option.map_eq_some_iff.mp h
    obtain ⟨rfl, -⟩ := Prod.mk.inj hpure
    exact plain_ofAtom? hatom
  case h_10 =>
    split at h
    · obtain ⟨rfl, -⟩ := Prod.mk.inj (Option.some.inj h)
      trivial
    · cases h
  case h_13 =>
    obtain ⟨m', hatom, hpure⟩ := Option.map_eq_some_iff.mp h
    obtain ⟨rfl, -⟩ := Prod.mk.inj hpure
    exact plain_ofAtom? hatom
  case h_11 | h_12 =>
    obtain ⟨rfl, -⟩ := Prod.mk.inj (Option.some.inj h)
    rfl
  all_goals
    obtain ⟨rfl, -⟩ := Prod.mk.inj (Option.some.inj h)
    trivial

end Move

namespace Reader

/-- No group that has been read or is open has a number over `n`. -/
structure Within (n : Nat) (r : Reader) : Prop where
  items : AllWithin n r.items
  branches : AllWithin n r.branches
  outer : ∀ frame ∈ r.outer, (∀ i ∈ frame.index, i ≤ n) ∧ AllWithin n frame.items ∧
    AllWithin n frame.branches

/-- The groups have been counted. -/
def Counted (r : Reader) : Prop := r.Within r.groups

theorem counted_initial (flags : Flags) : Counted { initial with flags := flags } where
  items _ hp := nomatch hp
  branches _ hp := nomatch hp
  outer _ hf := nomatch hf

theorem Within.mono {m : Nat} (hle : m ≤ n) {r : Reader} (h : r.Within m) : r.Within n where
  items := h.items.mono hle
  branches := h.branches.mono hle
  outer frame hf := by
    obtain ⟨hindex, hitems, hbranches⟩ := h.outer frame hf
    exact ⟨fun i hi => (hindex i hi).trans hle, hitems.mono hle, hbranches.mono hle⟩

theorem within_branches {items branches : List Piece} (hi : AllWithin n items)
    (hb : AllWithin n branches) : AllWithin n (Piece.sequence items.reverse :: branches) := by
  refine List.forall_mem_cons.mpr ⟨Piece.groupCount_sequence_le fun p hp => ?_, hb⟩
  exact hi p (List.mem_reverse.mp hp)

theorem Within.inner {r : Reader} (h : r.Within n) : r.inner.pattern.groupCount ≤ n :=
  Piece.groupCount_choice_le fun p hp =>
    within_branches h.items h.branches p (List.mem_reverse.mp hp)

theorem Within.openGroup {r : Reader} (h : r.Within n) {index : Option Nat}
    (hindex : ∀ i ∈ index, i ≤ n) (flags : Flags) : (r.openGroup index flags).Within n where
  items _ hp := nomatch hp
  branches _ hp := nomatch hp
  outer := List.forall_mem_cons.mpr ⟨⟨hindex, h.items, h.branches⟩, h.outer⟩

/-- A move counts the group that it opens. -/
theorem Counted.make? {r r' : Reader} (h : r.Counted) {m : Move}
    (hm : ∀ p, m = .push p → p.pattern.groupCount = 0) (hmake : r.make? m = some r') :
    r'.Counted := by
  have hpush {p : Piece} (hp : p.pattern.groupCount = 0) : AllWithin r.groups (p :: r.items) :=
    List.forall_mem_cons.mpr ⟨hp.trans_le (Nat.zero_le _), h.items⟩
  cases m with
  | push p =>
    obtain rfl := Option.some.inj hmake
    exact ⟨hpush (hm p rfl), h.branches, h.outer⟩
  | dot =>
    obtain rfl := Option.some.inj hmake
    exact ⟨hpush rfl, h.branches, h.outer⟩
  | set changes =>
    obtain rfl := Option.some.inj hmake
    exact ⟨hpush (p := ⟨.empty, 0, true⟩) rfl, h.branches, h.outer⟩
  | openGroup changes =>
    obtain rfl := Option.some.inj hmake
    exact Within.openGroup h (by simp) _
  | openCapture name =>
    obtain ⟨-, rfl⟩ := make?_openCapture.mp hmake
    have hindex : ∀ i ∈ some (r.groups + 1), i ≤ r.groups + 1 := by simp
    have hopen := Within.openGroup (h.mono (Nat.le_succ r.groups)) hindex r.flags
    exact ⟨hopen.items, hopen.branches, hopen.outer⟩
  | closeGroup =>
    obtain ⟨frame, outer, heq, rfl⟩ := closeGroup?_eq_some.mp hmake
    have hinner := Within.inner h
    obtain ⟨⟨hindex, hitems, hbranches⟩, houter⟩ := List.forall_mem_cons.mp (heq ▸ h.outer)
    refine ⟨List.forall_mem_cons.mpr ⟨?_, hitems⟩, hbranches, houter⟩
    cases hi : frame.index with
    | none => exact hinner
    | some i => exact Nat.max_le.mpr ⟨hindex i hi, hinner⟩
  | branch =>
    obtain rfl := Option.some.inj hmake
    exact ⟨fun _ hp => absurd hp List.not_mem_nil, within_branches h.items h.branches, h.outer⟩
  | repeatLast min max greedy =>
    obtain ⟨p, items, heq, -, rfl⟩ := repeatLast?_eq_some.mp hmake
    have hitems := h.items
    rw [heq] at hitems
    obtain ⟨hp, hitems⟩ := List.forall_mem_cons.mp hitems
    exact ⟨List.forall_mem_cons.mpr ⟨groupCount_repetition_le hp _ _ _, hitems⟩, h.branches,
      h.outer⟩

theorem Reads.counted {r r' : Reader} {cs : List Char} (h : Reads r cs r') (hr : r.Counted) :
    r'.Counted := by
  induction h with
  | done => exact hr
  | @next r r₁ r' cs more rest c _ hnext _ ih =>
    obtain ⟨m, hread, hmake⟩ := readNext?_eq_some.mp hnext
    refine ih (hr.make? (fun p hp => ?_) hmake)
    by_cases hc : c = ')'
    · subst hc
      obtain ⟨rfl, -⟩ := Prod.mk.inj (Option.some.inj hread)
      cases hp
    · subst hp
      exact Move.plain_read? hc hread

/-- **No group has a number that has not been counted.** -/
theorem Reads.groupCount_le {flags : Flags} {r : Reader} {cs : List Char}
    (h : Reads { initial with flags := flags } cs r) : r.inner.pattern.groupCount ≤ r.groups :=
  Within.inner (h.counted (counted_initial flags))

end Reader

end SearchQuery.Pattern
