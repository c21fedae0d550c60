import Mathlib.Data.List.SplitBy
import SearchQuery.Proofs.SearchEnds

/-!
# The normal form of patterns

`Pattern.sequence`, `Pattern.choice` and `Pattern.repetition` keep patterns in a normal form
(`normal_sequence`, `normal_choice`, `normal_repetition`): no part of a sequence is empty, and the
bounds of a repetition are in order. So a pattern in normal form is the sequence of its parts
(`ofFactors_factors`), also behind another part (`ofFactors_cons_factors`).
-/

namespace SearchQuery.Pattern

/-- No part of a sequence is empty, and the bounds of repetitions are in order. -/
def Normal : Pattern → Prop
  | empty | one _ | anchor _ => True
  | seq p q => (p ≠ empty ∧ p.Normal) ∧ q ≠ empty ∧ q.Normal
  | alt p q => p.Normal ∧ q.Normal
  | repeated min max _ p => (∀ m ∈ max, min ≤ m) ∧ p.Normal
  | group _ p => p.Normal

theorem Normal.ordered {p : Pattern} (h : p.Normal) : p.Ordered := by
  induction p with
  | empty | one s | anchor a => trivial
  | seq p q ihp ihq => exact ⟨ihp h.1.2, ihq h.2.2⟩
  | alt p q ihp ihq => exact ⟨ihp h.1, ihq h.2⟩
  | repeated min max greedy p ih => exact ⟨h.1, ih h.2⟩
  | group i p ih => exact ih h

/-! ## Sequences -/

theorem factors_eq_nil_iff {p : Pattern} : p.factors = [] ↔ p = empty := by
  cases p <;> simp [factors]

theorem ofFactors_cons {p : Pattern} {fs : List Pattern} (h : fs ≠ []) :
    ofFactors (p :: fs) = seq p (ofFactors fs) := by
  rw [ofFactors]
  exact h

/-- **A pattern in normal form is the sequence of its parts.** -/
theorem ofFactors_factors {p : Pattern} (h : p.Normal) : ofFactors p.factors = p := by
  induction p with
  | seq p q _ ihq =>
    obtain ⟨-, hne, hq⟩ := h
    rw [factors, ofFactors_cons (mt factors_eq_nil_iff.mp hne), ihq hq]
  | empty | one s | anchor a | alt p q | repeated min max greedy p | group i p => rfl

theorem ofFactors_cons_factors (p : Pattern) {q : Pattern} (hq : q.Normal) (hne : q ≠ empty) :
    ofFactors (p :: q.factors) = seq p q := by
  rw [ofFactors_cons (mt factors_eq_nil_iff.mp hne), ofFactors_factors hq]

theorem normal_of_mem_factors {p : Pattern} (h : p.Normal) :
    ∀ f ∈ p.factors, f ≠ empty ∧ f.Normal := by
  induction p with
  | empty => simp [factors]
  | seq p q _ ihq => exact List.forall_mem_cons.mpr ⟨h.1, ihq h.2.2⟩
  | one s | anchor a | alt p q | repeated min max greedy p | group i p =>
    exact List.forall_mem_singleton.mpr ⟨by simp, h⟩

theorem normal_ofFactors {fs : List Pattern} (h : ∀ f ∈ fs, f ≠ empty ∧ f.Normal) :
    (ofFactors fs).Normal ∧ (fs ≠ [] → ofFactors fs ≠ empty) := by
  fun_induction ofFactors fs with
  | case1 => exact ⟨trivial, fun hne => absurd rfl hne⟩
  | case2 p => exact ⟨(h p (List.mem_cons_self ..)).2, fun _ => (h p (List.mem_cons_self ..)).1⟩
  | case3 p ps hne ih =>
    obtain ⟨hp, hps⟩ := List.forall_mem_cons.mp h
    obtain ⟨hnormal, hempty⟩ := ih hps
    exact ⟨⟨hp, hempty (fun h => hne h), hnormal⟩, fun _ => by simp⟩

theorem normal_sequence {ps : List Pattern} (h : ∀ p ∈ ps, p.Normal) : (sequence ps).Normal := by
  refine (normal_ofFactors fun f hf => ?_).1
  obtain ⟨p, hp, hf⟩ := List.mem_flatMap.mp hf
  exact normal_of_mem_factors (h p hp) f hf

/-! ## Choices -/

theorem normal_of_mem_branches {p : Pattern} (h : p.Normal) : ∀ b ∈ p.branches, b.Normal := by
  induction p with
  | alt p q _ ihq => exact List.forall_mem_cons.mpr ⟨h.1, ihq h.2⟩
  | empty | one s | anchor a | seq p q | repeated min max greedy p | group i p =>
    exact List.forall_mem_singleton.mpr h

theorem normal_ofBranches {ps : List Pattern} (h : ∀ p ∈ ps, p.Normal) :
    (ofBranches ps).Normal := by
  fun_induction ofBranches ps with
  | case1 => trivial
  | case2 p => exact h p (List.mem_cons_self ..)
  | case3 p ps hne ih =>
    obtain ⟨hp, hps⟩ := List.forall_mem_cons.mp h
    exact ⟨hp, ih hps⟩

theorem mem_of_mem_commonStart {us vs : List (List Pattern)} {u : List Pattern}
    (h : u ∈ commonStart us vs) : u ∈ us := by
  fun_induction commonStart us vs with
  | case1 u' us v vs heq ih =>
    rcases List.mem_cons.mp h with rfl | h
    · exact List.mem_cons_self ..
    · exact List.mem_cons_of_mem _ (ih h)
  | case2 => cases h
  | case3 => cases h

theorem mem_of_mem_foldl_commonStart {us : List (List Pattern)} {vss : List (List (List Pattern))}
    {u : List Pattern} (h : u ∈ vss.foldl commonStart us) : u ∈ us := by
  induction vss generalizing us with
  | nil => exact h
  | cons vs vss ih => exact mem_of_mem_commonStart (ih h)

theorem mem_factors_of_mem_units {p f : Pattern} {u : List Pattern} (hu : u ∈ p.units)
    (hf : f ∈ u) : f ∈ p.factors := by
  have hflatten : p.units.flatten = p.factors := List.flatten_splitBy ..
  rw [← hflatten]
  exact List.mem_flatten_of_mem hu hf

/-- What is split off branches in normal form, and what is left of them, is made of their parts. -/
theorem normal_splitCommonStart? {ps common rests : List Pattern} (hps : ∀ p ∈ ps, p.Normal)
    (h : splitCommonStart? ps = some (common, rests)) :
    (∀ p ∈ common, p.Normal) ∧ ∀ p ∈ rests, p.Normal := by
  unfold splitCommonStart? at h
  split at h
  · cases h
  · next us rest heq =>
    have hunits {vs : List (List Pattern)} (hvs : vs ∈ us :: rest) {u : List Pattern}
        (hu : u ∈ vs) : ∀ f ∈ u, f ≠ empty ∧ f.Normal := by
      obtain ⟨p, hp, rfl⟩ := List.mem_map.mp (heq ▸ hvs)
      exact fun f hf => normal_of_mem_factors (hps p hp) f (mem_factors_of_mem_units hu hf)
    split at h
    · cases h
    · split at h
      · cases h
      · obtain ⟨rfl, rfl⟩ := Prod.mk.inj (Option.some.inj h)
        refine ⟨fun f hf => ?_, fun p hp => ?_⟩
        · obtain ⟨u, hu, hf⟩ := List.mem_flatten.mp hf
          have hu' : u ∈ us := mem_of_mem_foldl_commonStart hu
          exact (hunits (List.mem_cons_self ..) hu' f hf).2
        · obtain ⟨vs, hvs, rfl⟩ := List.mem_map.mp hp
          refine (normal_ofFactors fun f hf => ?_).1
          obtain ⟨u, hu, hf⟩ := List.mem_flatten.mp hf
          exact hunits hvs (List.mem_of_mem_drop hu) f hf

theorem normal_choiceWithin {fuel : Nat} {ps : List Pattern} (h : ∀ p ∈ ps, p.Normal) :
    (choiceWithin fuel ps).Normal := by
  have hbranches : ∀ {ps : List Pattern}, (∀ p ∈ ps, p.Normal) →
      ∀ b ∈ ps.flatMap branches, b.Normal := by
    intro ps h b hb
    obtain ⟨p, hp, hb⟩ := List.mem_flatMap.mp hb
    exact normal_of_mem_branches (h p hp) b hb
  induction fuel generalizing ps with
  | zero => exact normal_ofBranches (hbranches h)
  | succ fuel ih =>
    have hps := hbranches h
    unfold choiceWithin
    split
    · trivial
    · next p heq => exact hps p (heq ▸ List.mem_cons_self ..)
    · split
      · trivial
      · split
        · next common rests hsplit =>
          obtain ⟨hcommon, hrests⟩ := normal_splitCommonStart? hps hsplit
          refine normal_sequence fun p hp => ?_
          rcases List.mem_append.mp hp with hp | hp
          · exact hcommon p hp
          · obtain rfl := List.mem_singleton.mp hp
            exact ih hrests
        · exact normal_ofBranches hps

theorem normal_choice {ps : List Pattern} (h : ∀ p ∈ ps, p.Normal) : (choice ps).Normal :=
  normal_choiceWithin h

/-! ## Repetitions -/

theorem normal_repetition {p : Pattern} (h : p.Normal) {min : Nat} {max : Option Nat}
    (hmax : ∀ m ∈ max, min ≤ m) (greedy : Bool) : (repetition min max greedy p).Normal := by
  unfold repetition
  generalize hbounds : (if p.isEmptyOnly = true then _ else _ : Nat × Option Nat) = bounds
  obtain ⟨least, most⟩ := bounds
  have hmost : ∀ m ∈ most, least ≤ m := by
    split at hbounds
    · obtain ⟨rfl, rfl⟩ := Prod.mk.inj hbounds
      intro m hm
      obtain rfl := Option.mem_some_iff.mp hm
      cases max with
      | none => exact Nat.min_le_right ..
      | some max =>
        have hle := hmax max rfl
        exact Nat.le_min.mpr ⟨Nat.le_trans (Nat.min_le_left ..) hle, Nat.min_le_right ..⟩
    · obtain ⟨rfl, rfl⟩ := Prod.mk.inj hbounds
      exact hmax
  dsimp only
  split
  · trivial
  · exact h
  · exact ⟨hmost, h⟩

end SearchQuery.Pattern
