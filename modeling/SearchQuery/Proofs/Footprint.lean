import Mathlib.Algebra.GroupWithZero.Nat
import Mathlib.Algebra.Order.BigOperators.Group.List
import Mathlib.Algebra.Order.Group.Nat
import SearchQuery.Pattern.Footprint

/-!
# The room that a pattern takes, from above

Sharing only saves: an automaton takes no more bytes than the states of its pattern do if each is laid
out for itself (`ByteForm.weight`).

* `Layout.Within n cost r`: if there is room for `n` bytes, `r` is a result that costs no more. The
  rules `Within.bind` and `Within.foldlM` put it together along a layout.
* A tree of byte ranges is paid for when a sequence is added to it, though its states are laid out
  later: until then, what they will take is counted with the path that is not finished
  (`pathWeight`, `within_addSequence`).
* A choice between words is a tree of letters, in which each letter pays for what hangs on it
  (`within_addWords`).
* A repetition pays for each of its copies (`within_addRepetition`), and a pair of parts for what joins
  them (`within_both`, `within_choice`, `within_later`).
* `Layout.within_addForm` is the bound for a part of a pattern, read forward or backward, and
  `Pattern.fits_iff` what comes of it: whether a pattern is accepted never depends on the shortcut.
-/

namespace SearchQuery

open Text

namespace Layout

/-- The bytes of a layout. -/
def size (l : Layout) : Nat := l.states * stateBytes + l.bytes

/-- If there is room for `n` bytes, there is a result, and it costs no more than them. -/
def Within {α : Type} (n : Nat) (cost : α → Nat) (r : Option α) : Prop :=
  n ≤ limit → ∃ a, r = some a ∧ cost a ≤ n

section Rules

variable {α β : Type} {n m : Nat} {cost : α → Nat} {cost' : β → Nat} {r : Option α}

theorem within_some {a : α} (h : cost a ≤ n) : Within n cost (some a) := fun _ => ⟨a, rfl, h⟩

theorem Within.mono (h : Within n cost r) (hnm : n ≤ m) : Within m cost r := by
  intro hlimit
  obtain ⟨a, hr, ha⟩ := h (hnm.trans hlimit)
  exact ⟨a, hr, ha.trans hnm⟩

/-- One part after another. -/
theorem Within.bind {f : α → Option β} (h : Within n cost r)
    (hf : ∀ a, cost a ≤ n → Within m cost' (f a)) (hnm : n ≤ m) : Within m cost' (r.bind f) := by
  intro hlimit
  obtain ⟨a, rfl, ha⟩ := h (hnm.trans hlimit)
  exact hf a ha hlimit

theorem Within.map {f : α → β} (h : Within n (fun a => cost' (f a)) r) :
    Within n cost' (r.map f) := by
  intro hlimit
  obtain ⟨a, rfl, ha⟩ := h hlimit
  exact ⟨f a, rfl, ha⟩

/-- Parts one after the other, each of which takes what it costs by itself. -/
theorem Within.foldlM {f : Layout → α → Option Layout} {c : α → Nat}
    (hf : ∀ l a, Within (l.size + c a) size (f l a)) (as : List α) (l : Layout) :
    Within (l.size + (as.map c).sum) size (as.foldlM f l) := by
  induction as generalizing l with
  | nil => exact within_some (Nat.le_refl _)
  | cons a as ih =>
    rw [List.foldlM_cons, List.map_cons, List.sum_cons]
    refine (hf l a).bind (fun l' hl' => (ih l').mono ?_) (by omega)
    omega

theorem within_add (l : Layout) (states bytes : Nat) :
    Within (l.size + (states * 32 + bytes)) size (l.add states bytes) := by
  intro hlimit
  have hsize : size ⟨l.states + states, l.bytes + bytes⟩ = l.size + (states * 32 + bytes) := by
    simp only [size, stateBytes]
    omega
  refine ⟨⟨l.states + states, l.bytes + bytes⟩, ?_, hsize.le⟩
  rw [add, checked, if_pos]
  exact hsize.le.trans hlimit

theorem within_branch (l : Layout) (count : Nat) :
    Within (l.size + 4 * count) size (l.branch count) := by
  refine (within_add l 0 (count * branchBytes)).mono ?_
  simp only [branchBytes]
  omega

theorem within_join (l : Layout) (branching : Bool) :
    Within (l.size + 4) size (l.join branching) := by
  cases branching with
  | false => exact within_some (Nat.le_add_right ..)
  | true => exact within_branch l 1

end Rules

/-! ## Sets of characters, forward -/

/-- The bytes that a node takes when it is finished. -/
def Node.weight (n : Node) : Nat := 32 + 8 * (n.edges.length + n.last.toList.length)

theorem Node.weight_finish (n : Node) (target : Nat) : (n.finish target).weight = n.weight := by
  cases hlast : n.last with
  | none => rw [finish, hlast]
  | some r =>
    rw [finish, hlast]
    simp [weight, hlast]

/-- The bytes that the nodes of a path take when they are finished. -/
def pathWeight (path : List Node) : Nat := (path.map Node.weight).sum

theorem pathWeight_cons (n : Node) (path : List Node) :
    pathWeight (n :: path) = n.weight + pathWeight path := by
  rw [pathWeight, List.map_cons, List.sum_cons, pathWeight]

/-- The path that a new end of a sequence makes. -/
theorem pathWeight_new (more : List Utf8.ByteRange) :
    pathWeight (more.map (⟨[], some ·⟩)) = 40 * more.length := by
  induction more with
  | nil => rfl
  | cons r more ih =>
    rw [List.map_cons, pathWeight_cons, ih, List.length_cons, Node.weight]
    simp only [List.length_nil, Option.toList_some, List.length_singleton]
    omega

variable (target : Nat) (l : Layout) (recent : Recent)

theorem within_addNode (n : Node) :
    Within (l.size + n.weight) (·.2.1.size) (l.addNode recent n) := by
  rw [addNode]
  cases recent.find? n.key with
  | some state => exact within_some (Nat.le_add_right ..)
  | none =>
    refine (within_add l 1 (n.edges.length * edgeBytes)).bind
      (fun l' hl' => within_some (hl'.trans ?_)) ?_ <;>
    · simp only [Node.weight, edgeBytes]
      omega

theorem within_addPath (path : List Node) :
    Within (l.size + pathWeight path) (·.2.1.size) (addPath target l recent path) := by
  induction path with
  | nil => exact within_some (Nat.le_refl _)
  | cons n path ih =>
    rw [addPath, pathWeight_cons]
    refine ih.bind ?_ (by omega)
    rintro ⟨next, l', recent'⟩ hl'
    refine (within_addNode l' recent' (n.finish next)).mono ?_
    rw [Node.weight_finish]
    dsimp only at hl'
    omega

/-- **A sequence pays for its nodes when it is added**, whenever they are laid out. -/
theorem within_addSequence (path : List Node) (s : List Utf8.ByteRange) :
    Within (l.size + pathWeight path + 40 * s.length) (fun x => x.2.1.size + pathWeight x.1)
      (addSequence target l recent path s) := by
  induction path generalizing l recent s with
  | nil => exact within_some (Nat.le_add_right ..)
  | cons n path ih =>
    cases s with
    | nil => exact within_some (Nat.le_add_right ..)
    | cons r more =>
      rw [addSequence, pathWeight_cons, List.length_cons]
      split
      · refine (ih l recent more).bind ?_ (by omega)
        rintro ⟨path', l', recent'⟩ hl'
        refine within_some ?_
        dsimp only at hl' ⊢
        rw [pathWeight_cons]
        omega
      · refine (within_addPath target l recent path).bind ?_ (by omega)
        rintro ⟨next, l', recent'⟩ hl'
        refine within_some ?_
        have hfinish := n.weight_finish next
        dsimp only at hl' ⊢
        rw [pathWeight_cons, pathWeight_new]
        simp only [Node.weight, Option.toList_some, List.length_singleton] at hfinish ⊢
        omega

theorem within_addSequences (path : List Node) (seqs : List (List Utf8.ByteRange)) :
    Within (l.size + pathWeight path + ByteForm.sequencesWeight seqs) size
      (addSequences target l recent path seqs) := by
  induction seqs generalizing l recent path with
  | nil => exact (within_addPath target l recent path).map
  | cons s seqs ih =>
    rw [ByteForm.sequencesWeight]
    intro hlimit
    obtain ⟨⟨path', l', recent'⟩, hadd, hl'⟩ :=
      within_addSequence target l recent path s (by omega)
    rw [addSequences, hadd]
    refine (ih l' recent' path').mono ?_ hlimit
    dsimp only at hl'
    omega

theorem within_addTree (seqs : List (List Utf8.ByteRange)) :
    Within (l.size + (ByteForm.wide seqs).weight) size (l.addTree seqs) := by
  rw [ByteForm.weight]
  refine (within_add l 1 0).bind (fun l' hl' => ?_) (by omega)
  refine (within_addSequences _ l' _ [⟨[], none⟩] seqs).mono ?_
  have hroot : pathWeight [⟨[], none⟩] = 32 := rfl
  omega

/-! ## Sets of characters, backward -/

theorem within_addTail (from_ : Nat) (s : List Utf8.ByteRange) :
    Within (l.size + 32 * s.length) (·.1.size) (addTail l recent from_ s) := by
  induction s generalizing l recent from_ with
  | nil => exact within_some (Nat.le_refl _)
  | cons r rest ih =>
    rw [addTail, List.length_cons]
    cases recent.find? [from_, r.1, r.2] with
    | some state => exact (ih l recent state).mono (by omega)
    | none =>
      intro hlimit
      obtain ⟨l', hadd, hl'⟩ := within_add l 1 0 (by omega)
      dsimp only
      rw [hadd]
      exact (ih l' _ _).mono (by omega) hlimit

theorem within_addTailsFrom (seqs : List (List Utf8.ByteRange)) :
    Within (l.size + ByteForm.sequencesWeight seqs) size
      (addTailsFrom target l recent seqs) := by
  induction seqs generalizing l recent with
  | nil => exact within_some (Nat.le_refl _)
  | cons s seqs ih =>
    rw [ByteForm.sequencesWeight]
    intro hlimit
    obtain ⟨⟨l', recent'⟩, htail, hl'⟩ := within_addTail l recent target s (by omega)
    dsimp only at hl'
    obtain ⟨l'', hbranch, hl''⟩ := within_branch l' 1 (by omega)
    rw [addTailsFrom, htail]
    dsimp only
    rw [hbranch]
    exact (ih l'' recent').mono (by omega) hlimit

theorem within_addTails (seqs : List (List Utf8.ByteRange)) :
    Within (l.size + (ByteForm.wide seqs).weight) size (l.addTails seqs) := by
  rw [ByteForm.weight]
  refine (within_add l 2 0).bind (fun l' hl' => ?_) (by omega)
  exact (within_addTailsFrom _ l' _ seqs).mono (by omega)

/-! ## Choices between words -/

/-- The letters of some words. -/
def letters (ws : List (List Nat)) : Nat := (ws.map List.length).sum

/-- The bytes of the tree of some words if no two of them begin alike. -/
def wordsWeight (ws : List (List Nat)) : Nat := 80 * letters ws + 40 * ws.length + 72

theorem letters_cons (w : List Nat) (ws : List (List Nat)) :
    letters (w :: ws) = w.length + letters ws := by
  rw [letters, List.map_cons, List.sum_cons, letters]

theorem letters_append (ws ws' : List (List Nat)) :
    letters (ws ++ ws') = letters ws + letters ws' := by
  rw [letters, List.map_append, List.sum_append, letters, letters]

theorem letters_reverse (ws : List (List Nat)) : letters (ws.map List.reverse) = letters ws := by
  rw [letters, letters, List.map_map]
  congr 1
  exact List.map_congr_left fun w _ => List.length_reverse

/-- The words that go on. -/
def longer (ws : List (List Nat)) : List (List Nat) := ws.filter (!·.isEmpty)

theorem longer_nil_cons (ws : List (List Nat)) : longer ([] :: ws) = longer ws := rfl

theorem longer_cons (b : Nat) (rest : List Nat) (ws : List (List Nat)) :
    longer ((b :: rest) :: ws) = (b :: rest) :: longer ws := rfl

theorem letters_longer (ws : List (List Nat)) : letters (longer ws) = letters ws := by
  induction ws with
  | nil => rfl
  | cons w ws ih =>
    cases w with
    | nil => rw [longer_nil_cons, ih, letters_cons, List.length_nil, Nat.zero_add]
    | cons b rest => rw [longer_cons, letters_cons, letters_cons, ih]

/-- The words that are used up cut the others, and no more often than there are of them. -/
theorem cutAtEnds_eq (ws : List (List Nat)) (parts : List (List (List Nat)))
    (part : List (List Nat)) :
    (cutAtEnds ws parts part).flatten = parts.reverse.flatten ++ part.reverse ++ longer ws ∧
      (cutAtEnds ws parts part).length + (longer ws).length ≤ parts.length + 1 + ws.length := by
  induction ws generalizing parts part with
  | nil => simp [cutAtEnds, longer]
  | cons w ws ih =>
    cases w with
    | nil =>
      rw [cutAtEnds, longer_nil_cons, List.length_cons]
      split
      · obtain ⟨hflatten, hlength⟩ := ih parts part
        exact ⟨hflatten, by omega⟩
      · obtain ⟨hflatten, hlength⟩ := ih (part.reverse :: parts) []
        rw [List.length_cons] at hlength
        exact ⟨by simp [hflatten], by omega⟩
    | cons b rest =>
      obtain ⟨hflatten, hlength⟩ := ih parts ((b :: rest) :: part)
      have hcut : cutAtEnds ((b :: rest) :: ws) parts part =
          cutAtEnds ws parts ((b :: rest) :: part) := by
        rw [cutAtEnds]
        simp
      rw [hcut, longer_cons, List.length_cons, List.length_cons]
      exact ⟨by simp [hflatten], by omega⟩

/-- The bytes of some groups of words, each with the edge that leads to it. -/
def Groups.weight (groups : Groups) : Nat :=
  (groups.map fun g => wordsWeight g.2).sum + 8 * groups.length

theorem Groups.weight_cons (g : Nat × List (List Nat)) (groups : Groups) :
    weight (g :: groups) = wordsWeight g.2 + 8 + weight groups := by
  simp only [weight, List.map_cons, List.sum_cons, List.length_cons]
  omega

theorem Groups.weight_put (b : Nat) (rest : List Nat) (groups : Groups) :
    (groups.put b rest).weight ≤ groups.weight + 80 * (rest.length + 1) + 40 := by
  have hsingle : letters [rest] = rest.length := by simp [letters]
  induction groups with
  | nil =>
    rw [put, weight_cons, wordsWeight, hsingle, List.length_singleton]
    omega
  | cons g groups ih =>
    rw [put]
    split
    · simp only [weight_cons, wordsWeight, letters_append, hsingle, List.length_append,
        List.length_singleton]
      omega
    · rw [weight_cons, weight_cons]
      omega

theorem Groups.weight_add (groups : Groups) (w : List Nat) :
    (groups.add w).weight ≤ groups.weight + 80 * w.length + 40 := by
  cases w with
  | nil => exact Nat.le_add_right ..
  | cons b rest => exact groups.weight_put b rest

/-- **A letter pays for the branch to what follows it.** -/
theorem weight_byFirst (ws : List (List Nat)) :
    (byFirst ws).weight ≤ 80 * letters ws + 40 * ws.length := by
  suffices h : ∀ groups : Groups, Groups.weight (ws.foldl Groups.add groups) ≤
      groups.weight + 80 * letters ws + 40 * ws.length from
    (h []).trans_eq (by rw [Groups.weight, List.map_nil, List.sum_nil, List.length_nil]; omega)
  induction ws with
  | nil => exact fun groups => Nat.le_refl _
  | cons w ws ih =>
    intro groups
    have hadd := groups.weight_add w
    rw [List.foldl_cons, letters_cons, List.length_cons]
    refine (ih _).trans ?_
    omega

/-- The groups of all parts of some words, with the states that the parts take. -/
theorem partsWeight_le (parts : List (List (List Nat))) :
    ((parts.map byFirst).flatten.map fun g => wordsWeight g.2).sum +
        ((parts.map byFirst).map fun groups => 32 + 8 * groups.length).sum ≤
      80 * letters parts.flatten + 40 * parts.flatten.length + 32 * parts.length := by
  induction parts with
  | nil => exact Nat.le_refl _
  | cons part parts ih =>
    have hpart := weight_byFirst part
    rw [Groups.weight] at hpart
    simp only [List.map_cons, List.flatten_cons, List.map_append, List.sum_append, List.sum_cons,
      letters_append, List.length_append, List.length_cons]
    omega

theorem within_addStart (l : Layout) (groups : Groups) :
    Within (l.size + (32 + 8 * groups.length)) size (l.addStart groups) := by
  rw [addStart]
  split
  · exact within_some (Nat.le_add_right ..)
  · exact (within_add l 1 0).mono (by omega)
  · exact (within_add l 1 _).mono (by simp only [edgeBytes]; omega)

theorem within_addWordsWithin (fuel : Nat) (l : Layout) (ws : List (List Nat)) :
    Within (l.size + wordsWeight ws) size (addWordsWithin fuel l ws) := by
  induction fuel generalizing l ws with
  | zero => exact within_some (Nat.le_add_right ..)
  | succ fuel ih =>
    obtain ⟨hflatten, hlength⟩ := cutAtEnds_eq ws [] []
    have hparts := partsWeight_le (cutAtEnds ws [] [])
    rw [hflatten] at hparts
    simp only [List.reverse_nil, List.flatten_nil, List.nil_append, List.length_nil,
      letters_longer] at hparts hlength
    rw [addWordsWithin]
    generalize hgroups : (cutAtEnds ws [] []).map byFirst = groups at hparts ⊢
    have hcount : groups.length = (cutAtEnds ws [] []).length := by rw [← hgroups, List.length_map]
    have hfilter : ((groups.flatten.filter fun g => g.2.any (!·.isEmpty)).map
        fun g => wordsWeight g.2).sum ≤ (groups.flatten.map fun g => wordsWeight g.2).sum :=
      (List.filter_sublist.map _).sum_le_sum fun _ _ => Nat.zero_le _
    have hnonempty : (groups.filter (!·.isEmpty)).length ≤ groups.length :=
      List.filter_sublist.length_le
    have htail (l : Layout) (g : Nat × List (List Nat)) :
        Within (l.size + wordsWeight g.2) size (addWordsWithin fuel l g.2) := ih l g.2
    refine (Within.foldlM htail _ l).bind (fun l₁ hl₁ =>
      (Within.foldlM within_addStart groups l₁).bind (fun l₂ hl₂ => ?_) ?_) ?_
    · refine (within_add l₂ 1 _).mono ?_
      simp only [branchBytes, wordsWeight]
      omega
    · rw [wordsWeight]
      omega
    · rw [wordsWeight]
      omega

theorem within_addWords (l : Layout) (ws : List (List Nat)) :
    Within (l.size + (32 + wordsWeight ws)) size (l.addWords ws) := by
  rw [addWords]
  exact (within_add l 1 0).bind (fun l' hl' => (within_addWordsWithin _ l' ws).mono (by omega))
    (by omega)

/-! ## Repetitions -/

/-- The bytes of a part that has been laid out. -/
def Part.size (p : Part) : Nat := p.layout.size

theorem Part.size_mk (l : Layout) (branching : Bool) : size ⟨l, branching⟩ = l.size := rfl

theorem within_joinEnd (p : Part) : Within (p.size + 4) size (p.layout.join p.branching) :=
  within_join p.layout p.branching

/-- The end of a part, and then some states. -/
theorem within_close (p : Part) (states bytes : Nat) (branching : Bool) :
    Within (p.size + (4 + states * 32 + bytes)) Part.size
      (do return ⟨← (← p.layout.join p.branching).add states bytes, branching⟩) := by
  refine (within_joinEnd p).bind (fun l hl => ?_) (by omega)
  refine (within_add l states bytes).bind (fun l' hl' => within_some ?_) (by omega)
  rw [Part.size_mk]
  omega

section Copies

variable {body : Layout → Option Part} {b : Nat}

theorem within_addCopies (hbody : ∀ l, Within (l.size + b) Part.size (body l)) (n : Nat)
    (previous : Bool) (l : Layout) :
    Within (l.size + n * (b + 4)) Part.size (addCopies body n previous l) := by
  induction n generalizing previous l with
  | zero => exact within_some (Nat.le_add_right ..)
  | succ n ih =>
    rw [Nat.succ_mul]
    intro hlimit
    obtain ⟨l₁, hjoin, hl₁⟩ := within_join l previous (by omega)
    obtain ⟨p, hp, hsize⟩ := hbody l₁ (by omega)
    rw [addCopies, hjoin]
    dsimp only
    rw [hp]
    rw [Part.size] at hsize
    exact (ih p.branching p.layout).mono (by omega) hlimit

theorem within_addExactly (hbody : ∀ l, Within (l.size + b) Part.size (body l)) (n : Nat)
    (l : Layout) : Within (l.size + (n * (b + 4) + 32)) Part.size (addExactly body n l) := by
  rw [addExactly]
  split
  · exact Within.map (Within.mono (within_add l 1 0) (by omega))
  · exact (within_addCopies hbody n false l).mono (by omega)

theorem within_addOptional (hbody : ∀ l, Within (l.size + b) Part.size (body l)) (n : Nat)
    (previous : Bool) (l : Layout) :
    Within (l.size + n * (b + 44)) Part.size (addOptional body n previous l) := by
  induction n generalizing previous l with
  | zero => exact within_some (Nat.le_add_right ..)
  | succ n ih =>
    rw [Nat.succ_mul]
    intro hlimit
    obtain ⟨l₁, hadd, hl₁⟩ := within_add l 1 (2 * branchBytes) (by simp only [branchBytes]; omega)
    simp only [branchBytes] at hl₁
    obtain ⟨l₂, hjoin, hl₂⟩ := within_join l₁ previous (by omega)
    obtain ⟨p, hp, hsize⟩ := hbody l₂ (by omega)
    rw [addOptional, hadd]
    dsimp only
    rw [hjoin]
    dsimp only
    rw [hp]
    rw [Part.size] at hsize
    exact (ih p.branching p.layout).mono (by omega) hlimit

theorem within_addLoop (hbody : ∀ l, Within (l.size + b) Part.size (body l)) (takes : Bool)
    (l : Layout) : Within (l.size + (b + 116)) Part.size (addLoop body takes l) := by
  rw [addLoop]
  split
  · refine (within_add l 1 branchBytes).bind (fun l₁ hl₁ => ?_) (by simp only [branchBytes]; omega)
    simp only [branchBytes] at hl₁
    refine (hbody l₁).bind (fun p hp => ?_) (by omega)
    refine (within_joinEnd p).bind (fun l₂ hl₂ => within_some ?_) (by omega)
    rw [Part.size_mk]
    omega
  · refine (hbody l).bind (fun p hp => (within_close p 3 _ false).mono ?_) (by omega)
    simp only [branchBytes]
    omega

/-- Copies that are all there, of which the last one can be repeated. -/
theorem within_addAtLeast (hbody : ∀ l, Within (l.size + b) Part.size (body l)) (n : Nat)
    (l : Layout) :
    Within (l.size + (n * (b + 4) + 40)) Part.size (do
      let p ← addCopies body n false l
      return ⟨← (← p.layout.join p.branching).add 1 branchBytes, true⟩) := by
  refine (within_addCopies hbody n false l).bind
    (fun p hp => (within_close p 1 branchBytes true).mono ?_) (by omega)
  simp only [branchBytes]
  omega

/-- Copies that are all there, and then some that need not be. -/
theorem within_addBetween (hbody : ∀ l, Within (l.size + b) Part.size (body l)) (n more : Nat)
    (l : Layout) :
    Within (l.size + (n * (b + 4) + more * (b + 44) + 68)) Part.size (do
      let p ← addExactly body n l
      let p ← addOptional body more p.branching (← p.layout.add 1 0)
      return ⟨← p.layout.join p.branching, false⟩) := by
  refine (within_addExactly hbody n l).bind (fun p hp => ?_) (by omega)
  rw [Part.size] at hp
  refine (within_add p.layout 1 0).bind (fun l₁ hl₁ => ?_) (by omega)
  refine (within_addOptional hbody more p.branching l₁).bind (fun q hq => ?_) (by omega)
  refine (within_joinEnd q).bind (fun l₂ hl₂ => within_some ?_) (by omega)
  rw [Part.size_mk]
  omega

/-- **A repetition pays for each of its copies.** -/
theorem within_addRepetition (hbody : ∀ l, Within (l.size + b) Part.size (body l)) (takes : Bool)
    (min : Nat) (max : Option Nat) (l : Layout) :
    Within (l.size + ((Nat.max min (max.getD 0) + 1) * (b + 100) + 200)) Part.size
      (addRepetition body takes min max l) := by
  have hmin : min * (b + 4) ≤ min * (b + 100) := Nat.mul_le_mul_left min (by omega)
  unfold addRepetition
  split
  · exact (within_addLoop hbody takes l).mono (by simp)
  · have hcopies : (Nat.max 0 ((some 1).getD 0) + 1) * (b + 100) = 2 * (b + 100) := rfl
    rw [hcopies]
    refine (within_add l 1 0).bind (fun l₁ hl₁ => ?_) (by omega)
    refine (hbody l₁).bind (fun p hp => (within_close p 1 _ false).mono ?_) (by omega)
    simp only [branchBytes]
    omega
  · have hcopies : (Nat.max min (none.getD 0) + 1) * (b + 100) = min * (b + 100) + (b + 100) := by
      rw [Option.getD_none, show Nat.max min 0 = min from Nat.max_zero min, Nat.succ_mul]
    rw [hcopies]
    exact (within_addAtLeast hbody min l).mono (by omega)
  · next max _ =>
    rw [Option.getD_some, Nat.succ_mul]
    split
    · have hmax : min * (b + 100) ≤ Nat.max min max * (b + 100) :=
        Nat.mul_le_mul_right _ (Nat.le_max_left min max)
      exact (within_addExactly hbody min l).mono (by omega)
    · have hcount : min + (max - min) ≤ Nat.max min max := by
        change min + (max - min) ≤ Max.max min max
        omega
      have hsum : min * (b + 100) + (max - min) * (b + 100) ≤ Nat.max min max * (b + 100) := by
        rw [← Nat.add_mul]
        exact Nat.mul_le_mul_right _ hcount
      have hmore : (max - min) * (b + 44) ≤ (max - min) * (b + 100) :=
        Nat.mul_le_mul_left _ (by omega)
      exact (within_addBetween hbody min (max - min) l).mono (by omega)

end Copies

/-! ## Patterns -/

/-- The bytes that tie a branch to its choice. -/
def Place.weight : Place → Nat
  | alone => 0
  | second => 72
  | later => 8

theorem within_tie (place : Place) (p : Part) :
    Within (p.size + place.weight) Part.size (tie place p) := by
  cases place with
  | alone => exact within_some (Nat.le_refl _)
  | second => exact within_close p 2 branchBytes false
  | later =>
    rw [Place.weight]
    refine (within_joinEnd p).bind (fun l hl => ?_) (by omega)
    refine (within_branch l 1).bind (fun l' hl' => within_some ?_) (by omega)
    rw [Part.size_mk]
    omega

/-- States that are tied to a choice when they have been laid out. -/
theorem Within.tied {n : Nat} {r : Option Layout} (h : Within n Layout.size r) (place : Place) :
    Within (n + place.weight) Part.size (r.bind fun l => tie place ⟨l, false⟩) := by
  refine h.bind (fun l hl => (within_tie place ⟨l, false⟩).mono ?_) (Nat.le_add_right ..)
  rw [Part.size_mk]
  omega

section Pairs

variable {first second : Layout → Option Part} {a b : Nat}

/-- Two parts, in the order in which they are laid out. -/
theorem within_both (hfirst : ∀ l, Within (l.size + a) Part.size (first l))
    (hsecond : ∀ l, Within (l.size + b) Part.size (second l)) (place : Place) (l : Layout) :
    Within (l.size + (a + b + 4 + place.weight)) Part.size (do
      let p ← first l
      let q ← second (← p.layout.join p.branching)
      tie place q) := by
  refine (hfirst l).bind (fun p hp => ?_) (by omega)
  refine (within_joinEnd p).bind (fun l₁ hl₁ => ?_) (by omega)
  refine (hsecond l₁).bind (fun q hq => ?_) (by omega)
  exact (within_tie place q).mono (by omega)

/-- The first two branches of a choice. -/
theorem within_choice (hfirst : ∀ l, Within (l.size + a) Part.size (first l))
    (hsecond : ∀ l, Within (l.size + b) Part.size (second l)) (l : Layout) :
    Within (l.size + (a + b + 8)) Part.size (do
      let p ← first l
      let q ← second p.layout
      return ⟨← (← q.layout.join p.branching).branch 1, false⟩) := by
  refine (hfirst l).bind (fun p hp => ?_) (by omega)
  rw [Part.size] at hp
  refine (hsecond p.layout).bind (fun q hq => ?_) (by omega)
  rw [Part.size] at hq
  refine (within_join q.layout p.branching).bind (fun l₁ hl₁ => ?_) (by omega)
  refine (within_branch l₁ 1).bind (fun l₂ hl₂ => within_some ?_) (by omega)
  rw [Part.size_mk]
  omega

/-- A branch that is not the first is tied to its choice before the next one is laid out. -/
theorem within_later (hfirst : ∀ l, Within (l.size + a) Part.size (first l))
    (hsecond : ∀ l, Within (l.size + b) Part.size (second l)) (place : Place) (l : Layout) :
    Within (l.size + (a + b + place.weight)) Part.size (do
      let p ← tie place (← first l)
      second p.layout) := by
  refine (hfirst l).bind (fun p hp => ?_) (by omega)
  refine (within_tie place p).bind (fun q hq => ?_) (by omega)
  rw [Part.size] at hq
  exact (hsecond q.layout).mono (by omega)

end Pairs

end Layout

namespace ByteForm

theorem weight_of_literal? {f : ByteForm} {bs : List Nat} (h : f.literal? = some bs) :
    80 * bs.length ≤ f.weight := by
  induction f generalizing bs with
  | literal bs' =>
    obtain rfl := Option.some.inj h
    exact Nat.le_refl _
  | seq p q ihp ihq =>
    obtain ⟨bs₁, h₁, h⟩ := Option.bind_eq_some_iff.mp h
    obtain ⟨bs₂, h₂, h⟩ := Option.bind_eq_some_iff.mp h
    obtain rfl := Option.some.inj h
    have hp := ihp h₁
    have hq := ihq h₂
    rw [List.length_append, weight]
    omega
  | _ => cases h

/-- The branches of a choice between words, of which each is paid for. -/
theorem weight_of_literals? {f : ByteForm} {ws : List (List Nat)} (h : f.literals? = some ws) :
    ws ≠ [] ∧ 80 * Layout.letters ws + 200 * ws.length ≤ f.weight + 200 := by
  have hliteral {g : ByteForm} {ws : List (List Nat)} (h : g.literal?.map ([·]) = some ws) :
      ws ≠ [] ∧ 80 * Layout.letters ws + 200 * ws.length ≤ g.weight + 200 := by
    obtain ⟨bs, hbs, rfl⟩ := Option.map_eq_some_iff.mp h
    have hle := weight_of_literal? hbs
    refine ⟨List.cons_ne_nil _ _, ?_⟩
    rw [Layout.letters_cons, List.length_singleton, Layout.letters, List.map_nil, List.sum_nil]
    omega
  induction f generalizing ws with
  | alt p q _ ihq =>
    obtain ⟨bs, hbs, h⟩ := Option.bind_eq_some_iff.mp h
    obtain ⟨ws', hws', h⟩ := Option.bind_eq_some_iff.mp h
    obtain rfl := Option.some.inj h
    have hp := weight_of_literal? hbs
    have hq := (ihq hws').2
    refine ⟨List.cons_ne_nil _ _, ?_⟩
    rw [Layout.letters_cons, List.length_cons, weight]
    omega
  | _ => exact hliteral h

theorem two_le_length_of_literals? {p q : ByteForm} {ws : List (List Nat)}
    (h : (alt p q).literals? = some ws) : 2 ≤ ws.length := by
  obtain ⟨bs, -, h⟩ := Option.bind_eq_some_iff.mp h
  obtain ⟨ws', hws', h⟩ := Option.bind_eq_some_iff.mp h
  obtain rfl := Option.some.inj h
  have hpos := List.length_pos_iff.mpr (weight_of_literals? hws').1
  rw [List.length_cons]
  omega

end ByteForm

namespace Layout

/-- A choice between words is paid for by its branches, read in either direction. -/
theorem within_words {p q : ByteForm} {ws : List (List Nat)}
    (hws : (ByteForm.alt p q).literals? = some ws) (backward : Bool) (l : Layout) :
    Within (l.size + (ByteForm.alt p q).weight) size
      (l.addWords (if backward then ws.map List.reverse else ws)) := by
  have hcount := ByteForm.two_le_length_of_literals? hws
  have hweight := (ByteForm.weight_of_literals? hws).2
  have hreverse : wordsWeight (if backward then ws.map List.reverse else ws) = wordsWeight ws := by
    split
    · rw [wordsWeight, letters_reverse, List.length_map, wordsWeight]
    · rfl
  have hwords := within_addWords l (if backward then ws.map List.reverse else ws)
  rw [hreverse, wordsWeight] at hwords
  exact hwords.mono (by omega)

/-- **The bound.** A part of a pattern takes no more bytes than it weighs, and what ties it to a
choice. -/
theorem within_addForm (backward : Bool) (f : ByteForm) (place : Place) (l : Layout) :
    Within (l.size + (f.weight + place.weight)) Part.size (addForm backward f place l) := by
  induction f generalizing place l with
  | point => exact ((within_add l 1 0).tied place).mono (by rw [ByteForm.weight]; omega)
  | literal bs =>
    exact ((within_add l bs.length 0).tied place).mono (by rw [ByteForm.weight]; omega)
  | ascii count =>
    refine ((within_add l 2 (count * edgeBytes)).tied place).mono ?_
    rw [ByteForm.weight, edgeBytes]
    omega
  | wide seqs =>
    cases backward with
    | false => exact ((within_addTree l seqs).tied place).mono (by omega)
    | true => exact ((within_addTails l seqs).tied place).mono (by omega)
  | seq p q ihp ihq =>
    rw [ByteForm.weight]
    -- Backward, the second part is laid out first.
    cases backward with
    | false =>
      refine (within_both (ihp .alone) (ihq .alone) place l).mono ?_
      rw [Place.weight]
      omega
    | true =>
      refine (within_both (ihq .alone) (ihp .alone) place l).mono ?_
      rw [Place.weight]
      omega
  | alt p q ihp ihq =>
    have hlater (place : Place) : Within (l.size + ((ByteForm.alt p q).weight + place.weight))
        Part.size (do
          let first ← tie place (← addForm backward p .alone l)
          addForm backward q .later first.layout) := by
      refine (within_later (ihp .alone) (ihq .later) place l).mono ?_
      simp only [ByteForm.weight, Place.weight]
      omega
    cases place with
    | alone =>
      cases hws : (ByteForm.alt p q).literals? with
      | some ws =>
        simp only [addForm, hws]
        exact (within_words hws backward l).bind (fun l₁ hl₁ => within_some hl₁) (by omega)
      | none =>
        simp only [addForm, hws]
        refine (within_choice (ihp .alone) (ihq .second) l).mono ?_
        simp only [ByteForm.weight, Place.weight]
        omega
    | second => exact hlater .second
    | later => exact hlater .later
  | group p ih =>
    have hp (l : Layout) : Within (l.size + p.weight) Part.size (addForm backward p .alone l) :=
      ih .alone l
    rw [ByteForm.weight]
    cases backward with
    | false =>
      refine (within_add l 1 0).bind (fun l₁ hl₁ => ?_) (by omega)
      refine (hp l₁).bind (fun inner hinner => ?_) (by omega)
      refine (within_joinEnd inner).bind (fun l₂ hl₂ => ?_) (by omega)
      exact ((within_add l₂ 1 0).tied place).mono (by omega)
    | true =>
      refine (hp l).bind (fun inner hinner => ?_) (by omega)
      exact (within_tie place inner).mono (by omega)
  | repeated min max p ih =>
    have hp (l : Layout) : Within (l.size + p.weight) Part.size (addForm backward p .alone l) :=
      ih .alone l
    rw [addForm, ByteForm.weight]
    refine (within_addRepetition hp _ min max l).bind (fun copies hcopies => ?_) (by omega)
    exact (within_tie place copies).mono (by omega)

end Layout

namespace Pattern

open Layout

/-- An automaton takes no more bytes than the pattern as a group, and what stands around it. -/
theorem within_layout? (p : Pattern) (form : ByteForm) (backward : Bool) :
    Within ((ByteForm.group form).weight + frameBytes) Layout.size (p.layout? form backward) := by
  have hform : (if backward then form else .group form).weight ≤ (ByteForm.group form).weight := by
    split
    · rw [ByteForm.weight]
      omega
    · exact Nat.le_refl _
  have hrest (l : Layout) (hl : l.size ≤ 112) :
      Within ((ByteForm.group form).weight + 148) Layout.size (do
        let part ← addForm backward (if backward then form else .group form) .alone l
        (← part.layout.join part.branching).add 1 0) := by
    have hpart := within_addForm backward (if backward then form else .group form) .alone l
    rw [Place.weight] at hpart
    refine hpart.bind (fun part hpart => ?_) (by omega)
    refine (within_joinEnd part).bind (fun l₁ hl₁ => ?_) (by omega)
    exact (within_add l₁ 1 0).mono (by omega)
  rw [layout?, frameBytes]
  generalize (if backward then p.endsAtEnd else p.beginsAtStart) = fixed
  cases fixed with
  | false =>
    have hlead : Within 112 Layout.size (Layout.add ⟨0, 0⟩ 3 16) := within_add ⟨0, 0⟩ 3 16
    exact hlead.bind (fun l hl => hrest l hl) (by omega)
  | true =>
    have hlead : Within 32 Layout.size (Layout.add ⟨0, 0⟩ 1 0) := within_add ⟨0, 0⟩ 1 0
    exact hlead.bind (fun l hl => hrest l (by omega)) (by omega)

/-- **A pattern is accepted just if both its automata are within the limit.** Those of small weight
are, so that nothing hangs on their not being laid out. -/
theorem fits_iff (p : Pattern) :
    p.fits = true ↔
      (p.layout? (.ofPattern p) false).isSome = true ∧
        (p.layout? (.ofPattern p) true).isSome = true := by
  rw [fits, Bool.or_eq_true, Bool.and_eq_true, decide_eq_true_iff, or_iff_right_iff_imp]
  intro h
  have hsome (backward : Bool) : (p.layout? (.ofPattern p) backward).isSome = true := by
    obtain ⟨l, hl, -⟩ := within_layout? p (.ofPattern p) backward h
    rw [hl, Option.isSome_some]
  exact ⟨hsome false, hsome true⟩

end Pattern

end SearchQuery
