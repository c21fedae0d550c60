import SearchQuery.Proofs.NormalForm
import SearchQuery.Proofs.PatternMoves

/-!
# Reading one text in two places

`Reader.Reads` is reading to the end of a text, item by item.

* What is read is in normal form (`Reader.Reads.normal`).
* A text that can be read by itself can also be read inside other groups, with another flag for
  dots and with something after it that closes the group (`Reader.Reads.like`). The two readers stay
  alike (`Reader.Like`): they make the same moves (`Reader.Like.make?`). If they begin with the
  same flags and no group in the text captures, they read the very same.
-/

namespace SearchQuery.Pattern

/-! ## Runs of the reader -/

namespace Reader

/-- Reading a text to its end, item by item, leads from one state to another. -/
inductive Reads : Reader → List Char → Reader → Prop
  | done {r : Reader} {cs : List Char} (h : r.flags.skip cs = []) : Reads r cs r
  | next {r r₁ r' : Reader} {cs more rest : List Char} {c : Char} (h : r.flags.skip cs = c :: more)
      (hnext : r.readNext? c more = some (r₁, rest)) (hrest : Reads r₁ rest r') : Reads r cs r'

theorem reads_of_readAll? {fuel : Nat} {r r' : Reader} {cs : List Char}
    (h : readAll? fuel r cs = some r') : Reads r cs r' := by
  induction fuel generalizing r cs with
  | zero =>
    simp only [readAll?] at h
    split at h
    · next hskip =>
      obtain rfl := Option.some.inj h
      exact .done (List.isEmpty_iff.mp hskip)
    · cases h
  | succ fuel ih =>
    simp only [readAll?] at h
    split at h
    · next hskip =>
      obtain rfl := Option.some.inj h
      exact .done hskip
    · next c more hskip =>
      simp only [Option.bind_eq_bind, Option.bind_eq_some_iff] at h
      obtain ⟨⟨r₁, rest⟩, hnext, h⟩ := h
      exact .next hskip hnext (ih h)

theorem Reads.unique {r r₁ r₂ : Reader} {cs : List Char} (h₁ : Reads r cs r₁) (h₂ : Reads r cs r₂) :
    r₁ = r₂ := by
  induction h₁ with
  | done h =>
    cases h₂ with
    | done => rfl
    | next h' => simp [h] at h'
  | next h hnext _ ih =>
    cases h₂ with
    | done h' => simp [h] at h'
    | next h' hnext' hrest' =>
      obtain ⟨rfl, rfl⟩ := List.cons.inj (h.symm.trans h')
      obtain ⟨rfl, rfl⟩ := Prod.mk.inj (Option.some.inj (hnext.symm.trans hnext'))
      exact ih hrest'

/-- What is ignored makes no difference. -/
theorem Reads.of_skip {r r' : Reader} {cs cs' : List Char} (h : Reads r cs r')
    (hskip : r.flags.skip cs' = r.flags.skip cs) : Reads r cs' r' := by
  cases h with
  | done h => exact .done (hskip.trans h)
  | next h hnext hrest => exact .next (hskip.trans h) hnext hrest

/-! ## Groups and normal forms -/

theorem groups_make? {r r' : Reader} {m : Move} (h : r.make? m = some r') :
    r.groups ≤ r'.groups := by
  cases m with
  | push p | dot | set changes | openGroup changes | branch =>
    obtain rfl := Option.some.inj h
    exact Nat.le_refl _
  | openCapture name =>
    obtain ⟨-, rfl⟩ := make?_openCapture.mp h
    exact Nat.le_succ _
  | closeGroup =>
    obtain ⟨frame, outer, -, rfl⟩ := closeGroup?_eq_some.mp h
    exact Nat.le_refl _
  | repeatLast min max greedy =>
    obtain ⟨p, items, -, -, rfl⟩ := repeatLast?_eq_some.mp h
    exact Nat.le_refl _

theorem Reads.groups_le {r r' : Reader} {cs : List Char} (h : Reads r cs r') :
    r.groups ≤ r'.groups := by
  induction h with
  | done => exact Nat.le_refl _
  | next _ hnext _ ih =>
    obtain ⟨m, -, hmake⟩ := readNext?_eq_some.mp hnext
    exact Nat.le_trans (groups_make? hmake) ih

end Reader

/-- The pieces of a move are in normal form, and its bounds in order. -/
def Move.Normal : Move → Prop
  | .push p => p.pattern.Normal
  | .repeatLast min max _ => ∀ m ∈ max, min ≤ m
  | _ => True

theorem le_of_readBounds? {f : Flags} {cs rest : List Char} {min : Nat} {max : Option Nat}
    (h : readBounds? f cs = some (min, max, rest)) : ∀ m ∈ max, min ≤ m := by
  unfold readBounds? at h
  simp only [Option.bind_eq_bind, Option.bind_eq_some_iff] at h
  obtain ⟨⟨min', rest₁⟩, -, h⟩ := h
  split at h
  · obtain ⟨rfl, rfl, -⟩ := by simpa using h
    simp
  · split at h
    · obtain ⟨rfl, rfl, -⟩ := by simpa using h
      simp
    · simp only [Option.bind_eq_some_iff] at h
      obtain ⟨⟨max', rest₃⟩, -, h⟩ := h
      split at h
      · split at h
        · next hle =>
          obtain ⟨rfl, rfl, -⟩ := by simpa using h
          simpa using hle
        · cases h
      · cases h
  · cases h

theorem Move.normal_ofAtom? {f : Flags} {a : Atom} {m : Move} (h : ofAtom? f a = some m) :
    m.Normal := by
  cases a with
  | literal c byte =>
    simp only [ofAtom?] at h
    split at h
    · cases h
    · obtain rfl := Option.some.inj h
      trivial
  | set s | anchor a =>
    obtain rfl := Option.some.inj h
    trivial

theorem Move.normal_readOpening? {cs rest : List Char} {m : Move}
    (h : readOpening? cs = some (m, rest)) : m.Normal := by
  have hnamed {cs : List Char} (h : readNamed? cs = some (m, rest)) : m.Normal := by
    obtain ⟨x, -, hpure⟩ := Option.map_eq_some_iff.mp h
    obtain ⟨rfl, -⟩ := Prod.mk.inj hpure
    trivial
  unfold readOpening? at h
  split at h
  case h_1 | h_2 | h_3 | h_4 => cases h
  case h_5 | h_6 => exact hnamed h
  case h_7 =>
    unfold readFlags? at h
    simp only [Option.bind_eq_bind, Option.bind_eq_some_iff] at h
    obtain ⟨x, -, h⟩ := h
    split at h
    · obtain ⟨rfl, -⟩ := Prod.mk.inj (Option.some.inj h)
      trivial
    · split at h
      · cases h
      · obtain ⟨rfl, -⟩ := Prod.mk.inj (Option.some.inj h)
        trivial
  case h_8 =>
    obtain ⟨rfl, -⟩ := Prod.mk.inj (Option.some.inj h)
    trivial

theorem Move.normal_read? {f : Flags} {c : Char} {cs rest : List Char} {m : Move}
    (h : read? f c cs = some (m, rest)) : m.Normal := by
  unfold read? at h
  split at h
  case h_1 => exact normal_readOpening? h
  case h_4 =>
    obtain ⟨x, -, hpure⟩ := Option.map_eq_some_iff.mp h
    obtain ⟨rfl, -⟩ := Prod.mk.inj hpure
    trivial
  case h_8 =>
    obtain ⟨⟨min, max, rest₀⟩, hbounds, hpure⟩ := Option.map_eq_some_iff.mp h
    obtain ⟨rfl, -⟩ := Prod.mk.inj hpure
    exact le_of_readBounds? hbounds
  case h_9 =>
    simp only [Option.bind_eq_bind, Option.bind_eq_some_iff] at h
    obtain ⟨x, -, h⟩ := h
    obtain ⟨m', hatom, hpure⟩ := Option.map_eq_some_iff.mp h
    obtain ⟨rfl, -⟩ := Prod.mk.inj hpure
    exact normal_ofAtom? hatom
  case h_10 =>
    split at h
    · obtain ⟨rfl, -⟩ := Prod.mk.inj (Option.some.inj h)
      trivial
    · cases h
  case h_13 =>
    obtain ⟨m', hatom, hpure⟩ := Option.map_eq_some_iff.mp h
    obtain ⟨rfl, -⟩ := Prod.mk.inj hpure
    exact normal_ofAtom? hatom
  all_goals
    obtain ⟨rfl, -⟩ := Prod.mk.inj (Option.some.inj h)
    simp [Move.Normal, Pattern.Normal]

/-- All pieces are in normal form. -/
def AllNormal (ps : List Piece) : Prop := ∀ p ∈ ps, p.pattern.Normal

namespace Piece

theorem normal_sequence {ps : List Piece} (h : AllNormal ps) :
    (Piece.sequence ps).pattern.Normal := by
  unfold Piece.sequence
  split
  · trivial
  · exact h _ (List.mem_cons_self ..)
  · refine Pattern.normal_sequence fun p hp => ?_
    obtain ⟨piece, hpiece, rfl⟩ := List.mem_map.mp hp
    exact h piece hpiece

theorem normal_choice {ps : List Piece} (h : AllNormal ps) : (Piece.choice ps).pattern.Normal := by
  unfold Piece.choice
  split
  · exact h _ (List.mem_cons_self ..)
  · refine Pattern.normal_choice fun p hp => ?_
    obtain ⟨piece, hpiece, rfl⟩ := List.mem_map.mp hp
    exact h piece hpiece

end Piece

namespace Reader

/-- All that has been read is in normal form. -/
structure Normal (r : Reader) : Prop where
  items : AllNormal r.items
  branches : AllNormal r.branches
  outer : ∀ frame ∈ r.outer, AllNormal frame.items ∧ AllNormal frame.branches

theorem normal_initial (flags : Flags) : Normal { initial with flags := flags } where
  items _ hp := nomatch hp
  branches _ hp := nomatch hp
  outer _ hf := nomatch hf

theorem normal_branches {items branches : List Piece} (hi : AllNormal items)
    (hb : AllNormal branches) : AllNormal (Piece.sequence items.reverse :: branches) := by
  refine List.forall_mem_cons.mpr ⟨Piece.normal_sequence fun p hp => ?_, hb⟩
  exact hi p (List.mem_reverse.mp hp)

theorem Normal.inner {r : Reader} (h : r.Normal) : r.inner.pattern.Normal :=
  Piece.normal_choice fun p hp => normal_branches h.items h.branches p (List.mem_reverse.mp hp)

theorem Normal.push {r : Reader} (h : r.Normal) {p : Piece} (hp : p.pattern.Normal) :
    (r.push p).Normal where
  items := List.forall_mem_cons.mpr ⟨hp, h.items⟩
  branches := h.branches
  outer := h.outer

theorem Normal.openGroup {r : Reader} (h : r.Normal) (index : Option Nat) (flags : Flags) :
    (r.openGroup index flags).Normal where
  items _ hp := nomatch hp
  branches _ hp := nomatch hp
  outer := List.forall_mem_cons.mpr ⟨⟨h.items, h.branches⟩, h.outer⟩

theorem Normal.make? {r r' : Reader} (h : r.Normal) {m : Move} (hm : m.Normal)
    (hmake : r.make? m = some r') : r'.Normal := by
  cases m with
  | push p =>
    obtain rfl := Option.some.inj hmake
    exact h.push hm
  | dot =>
    obtain rfl := Option.some.inj hmake
    exact h.push trivial
  | set changes =>
    obtain rfl := Option.some.inj hmake
    have hpush := h.push (p := ⟨.empty, 0, true⟩) trivial
    exact ⟨hpush.items, hpush.branches, hpush.outer⟩
  | openGroup changes =>
    obtain rfl := Option.some.inj hmake
    exact h.openGroup _ _
  | openCapture name =>
    obtain ⟨-, rfl⟩ := make?_openCapture.mp hmake
    have hopen := h.openGroup (some (r.groups + 1)) r.flags
    exact ⟨hopen.items, hopen.branches, hopen.outer⟩
  | closeGroup =>
    obtain ⟨frame, outer, heq, rfl⟩ := closeGroup?_eq_some.mp hmake
    have hinner := h.inner
    obtain ⟨⟨hitems, hbranches⟩, houter⟩ := List.forall_mem_cons.mp (heq ▸ h.outer)
    refine ⟨List.forall_mem_cons.mpr ⟨?_, hitems⟩, hbranches, houter⟩
    cases frame.index <;> exact hinner
  | branch =>
    obtain rfl := Option.some.inj hmake
    exact ⟨fun _ hp => absurd hp List.not_mem_nil, normal_branches h.items h.branches, h.outer⟩
  | repeatLast min max greedy =>
    obtain ⟨p, items, heq, -, rfl⟩ := repeatLast?_eq_some.mp hmake
    have hitems := h.items
    rw [heq] at hitems
    obtain ⟨hp, hitems⟩ := List.forall_mem_cons.mp hitems
    exact ⟨List.forall_mem_cons.mpr ⟨normal_repetition hp hm _, hitems⟩, h.branches, h.outer⟩

/-- **What is read is in normal form.** -/
theorem Reads.normal {r r' : Reader} {cs : List Char} (h : Reads r cs r') (hr : r.Normal) :
    r'.Normal := by
  induction h with
  | done => exact hr
  | next _ hnext _ ih =>
    obtain ⟨m, hread, hmake⟩ := readNext?_eq_some.mp hnext
    exact ih (hr.make? (Move.normal_read? hread) hmake)

end Reader

/-! ## Two readers of one text -/

section Like

variable (e : Prop)

/-- Frames with the same flags, but for dots, and with settings at the same places; under `e`, equal
ones. -/
structure Frame.Like (frame frame' : Frame) : Prop where
  flags : frame'.flags = frame.flags.withDot frame'.flags.dotAll
  items : frame'.items.map (·.isSetting) = frame.items.map (·.isSetting)
  eq : e → frame' = frame

/-- The second reader has done what the first has, with the flag for dots set as it may be, with the
frames `below` around it and after `before` groups. Under `e`, it has read the very same. -/
structure Reader.Like (below : List Frame) (before : Nat) (r r' : Reader) : Prop where
  flags : r'.flags = r.flags.withDot r'.flags.dotAll
  items : r'.items.map (·.isSetting) = r.items.map (·.isSetting)
  outer : ∃ outer, r'.outer = outer ++ below ∧ List.Forall₂ (Frame.Like e) r.outer outer
  groups : r'.groups = r.groups + before
  names : r'.names = r.names
  eq : e → r'.flags = r.flags ∧ r'.branches = r.branches ∧ r'.items = r.items

end Like

theorem Flags.setAll_withDot (f : Flags) (b : Bool) (changes : List (Flag × Bool)) :
    ∃ b', (f.withDot b).setAll changes = (f.setAll changes).withDot b' := by
  induction changes generalizing f b with
  | nil => exact ⟨b, rfl⟩
  | cons change changes ih =>
    obtain ⟨flag, on⟩ := change
    have hset : ∃ b', (f.withDot b).set flag on = (f.set flag on).withDot b' := by
      cases flag with
      | dotAll => exact ⟨on, rfl⟩
      | ignoreCase | multiLine | swapGreed | allScripts | returns | verbose => exact ⟨b, rfl⟩
    obtain ⟨b', hset⟩ := hset
    obtain ⟨b'', hall⟩ := ih (f.set flag on) b'
    refine ⟨b'', ?_⟩
    rw [setAll, List.foldl_cons, hset]
    exact hall

/-- Flags that are the same but for dots. -/
theorem Flags.eq_withDot {f f' : Flags} {b : Bool} (h : f' = f.withDot b) :
    f' = f.withDot f'.dotAll := by
  subst h
  rfl

namespace Reader

variable {e : Prop} {below : List Frame} {before : Nat} {r r' r₁ : Reader}

namespace Like

theorem setAll (h : Like e below before r r') (changes : List (Flag × Bool)) :
    r'.flags.setAll changes =
      (r.flags.setAll changes).withDot (r'.flags.setAll changes).dotAll := by
  obtain ⟨b, hb⟩ := r.flags.setAll_withDot r'.flags.dotAll changes
  rw [← h.flags] at hb
  exact Flags.eq_withDot hb

theorem push (h : Like e below before r r') {p p' : Piece} (hp : p'.isSetting = p.isSetting)
    (heq : e → p' = p) : Like e below before (r.push p) (r'.push p') where
  flags := h.flags
  items := by simp only [Reader.push, List.map_cons, hp, h.items]
  outer := h.outer
  groups := h.groups
  names := h.names
  eq he := by
    obtain ⟨hflags, hbranches, hitems⟩ := h.eq he
    exact ⟨hflags, hbranches, by rw [Reader.push, Reader.push, heq he, hitems]⟩

/-- The frame of a group that is opened. -/
theorem outer_openGroup (h : Like e below before r r') {index index' : Option Nat}
    (hindex : e → index' = index) :
    ∃ outer, (⟨index', r'.flags, r'.branches, r'.items⟩ :: r'.outer : List Frame) = outer ++ below ∧
      List.Forall₂ (Frame.Like e) (⟨index, r.flags, r.branches, r.items⟩ :: r.outer) outer := by
  obtain ⟨outer, houter, hframes⟩ := h.outer
  refine ⟨⟨index', r'.flags, r'.branches, r'.items⟩ :: outer, by rw [houter]; rfl,
    .cons ⟨h.flags, h.items, fun he => ?_⟩ hframes⟩
  obtain ⟨hflags, hbranches, hitems⟩ := h.eq he
  rw [hindex he, hflags, hbranches, hitems]

theorem openGroup (h : Like e below before r r') (changes : List (Flag × Bool)) :
    Like e below before (r.openGroup none (r.flags.setAll changes))
      (r'.openGroup none (r'.flags.setAll changes)) where
  flags := h.setAll changes
  items := rfl
  outer := h.outer_openGroup fun _ => rfl
  groups := h.groups
  names := h.names
  eq he := ⟨by rw [Reader.openGroup, Reader.openGroup, (h.eq he).1], rfl, rfl⟩

/-- Groups that capture are numbered differently by the two readers. -/
theorem openCapture (h : Like e below before r r') (he : ¬ e) :
    Like e below before r.openCapture r'.openCapture where
  flags := h.flags
  items := rfl
  outer := h.outer_openGroup fun he' => absurd he' he
  groups := by
    simp only [Reader.openCapture, h.groups]
    omega
  names := h.names
  eq he' := absurd he' he

theorem set (h : Like e below before r r') (changes : List (Flag × Bool)) :
    Like e below before { r with flags := r.flags.setAll changes }
      { r' with flags := r'.flags.setAll changes } where
  flags := h.setAll changes
  items := h.items
  outer := h.outer
  groups := h.groups
  names := h.names
  eq he := ⟨by rw [(h.eq he).1], (h.eq he).2⟩

theorem inner_eq (h : Like e below before r r') (he : e) : r'.inner = r.inner := by
  obtain ⟨-, hbranches, hitems⟩ := h.eq he
  rw [inner, inner, hbranches, hitems]

theorem closeGroup? (h : Like e below before r r') (hm : r.closeGroup? = some r₁) :
    ∃ r₁', r'.closeGroup? = some r₁' ∧ Like e below before r₁ r₁' := by
  obtain ⟨frame, rest, hr, rfl⟩ := closeGroup?_eq_some.mp hm
  obtain ⟨outer, houter, hframes⟩ := h.outer
  rw [hr] at hframes
  obtain ⟨frame', rest', hframe, hrest, rfl⟩ := List.forall₂_cons_left_iff.mp hframes
  refine ⟨_, closeGroup?_eq_some.mpr ⟨frame', rest' ++ below, houter, rfl⟩, hframe.flags, ?_,
    ⟨_, rfl, hrest⟩, h.groups, h.names, fun he => ?_⟩
  · simp only [List.map_cons, hframe.items]
  · rw [hframe.eq he, h.inner_eq he]
    exact ⟨rfl, rfl, rfl⟩

theorem repeatLast? (h : Like e below before r r') {min : Nat} {max : Option Nat} {greedy : Bool}
    (hm : r.repeatLast? min max greedy = some r₁) :
    ∃ r₁', r'.repeatLast? min max greedy = some r₁' ∧ Like e below before r₁ r₁' := by
  obtain ⟨p, items, hr, hsetting, rfl⟩ := repeatLast?_eq_some.mp hm
  have hswap : r'.flags.swapGreed = r.flags.swapGreed := by
    rw [h.flags]
    rfl
  have hitems := h.items
  rw [hr] at hitems
  obtain ⟨p', items', hr', hp, hitems⟩ := List.map_eq_cons_iff.mp hitems
  refine ⟨_, repeatLast?_eq_some.mpr ⟨p', items', hr', hp.trans hsetting, rfl⟩, h.flags, ?_,
    h.outer, h.groups, h.names, fun he => ?_⟩
  · simp only [List.map_cons, hitems]
    rfl
  · obtain ⟨hflags, hbranches, hitems⟩ := h.eq he
    rw [hr, hr'] at hitems
    obtain ⟨rfl, rfl⟩ := List.cons.inj hitems
    exact ⟨hflags, hbranches, by rw [hswap]⟩

/-- **A move that the one reader can make, the other can make too**, and they stay alike; under `e`,
if it opens no group that captures. -/
theorem make? (h : Like e below before r r') {m : Move} (hm : r.make? m = some r₁)
    (he : e → r₁.groups = r.groups) :
    ∃ r₁', r'.make? m = some r₁' ∧ Like e below before r₁ r₁' := by
  cases m with
  | push p =>
    obtain rfl := Option.some.inj hm
    exact ⟨_, rfl, h.push rfl fun _ => rfl⟩
  | dot =>
    obtain rfl := Option.some.inj hm
    exact ⟨_, rfl, h.push rfl fun he' => by rw [(h.eq he').1]⟩
  | set changes =>
    obtain rfl := Option.some.inj hm
    exact ⟨_, rfl, (h.set changes).push rfl fun _ => rfl⟩
  | openGroup changes =>
    obtain rfl := Option.some.inj hm
    exact ⟨_, rfl, h.openGroup changes⟩
  | openCapture name =>
    obtain ⟨hname, rfl⟩ := make?_openCapture.mp hm
    have hopen := h.openCapture fun he' => by simpa [Reader.openCapture] using he he'
    rw [← h.names] at hname
    exact ⟨_, make?_openCapture.mpr ⟨hname, rfl⟩, hopen.flags, hopen.items, hopen.outer,
      hopen.groups, by simp only [h.names], hopen.eq⟩
  | closeGroup => exact h.closeGroup? hm
  | branch =>
    obtain rfl := Option.some.inj hm
    refine ⟨_, rfl, h.flags, rfl, h.outer, h.groups, h.names, fun he' => ?_⟩
    obtain ⟨hflags, hbranches, hitems⟩ := h.eq he'
    exact ⟨hflags, by rw [Reader.branch, Reader.branch, hitems, hbranches], rfl⟩
  | repeatLast min max greedy => exact h.repeatLast? hm

end Like

theorem skip_of_closing {tail : List Char} (hz : Closing tail) (f : Flags) :
    f.skip tail = tail := by
  unfold Flags.skip
  split
  · rcases hz.eq_nil_or_cons with rfl | ⟨more, rfl⟩
    · rfl
    · rfl
  · rfl

/-- What comes of a text in another place, with `tail` after it: the reader that has read it goes on
with `tail`, or a comment at its end has taken `tail` in. -/
theorem Reads.like_of_goesOn {tail : List Char} (hz : Closing tail) {cs : List Char}
    (h : Reads r cs r₁) (hlike : Like e below before r r') (he : e → r₁.groups = r.groups)
    {cs' : List Char} (hgo : GoesOn tail cs cs') :
    ∃ r₁', Like e below before r₁ r₁' ∧
      ((∀ r₂, Reads r₁' tail r₂ → Reads r' cs' r₂) ∨ Reads r' cs' r₁') := by
  induction h generalizing r' cs' with
  | @done r cs hskip =>
    have hflags : r'.flags.skip = r.flags.skip := by rw [hlike.flags, Flags.skip_withDot]
    refine ⟨r', hlike, ?_⟩
    rcases hskip ▸ r.flags.goesOn_skip hz hgo with hskip' | hskip'
    · refine .inl fun r₂ hr₂ => hr₂.of_skip ?_
      rw [hflags, hskip', skip_of_closing hz]
      rfl
    · exact .inr (.done (by rw [hflags, hskip']))
  | @next r r₁ r₂ cs more rest c hskip hnext hrest ih =>
    have hflags : r'.flags.skip = r.flags.skip := by rw [hlike.flags, Flags.skip_withDot]
    obtain ⟨more', hskip', hmore⟩ : ∃ more', r.flags.skip cs' = c :: more' ∧
        GoesOn tail more more' := by
      rcases hskip ▸ r.flags.goesOn_skip hz hgo with hskip' | hskip'
      · exact ⟨more ++ tail, hskip', .inl rfl⟩
      · exact ⟨more, hskip', .inr rfl⟩
    obtain ⟨m, hread, hmake⟩ := readNext?_eq_some.mp hnext
    have hgroups := groups_make? hmake
    have hgroups' := hrest.groups_le
    obtain ⟨rest', hread', hgo'⟩ := (Move.read?_readsOn hz r.flags c).of_goesOn hmore hread
    obtain ⟨r₁', hmake', hlike'⟩ := hlike.make? hmake fun he' => by
      have := he he'
      omega
    have hnext' : r'.readNext? c more' = some (r₁', rest') := by
      refine readNext?_eq_some.mpr ⟨m, ?_, hmake'⟩
      rw [hlike.flags, Move.read?_withDot]
      exact hread'
    obtain ⟨r₂', hlike₂, hrest'⟩ := ih hlike' (fun he' => by have := he he'; omega) hgo'
    have hstep : r'.flags.skip cs' = c :: more' := by rw [hflags, hskip']
    exact ⟨r₂', hlike₂, hrest'.imp (fun h r₃ hr₃ => .next hstep hnext' (h r₃ hr₃))
      (.next hstep hnext')⟩

theorem Like.length_outer (h : Like e below before r r') :
    r'.outer.length = r.outer.length + below.length := by
  obtain ⟨outer, houter, hframes⟩ := h.outer
  rw [houter, List.length_append, hframes.length_eq]

/-- **A text is read alike in another place**, if that text does not take in what follows it. -/
theorem Reads.like {tail : List Char} (hz : Closing tail) {cs : List Char}
    (h : Reads r cs r₁) (hlike : Like e below before r r') (he : e → r₁.groups = r.groups)
    {r₂ : Reader} (h₂ : Reads r' (cs ++ tail) r₂)
    (hopen : r₂.outer.length < r₁.outer.length + below.length) :
    ∃ r₁', Like e below before r₁ r₁' ∧ ∀ r₂, Reads r₁' tail r₂ → Reads r' (cs ++ tail) r₂ := by
  obtain ⟨r₁', hlike', hgo | hend⟩ := h.like_of_goesOn hz hlike he (.inl rfl)
  · exact ⟨r₁', hlike', hgo⟩
  · obtain rfl := h₂.unique hend
    exact absurd hlike'.length_outer hopen.ne

end Reader

end SearchQuery.Pattern
