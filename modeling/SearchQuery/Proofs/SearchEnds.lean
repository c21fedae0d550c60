import Mathlib.Algebra.GroupWithZero.Nat
import Mathlib.Data.Finset.Prod
import Mathlib.Order.Interval.Finset.Nat
import SearchQuery.Proofs.Cuts

/-!
# Every search comes to an end

A search has steps for every point of the text, and this module shows that they are enough: a
match is not missed because the steps run out.

* A plan numbers its choices below the next free number (`Pattern.plan_below`), and so do all tasks
  that come out of it (`Way.step_below`). So there are only so many choices at points of the text,
  and each is made once (`Visited.free`).
* Between two choices a way only does what is left to it (`Task.effort`). A choice leaves two ways,
  but each of them has no more left than a way can ever have (`Task.peak`, `Way.step_peak`).
* So every step lowers `Search.potential` (`Search.potential_step`), which bounds the number of
  steps (`Search.exists_run`).

The main statement is `Pattern.match?_eq_iff_run`: what a search finds, after however many steps,
is the match.
-/

namespace SearchQuery

/-! ## The numbers of choices -/

namespace Plan

/-- All choices of the plan have numbers below `n`, after they have been moved up by `shift`. -/
def Below (n : Nat) : Plan → Nat → Prop
  | empty, _ | one _, _ | anchor _, _ => True
  | seq p q, shift => p.Below n shift ∧ q.Below n shift
  | alt id p q, shift => id + shift < n ∧ p.Below n shift ∧ q.Below n shift
  | group _ p, shift => p.Below n shift
  | run id _, shift => id + shift < n
  | star id _ p, shift => id + shift < n ∧ p.Below n shift
  | atLeast before width id _ p, shift =>
    id + shift < n ∧ ∀ i ≤ before, p.Below n (shift + i * width)
  | bounded min extra width id _ p, shift =>
    id + shift + extra ≤ n ∧ ∀ i < min + extra, p.Below n (shift + i * width)

end Plan

namespace Pattern

/-- The bounds of all repetitions are in order. -/
def Ordered : Pattern → Prop
  | empty | one _ | anchor _ => True
  | seq p q | alt p q => p.Ordered ∧ q.Ordered
  | repeated min max _ p => (∀ m ∈ max, min ≤ m) ∧ p.Ordered
  | group _ p => p.Ordered

theorem below_optionalLoop {n id width shift : Nat} (greedy : Bool) {body : Plan}
    (hbody : body.Below n shift) (hid : id + 1 + shift < n) :
    (optionalLoop id width greedy body).Below n shift := by
  have hloop : ∀ i ≤ 0, body.Below n (shift + i * width) := by
    intro i hi
    obtain rfl := Nat.le_zero.mp hi
    simpa using hbody
  have hid' : id + shift < n := by omega
  unfold optionalLoop
  split
  · exact ⟨hid', ⟨hid, hloop⟩, trivial⟩
  · exact ⟨hid', trivial, hid, hloop⟩

/-- **The choices of a plan have numbers below the next free one.** -/
theorem plan_below {p : Pattern} (h : p.Ordered) (next : Nat) :
    next ≤ (p.plan next).2 ∧
      ∀ n shift, (p.plan next).2 + shift ≤ n → (p.plan next).1.Below n shift := by
  induction p generalizing next with
  | empty | one s | anchor a => exact ⟨Nat.le_refl _, fun _ _ _ => trivial⟩
  | seq p q ihp ihq =>
    obtain ⟨hp, hpb⟩ := ihp h.1 next
    obtain ⟨hq, hqb⟩ := ihq h.2 (p.plan next).2
    refine ⟨Nat.le_trans hp hq, fun n shift hn => ⟨hpb n shift ?_, hqb n shift hn⟩⟩
    simp only [plan] at hn
    omega
  | alt p q ihp ihq =>
    obtain ⟨hp, hpb⟩ := ihp h.1 (next + 1)
    obtain ⟨hq, hqb⟩ := ihq h.2 (p.plan (next + 1)).2
    refine ⟨?_, fun n shift hn => ⟨?_, hpb n shift ?_, hqb n shift hn⟩⟩ <;>
      simp only [plan] at * <;> omega
  | group i p ih => exact ih h next
  | repeated min max greedy p ih =>
    obtain ⟨hle, hbody⟩ := ih h.2 next
    -- The copies of the body have numbers of their own, each `width` above the last.
    have hcopies (count : Nat) {n shift : Nat}
        (hn : next + count * ((p.plan next).2 - next) + shift ≤ n) (i : Nat) (hi : i < count) :
        (p.plan next).1.Below n (shift + i * ((p.plan next).2 - next)) := by
      have hmul := Nat.mul_le_mul_right ((p.plan next).2 - next) (Nat.succ_le_of_lt hi)
      rw [Nat.succ_mul] at hmul
      exact hbody _ _ (by omega)
    rw [plan.eq_def]
    simp only
    split
    · next max =>
      have hmax : min ≤ max := h.1 max rfl
      refine ⟨by simp only; omega, fun n shift hn => ⟨by simp only at hn; omega, fun i hi => ?_⟩⟩
      simp only at hn
      exact hcopies max (by omega) i (by omega)
    · exact ⟨Nat.le_succ _, fun n shift hn => by simp only [Plan.Below] at *; omega⟩
    · refine ⟨Nat.le_succ _, fun n shift hn => ?_⟩
      simp only [Plan.Below] at *
      exact ⟨⟨by omega, fun _ _ => trivial⟩, by omega⟩
    · split
      · refine ⟨by simp only; omega, fun n shift hn => ?_⟩
        simp only at hn
        exact ⟨by omega, hbody n shift (by omega)⟩
      · refine ⟨by simp only; omega, fun n shift hn => ?_⟩
        simp only at hn
        exact below_optionalLoop _ (hbody n shift (by omega)) (by omega)
    · next min _ =>
      refine ⟨by simp only; omega, fun n shift hn => ⟨by simp only at hn; omega, fun i hi => ?_⟩⟩
      simp only at hn
      exact hcopies (min + 1) (by omega) i (by omega)

end Pattern

namespace Task

/-- All choices of the task have numbers below `n`. -/
def Below (n : Nat) : Task → Prop
  | follow p shift => p.Below n shift
  | close _ _ | giveBack _ _ => True
  | copies count shift width p => ∀ i < count, p.Below n (shift + i * width)
  | upTo count shift width id _ p =>
    id + count ≤ n ∧ ∀ i < count, p.Below n (shift + i * width)
  | again shift id _ p => id < n ∧ p.Below n shift

end Task

namespace Way

variable {n : Nat} {v : Visited} {t : Thread} {task : Task} {rest : List Task} {w : Way}

/-- Of copies, the first has the numbers that are not moved up, and the others those after it. -/
theorem below_copies {count shift width : Nat} {p : Plan}
    (h : ∀ i < count + 1, p.Below n (shift + i * width)) :
    p.Below n shift ∧ ∀ i < count, p.Below n (shift + width + i * width) := by
  refine ⟨by simpa using h 0 (Nat.succ_pos _), fun i hi => ?_⟩
  have := h (i + 1) (Nat.succ_lt_succ hi)
  rwa [Nat.succ_mul, Nat.add_comm (i * width), ← Nat.add_assoc] at this

theorem tasks_step_one {s : CharSet} {shift : Nat}
    (hw : w ∈ (step v t (.follow (.one s) shift) rest).1) : w.tasks = rest := by
  cases htext : t.rest with
  | nil => simp [step, htext] at hw
  | cons c cs =>
    simp only [step, htext] at hw
    split at hw
    · obtain rfl := List.mem_singleton.mp hw
      rfl
    · simp at hw

theorem tasks_step_anchor {a : Anchor} {shift : Nat}
    (hw : w ∈ (step v t (.follow (.anchor a) shift) rest).1) : w.tasks = rest := by
  simp only [step] at hw
  split at hw
  · obtain rfl := List.mem_singleton.mp hw
    rfl
  · simp at hw

theorem step_follow_below {p : Plan} {shift : Nat} (hp : p.Below n shift)
    (hrest : ∀ task ∈ rest, task.Below n) (hw : w ∈ (step v t (.follow p shift) rest).1) :
    ∀ task ∈ w.tasks, task.Below n := by
  cases p with
  | empty =>
    obtain rfl := List.mem_singleton.mp hw
    exact hrest
  | one s => rwa [tasks_step_one hw]
  | anchor a => rwa [tasks_step_anchor hw]
  | seq p q =>
    obtain rfl := List.mem_singleton.mp hw
    exact List.forall_mem_cons.mpr ⟨hp.1, List.forall_mem_cons.mpr ⟨hp.2, hrest⟩⟩
  | alt id p q =>
    rcases mem_choose hw with rfl | rfl
    · exact List.forall_mem_cons.mpr ⟨hp.2.1, hrest⟩
    · exact List.forall_mem_cons.mpr ⟨hp.2.2, hrest⟩
  | group i p =>
    obtain rfl := List.mem_singleton.mp hw
    exact List.forall_mem_cons.mpr ⟨hp, List.forall_mem_cons.mpr ⟨trivial, hrest⟩⟩
  | run id s =>
    obtain ⟨-, htasks | ⟨taken, htasks⟩⟩ := mem_followRun hw
    · rwa [htasks]
    · rw [htasks]
      exact List.forall_mem_cons.mpr ⟨trivial, hrest⟩
  | star id greedy p =>
    obtain rfl := List.mem_singleton.mp hw
    exact List.forall_mem_cons.mpr ⟨hp, hrest⟩
  | atLeast before width id greedy p =>
    obtain rfl := List.mem_singleton.mp hw
    obtain ⟨hid, hcopies⟩ := hp
    have hlast := hcopies before (Nat.le_refl _)
    exact List.forall_mem_cons.mpr ⟨fun i hi => hcopies i (Nat.le_of_lt hi),
      List.forall_mem_cons.mpr ⟨hlast, List.forall_mem_cons.mpr ⟨⟨hid, hlast⟩, hrest⟩⟩⟩
  | bounded min extra width id greedy p =>
    obtain rfl := List.mem_singleton.mp hw
    obtain ⟨hid, hcopies⟩ := hp
    refine List.forall_mem_cons.mpr ⟨fun i hi => hcopies i (by omega),
      List.forall_mem_cons.mpr ⟨⟨hid, fun i hi => ?_⟩, hrest⟩⟩
    have := hcopies (min + i) (by omega)
    rwa [Nat.add_mul, ← Nat.add_assoc] at this

/-- **A step leads only to choices of the plan.** -/
theorem step_below (h : ∀ task' ∈ task :: rest, task'.Below n)
    (hw : w ∈ (step v t task rest).1) : ∀ task' ∈ w.tasks, task'.Below n := by
  obtain ⟨htask, hrest⟩ := List.forall_mem_cons.mp h
  cases task with
  | follow p shift => exact step_follow_below htask hrest hw
  | close index start =>
    obtain rfl := List.mem_singleton.mp hw
    exact hrest
  | giveBack taken before =>
    cases taken with
    | nil => simp [step] at hw
    | cons c taken =>
      simp only [step, List.mem_cons, List.not_mem_nil, or_false] at hw
      rcases hw with rfl | rfl
      · exact hrest
      · exact List.forall_mem_cons.mpr ⟨trivial, hrest⟩
  | copies count shift width p =>
    cases count with
    | zero =>
      obtain rfl := List.mem_singleton.mp hw
      exact hrest
    | succ count =>
      obtain rfl := List.mem_singleton.mp hw
      obtain ⟨hfirst, hothers⟩ := below_copies htask
      exact List.forall_mem_cons.mpr ⟨hfirst, List.forall_mem_cons.mpr ⟨hothers, hrest⟩⟩
  | upTo count shift width id greedy p =>
    cases count with
    | zero =>
      obtain rfl := List.mem_singleton.mp hw
      exact hrest
    | succ count =>
      obtain ⟨hid, hcopies⟩ := htask
      obtain ⟨hfirst, hothers⟩ := below_copies hcopies
      rcases mem_choose hw with rfl | rfl
      · exact List.forall_mem_cons.mpr
          ⟨hfirst, List.forall_mem_cons.mpr ⟨⟨by omega, hothers⟩, hrest⟩⟩
      · exact hrest
  | again shift id greedy p =>
    rcases mem_choose hw with rfl | rfl
    · exact List.forall_mem_cons.mpr ⟨htask.2, List.forall_mem_cons.mpr ⟨htask, hrest⟩⟩
    · exact hrest

end Way

/-! ## Choices that are still free -/

namespace Visited

theorem contains_insert (v : Visited) (id pos count id' pos' : Nat) :
    (v.insert id pos count).contains id' pos' =
      (v.contains id' pos' || (id == id' && decide (pos ≤ pos' ∧ pos' < pos + count))) := by
  unfold contains
  by_cases hid : id = id'
  · subst hid
    have hpoints : (v.insert id pos count).points id =
        v.points id ||| ((2 ^ count - 1) <<< pos) := by
      simp [points, insert]
    rw [hpoints, Nat.testBit_or, Nat.testBit_shiftLeft, Nat.testBit_two_pow_sub_one]
    by_cases hpos : pos ≤ pos'
    · have : pos' - pos < count ↔ pos' < pos + count := by omega
      simp [hpos, this]
    · simp [hpos]
  · rw [points_insert_of_ne v hid]
    simp [hid]

/-- How many choices below `n`, at points of a text of length `len`, have not been made. -/
def free (v : Visited) (n len : Nat) : Nat :=
  ((Finset.range n ×ˢ Finset.range (len + 1)).filter fun x => v.contains x.1 x.2 = false).card

theorem free_empty (n len : Nat) : empty.free n len = n * (len + 1) := by
  simp [free, contains_empty]

/-- A choice that is made at new points takes these from the free ones. -/
theorem free_insert {v : Visited} {n len id pos count : Nat} (hid : id < n)
    (hlen : pos + count ≤ len + 1)
    (hnew : ∀ i, pos ≤ i → i < pos + count → v.contains id i = false) :
    (v.insert id pos count).free n len + count = v.free n len := by
  have hsub : ({id} ×ˢ Finset.Ico pos (pos + count) : Finset (Nat × Nat)) ⊆
      (Finset.range n ×ˢ Finset.range (len + 1)).filter fun x => v.contains x.1 x.2 = false := by
    intro x hx
    obtain ⟨hx₁, hx₂⟩ := Finset.mem_product.mp hx
    rw [Finset.mem_singleton] at hx₁
    rw [Finset.mem_Ico] at hx₂
    simp only [Finset.mem_filter, Finset.mem_product, Finset.mem_range]
    exact ⟨⟨hx₁ ▸ hid, by omega⟩, hx₁ ▸ hnew x.2 hx₂.1 hx₂.2⟩
  have hcard := Finset.card_sdiff_add_card_eq_card hsub
  rw [Finset.card_product, Finset.card_singleton, Nat.card_Ico, Nat.one_mul,
    Nat.add_sub_cancel_left] at hcard
  unfold free
  rw [← hcard]
  congr 2
  ext x
  simp only [Finset.mem_filter, Finset.mem_sdiff, Finset.mem_product, Finset.mem_singleton,
    Finset.mem_Ico, contains_insert, Bool.or_eq_false_iff]
  grind

end Visited

/-! ## What is left to a way -/

namespace Task

/-- The steps that the task takes up to its first choice, or that its parts take. -/
def weight : Task → Nat
  | follow p _ => p.steps
  | close _ _ | again _ _ _ _ => 1
  | giveBack _ _ => 0
  | copies count _ _ p | upTo count _ _ _ _ p => count * (p.steps + 1) + 1

/-- The most that the task can weigh, with all that it is replaced by. -/
def peakWeight : Task → Nat
  | again _ _ _ p => p.steps + 1
  | task => task.weight

/-- The steps that are left to a way with these tasks, apart from new choices. Each character that
is given back is one more way through the tasks after it. -/
def effort : List Task → Nat
  | [] => 1
  | giveBack taken _ :: rest => taken.length * (effort rest + 1) + 1
  | task :: rest => task.weight + effort rest

/-- The most that is ever left to a way that has had these tasks. -/
def peak : List Task → Nat
  | [] => 1
  | giveBack _ _ :: rest => peak rest
  | task :: rest => max (task.peakWeight + effort rest) (peak rest)

theorem effort_pos (tasks : List Task) : 0 < effort tasks := by
  induction tasks with
  | nil => exact Nat.one_pos
  | cons task rest ih => cases task <;> simp only [effort] <;> omega

end Task

namespace Way

variable {v : Visited} {t : Thread} {task : Task} {rest : List Task} {w : Way}

theorem step_follow_peak {p : Plan} {shift : Nat}
    (hw : w ∈ (step v t (.follow p shift) rest).1) :
    Task.peak w.tasks ≤ Task.peak (.follow p shift :: rest) := by
  cases p with
  | empty =>
    obtain rfl := List.mem_singleton.mp hw
    exact Nat.le_max_right ..
  | one s =>
    rw [tasks_step_one hw]
    exact Nat.le_max_right ..
  | anchor a =>
    rw [tasks_step_anchor hw]
    exact Nat.le_max_right ..
  | alt id p q =>
    rcases mem_choose hw with rfl | rfl <;>
      simp only [Task.peak, Task.peakWeight, Task.weight, Plan.steps] <;> omega
  | run id s =>
    obtain ⟨-, htasks | ⟨taken, htasks⟩⟩ := mem_followRun hw <;> rw [htasks]
    · exact Nat.le_max_right ..
    · exact Nat.le_max_right ..
  | seq p q | group i p | star id greedy p | atLeast before width id greedy p
  | bounded min extra width id greedy p =>
    obtain rfl := List.mem_singleton.mp hw
    simp only [Task.peak, Task.effort, Task.peakWeight, Task.weight, Plan.steps, Nat.add_mul]
    omega

/-- **A step never leaves a way more than it can have.** -/
theorem step_peak (hw : w ∈ (step v t task rest).1) :
    Task.peak w.tasks ≤ Task.peak (task :: rest) := by
  cases task with
  | follow p shift => exact step_follow_peak hw
  | close index start =>
    obtain rfl := List.mem_singleton.mp hw
    exact Nat.le_max_right ..
  | giveBack taken before =>
    cases taken with
    | nil => simp [step] at hw
    | cons c taken =>
      simp only [step, List.mem_cons, List.not_mem_nil, or_false] at hw
      rcases hw with rfl | rfl <;> exact Nat.le_refl _
  | copies count shift width p =>
    cases count with
    | zero =>
      obtain rfl := List.mem_singleton.mp hw
      exact Nat.le_max_right ..
    | succ count =>
      obtain rfl := List.mem_singleton.mp hw
      simp only [Task.peak, Task.effort, Task.peakWeight, Task.weight, Nat.add_mul]
      omega
  | upTo count shift width id greedy p =>
    cases count with
    | zero =>
      obtain rfl := List.mem_singleton.mp hw
      exact Nat.le_max_right ..
    | succ count =>
      rcases mem_choose hw with rfl | rfl
      · simp only [Task.peak, Task.effort, Task.peakWeight, Task.weight, Nat.add_mul]
        omega
      · exact Nat.le_max_right ..
  | again shift id greedy p =>
    rcases mem_choose hw with rfl | rfl
    · simp only [Task.peak, Task.effort, Task.peakWeight, Task.weight]
      omega
    · exact Nat.le_max_right ..

/-- A run of characters ends before a point where it has been. -/
theorem takeRun_new (s : CharSet) (seen : Nat) (t : Thread) (text taken : List Char) :
    ∀ i, t.pos < i → i ≤ (takeRun s seen t text taken).1.pos → seen.testBit i = false := by
  fun_induction takeRun s seen t text taken with
  | case1 t taken => exact fun i hlt hle => absurd hle (Nat.not_le.mpr hlt)
  | case2 t c text taken hc ih =>
    intro i hlt hle
    by_cases hi : i = t.pos + 1
    · subst hi
      simp only [Bool.and_eq_true, Bool.or_eq_true, beq_iff_eq, Bool.not_eq_true'] at hc
      rcases hc.2 with rfl | hc
      · exact Nat.zero_testBit _
      · exact hc
    · exact ih i (by simp only [Thread.advance]; omega) hle
  | case3 t c text taken hc => exact fun i hlt hle => absurd hle (Nat.not_le.mpr hlt)

end Way

/-! ## The number of steps -/

namespace Search

/-- A bound on the number of steps that are left: every way takes the steps that are left to it, and
every choice that can still be made adds at most `bound` to them. -/
def potential (n len bound : Nat) (v : Visited) (ways : List Way) : Nat :=
  v.free n len * (bound + 1) + (ways.map fun w => Task.effort w.tasks).sum

variable {n len bound : Nat} {v : Visited} {t : Thread} {task : Task} {tasks rest : List Task}

theorem potential_cons (w : Way) (ways : List Way) :
    potential n len bound v (w :: ways) = Task.effort w.tasks + potential n len bound v ways := by
  simp only [potential, List.map_cons, List.sum_cons]
  omega

theorem potential_lt_of_singleton {t' : Thread} {tasks' : List Task}
    (h : Task.effort tasks' < Task.effort tasks) (stack : List Way) :
    potential n len bound v ([⟨t', tasks'⟩] ++ stack) <
      potential n len bound v (⟨t, tasks⟩ :: stack) := by
  rw [List.singleton_append, potential_cons, potential_cons]
  exact Nat.add_lt_add_right h _

theorem potential_lt_of_nil (stack : List Way) :
    potential n len bound v ([] ++ stack) < potential n len bound v (⟨t, tasks⟩ :: stack) := by
  rw [List.nil_append, potential_cons]
  exact Nat.lt_add_of_pos_left (Task.effort_pos tasks)

/-- A choice is paid by the choice that is no longer free. -/
theorem potential_choose {id : Nat} (greedy : Bool) {more : List Task} (hid : id < n)
    (hpos : t.pos ≤ len)
    (hcost : Task.effort more + Task.effort rest ≤ Task.effort tasks + bound) (stack : List Way) :
    potential n len bound (Way.choose v t id greedy more rest).2
        ((Way.choose v t id greedy more rest).1 ++ stack) <
      potential n len bound v (⟨t, tasks⟩ :: stack) := by
  unfold Way.choose
  split
  · exact potential_lt_of_nil stack
  · next hnew =>
    have hfree : (v.insert id t.pos 1).free n len + 1 = v.free n len := by
      refine Visited.free_insert hid (by omega) fun i hle hlt => ?_
      obtain rfl : i = t.pos := by omega
      simpa using hnew
    have hways : potential n len bound (v.insert id t.pos 1)
        ((if greedy = true then [⟨t, more⟩, ⟨t, rest⟩] else [⟨t, rest⟩, ⟨t, more⟩]) ++ stack) =
        Task.effort more + Task.effort rest +
          potential n len bound (v.insert id t.pos 1) stack := by
      split <;> simp only [List.cons_append, List.nil_append, potential_cons] <;> omega
    simp only [hways, potential_cons]
    simp only [potential, ← hfree, Nat.add_mul]
    omega

/-- A run is paid by its points, which are all free. -/
theorem potential_followRun {id : Nat} {s : CharSet} {text : List Char} (hid : id < n)
    (ht : t.InText text) (hcost : 1 + Task.effort rest ≤ bound)
    (htasks : Task.effort tasks = 1 + Task.effort rest) (stack : List Way) :
    potential n text.length bound (Way.followRun v t id s rest).2
        ((Way.followRun v t id s rest).1 ++ stack) <
      potential n text.length bound v (⟨t, tasks⟩ :: stack) := by
  unfold Way.followRun
  split
  · exact potential_lt_of_nil stack
  · next hnew =>
    obtain ⟨m, hm, hpos, -, htaken⟩ := Way.takeRun_spec s (v.points id) t t.rest [] rfl
    have hlen : (Way.takeRun s (v.points id) t t.rest []).2.length = m := by
      rw [htaken]
      simp [hm]
    have hrest : t.rest.length = text.length - t.pos := by rw [ht.rest_eq, List.length_drop]
    have hle := ht.pos_le
    have hfree : (v.insert id t.pos (m + 1)).free n text.length + (m + 1) =
        v.free n text.length := by
      refine Visited.free_insert hid (by omega) fun i hle hlt => ?_
      by_cases hi : i = t.pos
      · subst hi
        simpa using hnew
      · exact Way.takeRun_new s (v.points id) t t.rest [] i (by omega) (by omega)
    have hmul : m * (Task.effort rest + 1) ≤ m * bound := Nat.mul_le_mul_left m (by omega)
    simp only [hlen, List.cons_append, List.nil_append, potential_cons, htasks, Task.effort]
    simp only [potential, ← hfree, Nat.add_mul, Nat.mul_add]
    simp only [Nat.mul_add] at hmul
    omega

end Search

/-- A way in the text that makes choices below `n` only, and to which never more than `bound` is
left. -/
structure Way.Bounded (text : List Char) (n bound : Nat) (w : Way) : Prop where
  inText : w.InText text
  below : ∀ task ∈ w.tasks, task.Below n
  peak : Task.peak w.tasks ≤ bound

theorem Way.Bounded.step {text : List Char} {n bound : Nat} {v : Visited} {t : Thread}
    {task : Task} {rest : List Task} (h : Bounded text n bound ⟨t, task :: rest⟩) {w : Way}
    (hw : w ∈ (Way.step v t task rest).1) : w.Bounded text n bound where
  inText := step_inText v h.inText w hw
  below := step_below h.below hw
  peak := Nat.le_trans (step_peak hw) h.peak

namespace Search

variable {text : List Char} {n bound : Nat} {v : Visited} {t : Thread} {task : Task}
  {rest : List Task}

theorem potential_step_follow {p : Plan} {shift : Nat}
    (h : Way.Bounded text n bound ⟨t, .follow p shift :: rest⟩) (stack : List Way) :
    potential n text.length bound (Way.step v t (.follow p shift) rest).2
        ((Way.step v t (.follow p shift) rest).1 ++ stack) <
      potential n text.length bound v (⟨t, .follow p shift :: rest⟩ :: stack) := by
  have hbelow : p.Below n shift := h.below _ (List.mem_cons_self ..)
  have hpeak : p.steps + Task.effort rest ≤ bound := Nat.le_trans (Nat.le_max_left ..) h.peak
  cases p with
  | empty => exact potential_lt_of_singleton (by simp [Task.effort, Task.weight, Plan.steps]) stack
  | one s =>
    cases htext : t.rest with
    | nil =>
      simp only [Way.step, htext]
      exact potential_lt_of_nil stack
    | cons c cs =>
      simp only [Way.step, htext]
      split
      · exact potential_lt_of_singleton (by simp [Task.effort, Task.weight, Plan.steps]) stack
      · exact potential_lt_of_nil stack
  | anchor a =>
    simp only [Way.step]
    split
    · exact potential_lt_of_singleton (by simp [Task.effort, Task.weight, Plan.steps]) stack
    · exact potential_lt_of_nil stack
  | alt id p q =>
    refine potential_choose true hbelow.1 h.inText.thread.pos_le ?_ stack
    simp only [Plan.steps] at hpeak
    simp only [Task.effort, Task.weight, Plan.steps]
    omega
  | run id s => exact potential_followRun hbelow h.inText.thread hpeak rfl stack
  | seq p q | group i p | star id greedy p | atLeast before width id greedy p
  | bounded min extra width id greedy p =>
    refine potential_lt_of_singleton ?_ stack
    simp only [Task.effort, Task.weight, Plan.steps, Nat.add_mul]
    omega

/-- **Every step lowers the potential.** -/
theorem potential_step (h : Way.Bounded text n bound ⟨t, task :: rest⟩) (stack : List Way) :
    potential n text.length bound (Way.step v t task rest).2
        ((Way.step v t task rest).1 ++ stack) <
      potential n text.length bound v (⟨t, task :: rest⟩ :: stack) := by
  have hpos : t.pos ≤ text.length := h.inText.thread.pos_le
  have hbelow : task.Below n := h.below _ (List.mem_cons_self ..)
  cases task with
  | follow p shift => exact potential_step_follow h stack
  | close index start =>
    exact potential_lt_of_singleton (by simp [Task.effort, Task.weight]) stack
  | giveBack taken before =>
    cases taken with
    | nil => exact potential_lt_of_nil stack
    | cons c taken =>
      simp only [Way.step, List.cons_append, List.nil_append, potential_cons, Task.effort,
        List.length_cons, Nat.add_mul]
      omega
  | copies count shift width p =>
    cases count <;> refine potential_lt_of_singleton ?_ stack <;>
      simp only [Task.effort, Task.weight, Nat.add_mul] <;> omega
  | upTo count shift width id greedy p =>
    have hpeak : (count * (p.steps + 1) + 1) + Task.effort rest ≤ bound :=
      Nat.le_trans (Nat.le_max_left ..) h.peak
    cases count with
    | zero => exact potential_lt_of_singleton (by simp [Task.effort, Task.weight]) stack
    | succ count =>
      have hid : id + (count + 1) ≤ n := hbelow.1
      refine potential_choose greedy (by omega) hpos ?_ stack
      simp only [Task.effort, Task.weight, Nat.add_mul]
      omega
  | again shift id greedy p =>
    have hpeak : p.steps + 1 + Task.effort rest ≤ bound :=
      Nat.le_trans (Nat.le_max_left ..) h.peak
    refine potential_choose greedy hbelow.1 hpos ?_ stack
    simp only [Task.effort, Task.weight]
    omega

/-- **A search ends within its potential.** -/
theorem exists_run {s : Search} (hs : ∀ w ∈ s.stack, w.Bounded text n bound) {m : Nat}
    (hm : potential n text.length bound s.visited s.stack ≤ m) :
    ∃ found, s.run (m + 1) = .inr found := by
  induction m generalizing s with
  | zero =>
    match s with
    | ⟨v, []⟩ => exact ⟨none, rfl⟩
    | ⟨v, w :: stack⟩ =>
      rw [potential_cons] at hm
      have := Task.effort_pos w.tasks
      omega
  | succ m ih =>
    match s, hs, hm with
    | ⟨v, []⟩, _, _ => exact ⟨none, rfl⟩
    | ⟨v, ⟨t, []⟩ :: stack⟩, _, _ => exact ⟨some t, rfl⟩
    | ⟨v, ⟨t, task :: rest⟩ :: stack⟩, hs, hm =>
      have hw := hs _ (List.mem_cons_self ..)
      have hlt := potential_step (v := v) hw stack
      rw [run_step]
      refine ih (fun w hw' => ?_) (Nat.le_of_lt_succ (Nat.lt_of_lt_of_le hlt hm))
      rcases List.mem_append.mp hw' with hw' | hw'
      · exact hw.step hw'
      · exact hs w (List.mem_cons_of_mem _ hw')

/-- Two runs of one search end alike, for the longer one goes through the end of the shorter. -/
theorem run_unique {s : Search} {m m' : Nat} {found found' : Option Thread}
    (h : s.run m = .inr found) (h' : s.run m' = .inr found') : found = found' := by
  rcases Nat.le_total m m' with hle | hle
  · exact Sum.inr.inj ((run_of_le h hle).symm.trans h')
  · exact Sum.inr.inj (h.symm.trans (run_of_le h' hle))

theorem bounded_start {p : Pattern} (hp : p.Ordered) (text : List Char) :
    ∀ w ∈ (start (p.plan 0).1 text).stack,
      w.Bounded text (p.plan 0).2 ((p.plan 0).1.steps + 1) := by
  intro w hw
  obtain rfl := List.mem_singleton.mp hw
  refine ⟨.of_noneGivesBack (.start text)
    (Way.noneGivesBack_cons (by simp) fun _ _ => List.not_mem_nil), ?_, ?_⟩
  · simpa [Task.Below] using (Pattern.plan_below hp 0).2 _ 0 (Nat.le_refl _)
  · simp [Task.peak, Task.peakWeight, Task.weight, Task.effort]

end Search

namespace Pattern

theorem potential_le_steps (choices len steps : Nat) :
    choices * (len + 1) * (steps + 2) + (steps + 2) ≤ (len + 1) * stepsAtPoint steps choices := by
  have hpoints : (len + 1) * (2 * choices + 2) = 2 * (choices * (len + 1)) + 2 * (len + 1) := by
    rw [Nat.mul_add, Nat.mul_left_comm, Nat.mul_comm (len + 1) choices, Nat.mul_comm (len + 1) 2]
  calc choices * (len + 1) * (steps + 2) + (steps + 2)
      = (choices * (len + 1) + 1) * (steps + 2) := by rw [Nat.succ_mul]
    _ ≤ ((len + 1) * (2 * choices + 2)) * (steps + 2) :=
        Nat.mul_le_mul_right _ (by rw [hpoints]; omega)
    _ = (len + 1) * stepsAtPoint steps choices := Nat.mul_assoc ..

/-- **The steps for a match are enough.** What a search finds, after however many steps, is the
match. -/
theorem match?_eq_iff_run {p : Pattern} (hp : p.Ordered) {text : List Char}
    {found : Option Thread} :
    p.match? text = found ↔ ∃ m, (Search.start (p.plan 0).1 text).run m = .inr found := by
  obtain ⟨found', hrun⟩ := Search.exists_run (Search.bounded_start hp text) (Nat.le_refl _)
  have hsteps : Search.potential (p.plan 0).2 text.length ((p.plan 0).1.steps + 1)
      (Search.start (p.plan 0).1 text).visited (Search.start (p.plan 0).1 text).stack + 1 ≤
      (text.length + 1) * stepsAtPoint (p.plan 0).1.steps (p.plan 0).2 := by
    simp only [Search.potential, Search.start, Visited.free_empty, List.map_cons, List.map_nil,
      List.sum_cons, List.sum_nil, Task.effort, Task.weight]
    exact potential_le_steps (p.plan 0).2 text.length (p.plan 0).1.steps
  have hmatch : p.match? text = found' := match?_of_run _ hrun hsteps
  constructor
  · rintro rfl
    exact ⟨_, hmatch ▸ hrun⟩
  · rintro ⟨m, hm⟩
    rw [hmatch]
    exact Search.run_unique hrun hm

end Pattern

end SearchQuery
