import Mathlib.Data.List.Basic
import SearchQuery.Pattern.Matching

/-!
# Runs of the search for a match

What the search does whatever the pattern:

* `run_add`, `finish_eq_run`: the steps that `finish` takes point by point are one long run, so a
  search that ends within that many steps ends in `finish` too (`finish_of_run`);
* `finish_invariant`: what every step of a way preserves holds of the match;
* `match?_inText`: a match stands in the text, so what it leaves is what comes after as many
  characters as it has taken.
-/

namespace SearchQuery

namespace Search

/-! ## The number of steps -/

theorem run_step (n : Nat) (v : Visited) (t : Thread) (task : Task) (rest : List Task)
    (stack : List Way) :
    run (n + 1) ⟨v, ⟨t, task :: rest⟩ :: stack⟩ =
      run n ⟨(Way.step v t task rest).2, (Way.step v t task rest).1 ++ stack⟩ := rfl

theorem run_add (m n : Nat) (s : Search) :
    run (m + n) s = (run m s).elim (run n) .inr := by
  induction m generalizing s with
  | zero => simp [run]
  | succ m ih =>
    rw [Nat.add_right_comm]
    match s with
    | ⟨_, []⟩ => rfl
    | ⟨_, ⟨_, []⟩ :: _⟩ => rfl
    | ⟨v, ⟨t, task :: rest⟩ :: stack⟩ => rw [run_step, run_step, ih]

/-- A search that has ended goes on to the same end. -/
theorem run_of_le {m n : Nat} {s : Search} {found : Option Thread} (h : run m s = .inr found)
    (hmn : m ≤ n) : run n s = .inr found := by
  obtain ⟨k, rfl⟩ := Nat.exists_eq_add_of_le hmn
  rw [run_add, h]
  rfl

theorem finish_eq_run (n : Nat) (text : List Char) (s : Search) :
    s.finish n text = (run ((text.length + 1) * n) s).elim (fun _ => none) id := by
  induction text generalizing s with
  | nil =>
    rw [List.length_nil, Nat.zero_add, Nat.one_mul, finish]
    cases run n s <;> rfl
  | cons c text ih =>
    rw [List.length_cons, Nat.add_right_comm, Nat.succ_mul, Nat.add_comm _ n, run_add, finish]
    cases run n s with
    | inl s' => exact ih s'
    | inr found => rfl

/-- A search that ends early enough ends in `finish`. -/
theorem finish_of_run {m n : Nat} {text : List Char} {s : Search} {found : Option Thread}
    (h : run m s = .inr found) (hm : m ≤ (text.length + 1) * n) : s.finish n text = found := by
  rw [finish_eq_run, run_of_le h hm]
  rfl

/-! ## Invariants -/

theorem run_invariant {P : Way → Prop}
    (hP : ∀ v t task rest, P ⟨t, task :: rest⟩ → ∀ w ∈ (Way.step v t task rest).1, P w) {n : Nat}
    {s : Search} (hs : ∀ w ∈ s.stack, P w) {t : Thread} (h : run n s = .inr (some t)) :
    P ⟨t, []⟩ := by
  induction n generalizing s with
  | zero => simp [run] at h
  | succ n ih =>
    match s, hs, h with
    | ⟨_, []⟩, _, h => simp [run] at h
    | ⟨_, ⟨t', []⟩ :: _⟩, hs, h =>
      simp only [run, Sum.inr.injEq, Option.some.injEq] at h
      exact h ▸ hs _ (List.mem_cons_self ..)
    | ⟨v, ⟨t', task :: rest⟩ :: stack⟩, hs, h =>
      rw [run_step] at h
      refine ih (fun w hw => ?_) h
      rcases List.mem_append.mp hw with hw | hw
      · exact hP v t' task rest (hs _ (List.mem_cons_self ..)) w hw
      · exact hs w (List.mem_cons_of_mem _ hw)

/-- **What every step of a way preserves holds of the match.** -/
theorem finish_invariant {P : Way → Prop}
    (hP : ∀ v t task rest, P ⟨t, task :: rest⟩ → ∀ w ∈ (Way.step v t task rest).1, P w) {n : Nat}
    {text : List Char} {s : Search} (hs : ∀ w ∈ s.stack, P w) {t : Thread}
    (h : s.finish n text = some t) : P ⟨t, []⟩ := by
  rw [finish_eq_run] at h
  cases hr : run ((text.length + 1) * n) s with
  | inl s' => simp [hr] at h
  | inr found =>
    rw [hr] at h
    obtain rfl : found = some t := h
    exact run_invariant hP hs hr

end Search

/-! ## Threads in the text -/

/-- The thread has as many characters behind it as it counts, and the rest of the text before
it. -/
structure Thread.InText (text : List Char) (t : Thread) : Prop where
  pos_le : t.pos ≤ text.length
  rest_eq : t.rest = text.drop t.pos

namespace Thread.InText

variable {text : List Char} {t : Thread}

theorem start (text : List Char) : (Thread.start text).InText text := ⟨Nat.zero_le _, rfl⟩

theorem advance (h : t.InText text) {m : Nat} (hm : m ≤ t.rest.length) {t' : Thread}
    (hpos : t'.pos = t.pos + m) (hrest : t'.rest = t.rest.drop m) : t'.InText text := by
  have hlen : t.rest.length = text.length - t.pos := by rw [h.rest_eq, List.length_drop]
  have hle := h.pos_le
  refine ⟨by omega, ?_⟩
  rw [hrest, h.rest_eq, List.drop_drop, hpos]

/-- Giving a character back: it is the last of those behind the thread. -/
theorem retreat (h : t.InText text) {c : Char} {taken : List Char} (before : Option Char)
    (hc : (c :: taken).reverse <:+ text.take t.pos) :
    (t.retreat c before).InText text ∧ taken.reverse <:+ text.take (t.retreat c before).pos := by
  obtain ⟨pre, hpre⟩ := hc
  rw [List.reverse_cons, ← List.append_assoc] at hpre
  have hlen : (text.take t.pos).length = t.pos := List.length_take_of_le h.pos_le
  have hpos : t.pos = (pre ++ taken.reverse).length + 1 := by
    rw [← hlen, ← hpre, List.length_append, List.length_singleton]
  have htext : text = (pre ++ taken.reverse) ++ c :: t.rest := by
    rw [h.rest_eq, ← List.singleton_append, ← List.append_assoc, hpre, List.take_append_drop]
  have hretreat : (t.retreat c before).pos = (pre ++ taken.reverse).length := by
    simp only [Thread.retreat]
    omega
  refine ⟨⟨?_, ?_⟩, ?_⟩
  · have := h.pos_le
    omega
  · rw [hretreat]
    conv_rhs => rw [htext]
    rw [List.drop_left]
    rfl
  · rw [hretreat]
    conv_rhs => rw [htext]
    rw [List.take_left]
    exact List.suffix_append ..

end Thread.InText

/-- No task gives characters back. -/
def Task.NoneGivesBack (tasks : List Task) : Prop :=
  ∀ taken before, Task.giveBack taken before ∉ tasks

/-- The thread is in the text, and characters are given back by the first task at most, which gives
back those right behind the thread. -/
structure Way.InText (text : List Char) (w : Way) : Prop where
  thread : w.thread.InText text
  tail : Task.NoneGivesBack w.tasks.tail
  head : ∀ taken before, w.tasks.head? = some (.giveBack taken before) →
    taken.reverse <:+ text.take w.thread.pos

namespace Way

theorem takeRun_spec (s : CharSet) (seen : Nat) (t : Thread) (rest taken : List Char)
    (ht : t.rest = rest) :
    ∃ m ≤ rest.length, (takeRun s seen t rest taken).1.pos = t.pos + m ∧
      (takeRun s seen t rest taken).1.rest = rest.drop m ∧
      (takeRun s seen t rest taken).2 = (rest.take m).reverse ++ taken := by
  fun_induction takeRun s seen t rest taken with
  | case1 t taken => exact ⟨0, Nat.le_refl _, rfl, ht, rfl⟩
  | case2 t c rest taken hc ih =>
    obtain ⟨m, hm, hpos, hrest, htaken⟩ := ih rfl
    refine ⟨m + 1, Nat.succ_le_succ hm, ?_, hrest, ?_⟩
    · rw [hpos, Thread.advance, Nat.add_assoc, Nat.add_comm 1]
    · rw [htaken, List.take_succ_cons, List.reverse_cons, List.append_assoc, List.singleton_append]
  | case3 t c rest taken hc => exact ⟨0, Nat.zero_le _, rfl, ht, rfl⟩

variable {text : List Char} {t : Thread} {rest : List Task}

theorem InText.of_noneGivesBack (ht : t.InText text) {tasks : List Task}
    (h : Task.NoneGivesBack tasks) : InText text ⟨t, tasks⟩ where
  thread := ht
  tail taken before hm := h taken before (List.mem_of_mem_tail hm)
  head taken before hh := absurd (List.mem_of_mem_head? hh) (h taken before)

theorem choose_inText (v : Visited) (id : Nat) (greedy : Bool) {more : List Task}
    (ht : t.InText text) (hm : Task.NoneGivesBack more) (hr : Task.NoneGivesBack rest) :
    ∀ w ∈ (choose v t id greedy more rest).1, w.InText text := by
  intro w hw
  unfold choose at hw
  split at hw
  · simp at hw
  · split at hw <;> simp only [List.mem_cons, List.not_mem_nil, or_false] at hw <;>
      rcases hw with rfl | rfl <;>
      first | exact .of_noneGivesBack ht hm | exact .of_noneGivesBack ht hr

theorem followRun_inText (v : Visited) (id : Nat) (s : CharSet) (ht : t.InText text)
    (hr : Task.NoneGivesBack rest) : ∀ w ∈ (followRun v t id s rest).1, w.InText text := by
  intro w hw
  unfold followRun at hw
  split at hw
  · simp at hw
  · obtain ⟨m, hm, hpos, hrest, htaken⟩ := takeRun_spec s (v.points id) t t.rest [] rfl
    have ht' := ht.advance hm hpos hrest
    simp only [List.mem_cons, List.not_mem_nil, or_false] at hw
    rcases hw with rfl | rfl
    · exact .of_noneGivesBack ht' hr
    · refine ⟨ht', hr, fun taken before hh => ?_⟩
      simp only [List.head?_cons, Option.some.injEq, Task.giveBack.injEq] at hh
      rw [← hh.1, htaken, List.append_nil, List.reverse_reverse, hpos, ht.rest_eq, List.take_add]
      exact List.suffix_append ..

theorem noneGivesBack_cons {task : Task} {tasks : List Task}
    (hn : ∀ taken before, task ≠ .giveBack taken before) (hs : Task.NoneGivesBack tasks) :
    Task.NoneGivesBack (task :: tasks) := by
  intro taken before hm
  rcases List.mem_cons.mp hm with hm | hm
  · exact hn taken before hm.symm
  · exact hs taken before hm

theorem step_follow_inText (v : Visited) (p : Plan) (shift : Nat) (ht : t.InText text)
    (hr : Task.NoneGivesBack rest) : ∀ w ∈ (step v t (.follow p shift) rest).1, w.InText text := by
  intro w hw
  have follow (q : Plan) (sh : Nat) {tasks : List Task} (hs : Task.NoneGivesBack tasks) :
      Task.NoneGivesBack (.follow q sh :: tasks) := noneGivesBack_cons (by simp) hs
  cases p with
  | empty =>
    obtain rfl := List.mem_singleton.mp hw
    exact .of_noneGivesBack ht hr
  | one s =>
    cases hrest : t.rest with
    | nil => simp [step, hrest] at hw
    | cons c cs =>
      simp only [step, hrest] at hw
      split at hw
      · obtain rfl := List.mem_singleton.mp hw
        have ht' : (t.advance c cs).InText text :=
          ht.advance (m := 1) (by simp [hrest]) rfl (by simp [hrest, Thread.advance])
        exact .of_noneGivesBack ht' hr
      · simp at hw
  | anchor a =>
    simp only [step] at hw
    split at hw
    · obtain rfl := List.mem_singleton.mp hw
      exact .of_noneGivesBack ht hr
    · simp at hw
  | seq p q =>
    obtain rfl := List.mem_singleton.mp hw
    exact .of_noneGivesBack ht (follow p shift (follow q shift hr))
  | alt id p q => exact choose_inText v _ true ht (follow p shift hr) (follow q shift hr) w hw
  | group i p =>
    obtain rfl := List.mem_singleton.mp hw
    exact .of_noneGivesBack ht (follow p shift (noneGivesBack_cons (by simp) hr))
  | run id s => exact followRun_inText v _ s ht hr w hw
  | star id greedy p =>
    obtain rfl := List.mem_singleton.mp hw
    exact .of_noneGivesBack ht (noneGivesBack_cons (by simp) hr)
  | atLeast before width id greedy p =>
    obtain rfl := List.mem_singleton.mp hw
    exact .of_noneGivesBack ht
      (noneGivesBack_cons (by simp) (follow p _ (noneGivesBack_cons (by simp) hr)))
  | bounded min extra width id greedy p =>
    obtain rfl := List.mem_singleton.mp hw
    exact .of_noneGivesBack ht (noneGivesBack_cons (by simp) (noneGivesBack_cons (by simp) hr))

/-- One step keeps every way in the text. -/
theorem step_inText (v : Visited) {task : Task} (h : InText text ⟨t, task :: rest⟩) :
    ∀ w ∈ (step v t task rest).1, w.InText text := by
  intro w hw
  have ht : t.InText text := h.thread
  have hr : Task.NoneGivesBack rest := h.tail
  cases task with
  | follow p shift => exact step_follow_inText v p shift ht hr w hw
  | close index start =>
    obtain rfl := List.mem_singleton.mp hw
    exact .of_noneGivesBack (t := t.close index start) ⟨ht.pos_le, ht.rest_eq⟩ hr
  | giveBack taken before =>
    cases taken with
    | nil => simp [step] at hw
    | cons c taken =>
      obtain ⟨ht', hs⟩ := ht.retreat (taken.head?.or before) (h.head _ _ rfl)
      simp only [step, List.mem_cons, List.not_mem_nil, or_false] at hw
      rcases hw with rfl | rfl
      · exact .of_noneGivesBack ht' hr
      · refine ⟨ht', hr, fun taken' before' hh => ?_⟩
        simp only [List.head?_cons, Option.some.injEq, Task.giveBack.injEq] at hh
        exact hh.1 ▸ hs
  | copies count shift width p =>
    cases count with
    | zero =>
      obtain rfl := List.mem_singleton.mp hw
      exact .of_noneGivesBack ht hr
    | succ n =>
      obtain rfl := List.mem_singleton.mp hw
      exact .of_noneGivesBack ht (noneGivesBack_cons (by simp) (noneGivesBack_cons (by simp) hr))
  | upTo count shift width id greedy p =>
    cases count with
    | zero =>
      obtain rfl := List.mem_singleton.mp hw
      exact .of_noneGivesBack ht hr
    | succ n =>
      exact choose_inText v id greedy ht
        (noneGivesBack_cons (by simp) (noneGivesBack_cons (by simp) hr)) hr w hw
  | again shift id greedy p =>
    exact choose_inText v id greedy ht
      (noneGivesBack_cons (by simp) (noneGivesBack_cons (by simp) hr)) hr w hw

end Way

/-- **A match stands in the text.** -/
theorem Pattern.match?_inText {p : Pattern} {text : List Char} {t : Thread}
    (h : p.match? text = some t) : t.InText text := by
  refine (Search.finish_invariant (P := Way.InText text) (fun v t task rest => Way.step_inText v)
    (fun w hw => ?_) h).thread
  obtain rfl := List.mem_singleton.mp hw
  exact .of_noneGivesBack (.start text)
    (Way.noneGivesBack_cons (by simp) fun _ _ => List.not_mem_nil)

end SearchQuery
