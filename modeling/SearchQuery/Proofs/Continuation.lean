import SearchQuery.Proofs.SearchEnds

/-!
# Patterns before the rest of a text

The search for one pattern before another first goes through the search for the one, with the tasks
of the other behind all its ways (`Way.step_append`, `Search.run_andThen`). So if what follows can
never fail, the match of the first pattern stays the one that is found.

* `match?_anchored`: a condition to stand at the beginning of the text changes no match.
* `match?_splitPattern`: with the rest of the text in a second group, a pattern has the same match,
  now in the first group, and the second group goes from its end to the end of the text.
-/

namespace SearchQuery

/-! ## Tasks behind a way -/

namespace Way

/-- The way with more tasks after its own. -/
def andThen (more : List Task) (w : Way) : Way := ⟨w.thread, w.tasks ++ more⟩

variable (v : Visited) (t : Thread) (rest more : List Task)

theorem choose_append (id : Nat) (greedy : Bool) (first : List Task) :
    choose v t id greedy (first ++ more) (rest ++ more) =
      ((choose v t id greedy first rest).1.map (andThen more),
        (choose v t id greedy first rest).2) := by
  unfold choose
  split
  · rfl
  · split <;> rfl

theorem followRun_append (id : Nat) (s : CharSet) :
    followRun v t id s (rest ++ more) =
      ((followRun v t id s rest).1.map (andThen more), (followRun v t id s rest).2) := by
  unfold followRun
  split <;> rfl

/-- **A step does not look at the tasks behind the first.** -/
theorem step_append (task : Task) :
    step v t task (rest ++ more) =
      ((step v t task rest).1.map (andThen more), (step v t task rest).2) := by
  cases task with
  | follow p shift =>
    cases p with
    | one s =>
      cases htext : t.rest with
      | nil => simp [step, htext]
      | cons c cs =>
        simp only [step, htext]
        split <;> rfl
    | anchor a =>
      simp only [step]
      split <;> rfl
    | alt id p q => exact choose_append v t (_ :: rest) more _ true (_ :: rest)
    | run id s => exact followRun_append v t rest more _ s
    | empty | seq p q | group i p | star id greedy p | atLeast before width id greedy p
    | bounded min extra width id greedy p => rfl
  | close index start => rfl
  | giveBack taken before => cases taken <;> rfl
  | copies count shift width p => cases count <;> rfl
  | upTo count shift width id greedy p =>
    cases count with
    | zero => rfl
    | succ count => exact choose_append v t rest more id greedy (_ :: _ :: rest)
  | again shift id greedy p => exact choose_append v t rest more id greedy (_ :: _ :: rest)

variable {v t rest} {n : Nat} {task : Task}

theorem points_choose {id : Nat} (greedy : Bool) {first : List Task} (hid : id < n) {id' : Nat}
    (hn : n ≤ id') : (choose v t id greedy first rest).2.points id' = v.points id' := by
  unfold choose
  split
  · rfl
  · exact Visited.points_insert_of_ne v (by omega) _ _

/-- A step notes no choice but those of its task. -/
theorem points_step (h : task.Below n) {id' : Nat} (hn : n ≤ id') :
    (step v t task rest).2.points id' = v.points id' := by
  cases task with
  | follow p shift =>
    cases p with
    | one s =>
      simp only [step]
      split <;> rfl
    | alt id p q => exact points_choose true h.1 hn
    | run id s =>
      simp only [step, followRun]
      split
      · rfl
      · exact Visited.points_insert_of_ne v (Nat.ne_of_lt (Nat.lt_of_lt_of_le h hn)) _ _
    | empty | anchor a | seq p q | group i p | star id greedy p | atLeast before width id greedy p
    | bounded min extra width id greedy p => rfl
  | close index start => rfl
  | giveBack taken before => cases taken <;> rfl
  | copies count shift width p => cases count <;> rfl
  | upTo count shift width id greedy p =>
    cases count with
    | zero => rfl
    | succ count =>
      have hid := h.1
      exact points_choose greedy (by omega) hn
  | again shift id greedy p => exact points_choose greedy h.1 hn

end Way

namespace Search

/-- **A search with more tasks behind all its ways follows the search without them**, up to the
first match and then on to what is behind it. The choices that are made on the way are those of the
search. -/
theorem run_andThen (more : List Task) {n m : Nat} {s : Search}
    (hs : ∀ w ∈ s.stack, ∀ task ∈ w.tasks, task.Below n) {found : Option Thread}
    (h : s.run m = .inr found) :
    (found = none → ∃ k, run k ⟨s.visited, s.stack.map (Way.andThen more)⟩ = .inr none) ∧
      ∀ t, found = some t → ∃ k v stack,
        (∀ id, n ≤ id → v.points id = s.visited.points id) ∧
        ∀ j, run (k + j) ⟨s.visited, s.stack.map (Way.andThen more)⟩ =
          run j ⟨v, ⟨t, more⟩ :: stack⟩ := by
  induction m generalizing s with
  | zero => simp [run] at h
  | succ m ih =>
    obtain ⟨v, _ | ⟨⟨t, _ | ⟨task, rest⟩⟩, stack⟩⟩ := s
    · obtain rfl := Sum.inr.inj h
      exact ⟨fun _ => ⟨1, rfl⟩, by simp⟩
    · obtain rfl := Sum.inr.inj h
      refine ⟨by simp, fun t' ht => ?_⟩
      obtain rfl := Option.some.inj ht
      exact ⟨0, v, stack.map (Way.andThen more), fun _ _ => rfl, fun j => by rw [Nat.zero_add]; rfl⟩
    · -- With a task left, the step is made under the tasks that come after.
      have htasks := hs _ (List.mem_cons_self ..)
      have hpoints {id : Nat} (hid : n ≤ id) :
          (Way.step v t task rest).2.points id = v.points id :=
        Way.points_step (htasks _ (List.mem_cons_self ..)) hid
      have hstep (j : Nat) :
          run (j + 1) ⟨v, (⟨t, task :: rest⟩ :: stack).map (Way.andThen more)⟩ =
            run j ⟨(Way.step v t task rest).2,
              ((Way.step v t task rest).1 ++ stack).map (Way.andThen more)⟩ := by
        rw [List.map_cons, Way.andThen, List.cons_append, run_step, Way.step_append,
          List.map_append]
      rw [run_step] at h
      have hnext : ∀ w ∈ (Way.step v t task rest).1 ++ stack, ∀ task ∈ w.tasks, task.Below n := by
        intro w hw
        rcases List.mem_append.mp hw with hw | hw
        · exact Way.step_below htasks hw
        · exact hs w (List.mem_cons_of_mem _ hw)
      obtain ⟨hnone, hsome⟩ := ih hnext h
      refine ⟨fun hfound => ?_, fun t' hfound => ?_⟩
      · obtain ⟨k, hk⟩ := hnone hfound
        exact ⟨k + 1, by rw [hstep, hk]⟩
      · obtain ⟨k, v', stack', hv', hk⟩ := hsome t' hfound
        refine ⟨k + 1, v', stack', fun id hid => (hv' id hid).trans (hpoints hid), fun j => ?_⟩
        rw [Nat.add_right_comm, hstep, hk]

end Search

/-! ## The rest of a text -/

theorem Way.takeRun_all (t : Thread) (text taken : List Char) (ht : t.rest = text) :
    (takeRun .all 0 t text taken).1.rest = [] ∧
      (takeRun .all 0 t text taken).1.pos = t.pos + text.length := by
  fun_induction takeRun .all 0 t text taken with
  | case1 t taken => exact ⟨ht, rfl⟩
  | case2 t c text taken hc ih =>
    obtain ⟨hrest, hpos⟩ := ih rfl
    refine ⟨hrest, hpos.trans ?_⟩
    simp only [Thread.advance, List.length_cons]
    omega
  | case3 t c text taken hc => simp [CharSet.all, CharSet.contains] at hc

namespace Rule

/-- The pattern with two groups that belongs to a pattern for a token. -/
def splitPattern (p : Pattern) : Pattern :=
  .seq (.anchor .textStart) <|
    .seq (.group 1 p) (.seq (.group 2 (many .all)) (.anchor .textEnd))

end Rule

namespace Pattern

variable {p : Pattern} {text : List Char}

/-- **A match is always one at the beginning.** -/
theorem match?_anchored (hp : p.Ordered) : (Rule.anchored p).match? text = p.match? text := by
  have hanchored : (Rule.anchored p).Ordered := ⟨trivial, hp⟩
  obtain ⟨m, hm⟩ := (match?_eq_iff_run hp).mp (Eq.refl (p.match? text))
  exact (match?_eq_iff_run hanchored).mpr ⟨m + 2, hm⟩

theorem match?_textStart : (anchor .textStart).match? text = empty.match? text := by
  have hempty : empty.match? text = some (Thread.start text) :=
    match?_of_run 2 rfl (by simp [plan, stepsAtPoint, Plan.steps]; omega)
  rw [hempty]
  exact match?_of_run 2 rfl (by simp [plan, stepsAtPoint, Plan.steps]; omega)

theorem run_close_textEnd {t : Thread} (ht : t.rest = []) (v : Visited) (index start : Nat)
    (stack : List Way) :
    Search.run 3 ⟨v, ⟨t, [.close index start, .follow (.anchor .textEnd) 0]⟩ :: stack⟩ =
      .inr (some (t.close index start)) := by
  obtain ⟨pos, before, rest, captures⟩ := t
  obtain rfl : rest = [] := ht
  rfl

/-- What is behind the pattern in the first group never fails: the second group takes all that is
left. -/
theorem run_rest {id : Nat} {v : Visited} (hv : v.points id = 0) {t : Thread}
    (ht : t.InText text) (stack : List Way) :
    ∃ t', Search.run 7 ⟨v, ⟨t, [.close 1 0,
        .follow (.seq (.group 2 (.run id .all)) (.anchor .textEnd)) 0]⟩ :: stack⟩ = .inr (some t') ∧
      t'.capture? 1 = some ⟨1, 0, t.pos⟩ ∧ t'.capture? 2 = some ⟨2, t.pos, text.length⟩ := by
  have hnew : v.contains id (t.close 1 0).pos = false := by simp [Visited.contains, hv]
  obtain ⟨hrest, hpos⟩ := Way.takeRun_all (t.close 1 0) t.rest [] rfl
  have hcaptures := Way.captures_takeRun .all 0 (t.close 1 0) t.rest []
  have hend : (Way.takeRun .all 0 (t.close 1 0) t.rest []).1.pos = text.length := by
    have hle := ht.pos_le
    have hlen : (t.close 1 0).pos + t.rest.length = t.pos + (text.length - t.pos) := by
      rw [ht.rest_eq, List.length_drop]
      rfl
    omega
  change ∃ t', Search.run 4 ⟨v, ⟨t.close 1 0, .follow (.run id .all) 0 :: .close 2 t.pos ::
    [.follow (.anchor .textEnd) 0]⟩ :: stack⟩ = .inr (some t') ∧ _
  rw [Search.run_step, Way.step, Way.followRun, if_neg (by simp [hnew]), Nat.add_zero, hv]
  refine ⟨(Way.takeRun .all 0 (t.close 1 0) t.rest []).1.close 2 t.pos, ?_, ?_, ?_⟩
  · exact run_close_textEnd hrest _ _ _ _
  · simp only [Thread.capture?, Thread.close] at hcaptures ⊢
    simp [hcaptures]
  · simp only [Thread.capture?, Thread.close] at hend ⊢
    simp [hend]

/-- **A pattern before the rest of the text.** The two groups match just if the pattern does, the
first what the pattern matches, and the second what is left. -/
theorem match?_splitPattern (hp : p.Ordered) (text : List Char) :
    (p.match? text = none → (Rule.splitPattern p).match? text = none) ∧
      ∀ t, p.match? text = some t → ∃ t', (Rule.splitPattern p).match? text = some t' ∧
        t'.capture? 1 = some ⟨1, 0, t.pos⟩ ∧ t'.capture? 2 = some ⟨2, t.pos, text.length⟩ := by
  have hsplit : (Rule.splitPattern p).Ordered := ⟨trivial, hp, ⟨by simp, trivial⟩, trivial⟩
  obtain ⟨m, hm⟩ := (match?_eq_iff_run hp).mp (Eq.refl (p.match? text))
  have hbelow := fun w hw => (Search.bounded_start hp text w hw).below
  obtain ⟨hnone, hsome⟩ := Search.run_andThen [.close 1 0,
    .follow (.seq (.group 2 (.run (p.plan 0).2 .all)) (.anchor .textEnd)) 0] hbelow hm
  -- The first four steps lead into the first group.
  have hstart (k : Nat) :
      Search.run (k + 4) (Search.start ((Rule.splitPattern p).plan 0).1 text) =
        Search.run k ⟨.empty, [⟨Thread.start text, [.follow (p.plan 0).1 0, .close 1 0,
          .follow (.seq (.group 2 (.run (p.plan 0).2 .all)) (.anchor .textEnd)) 0]⟩]⟩ := rfl
  refine ⟨fun hmatch => ?_, fun t hmatch => ?_⟩
  · obtain ⟨k, hk⟩ := hnone hmatch
    exact (match?_eq_iff_run hsplit).mpr ⟨k + 4, (hstart k).trans hk⟩
  · obtain ⟨k, v, stack, hv, hk⟩ := hsome t hmatch
    have hpoints : v.points (p.plan 0).2 = 0 := hv _ (Nat.le_refl _)
    obtain ⟨t', hrest, hfirst, hsecond⟩ := run_rest hpoints (match?_inText hmatch) stack
    refine ⟨t', (match?_eq_iff_run hsplit).mpr ⟨k + 7 + 4, ?_⟩, hfirst, hsecond⟩
    exact (hstart (k + 7)).trans ((hk 7).trans hrest)

end Pattern

end SearchQuery
