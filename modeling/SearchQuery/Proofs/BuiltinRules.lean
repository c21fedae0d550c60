import Mathlib.Data.List.TakeWhile
import SearchQuery.Proofs.Search
import SearchQuery.Rule

/-!
# What the built-in rules cut off

Each built-in rule is followed through the search for its pattern, on every text. A search is told
by where its first way stands: at `Thread.past taken rest captures`, after the characters `taken`
and before `rest`.

* `cut?_whiteSpaceRule`, `cut?_wordRule`: a first character and the longest run after it;
* `cut?_phraseRule`: up to the next quote, and nothing if there is none. The run between the quotes
  then gives all its characters back, one after the other (`run_giveBack`);
* `cut?_orRule`: the word `OR` where no word goes on;
* `cut?_builtinChar`, `cut?_illegalRule`: one character.

`builtins_eq_read` says that the rules are those that the texts of their patterns are read as.
-/

namespace SearchQuery

open Pattern Text

namespace Visited

theorem points_empty (id : Nat) : empty.points id = 0 := rfl

theorem contains_empty (id pos : Nat) : empty.contains id pos = false := by
  simp [contains, points_empty]

theorem points_insert_of_ne (v : Visited) {id id' : Nat} (h : id ≠ id') (pos count : Nat) :
    (v.insert id pos count).points id' = v.points id' := by
  simp [points, insert, Std.TreeMap.getD_insert, h]

end Visited

/-! ## Steps of a search -/

/-- The thread that has taken the characters `taken` from the beginning of a text on. -/
def Thread.past (taken rest : List Char) (captures : List Capture) : Thread :=
  ⟨taken.length, taken.getLast?, rest, captures⟩

theorem Thread.past_advance (taken : List Char) (c : Char) (cs : List Char)
    (captures : List Capture) :
    (past taken (c :: cs) captures).advance c cs = past (taken ++ [c]) cs captures := by
  simp [past, advance]

/-- A run takes all characters of the set that follow. -/
theorem Way.takeRun_past (s : CharSet) (taken rest back : List Char) (captures : List Capture) :
    takeRun s 0 (.past taken rest captures) rest back =
      (.past (taken ++ rest.takeWhile s.contains) (rest.dropWhile s.contains) captures,
        (rest.takeWhile s.contains).reverse ++ back) := by
  induction rest generalizing taken back with
  | nil => simp [takeRun, Thread.past]
  | cons c rest ih =>
    by_cases hc : s.contains c
    · rw [takeRun, if_pos (by simp [hc]), Thread.past_advance, ih]
      simp [hc]
    · rw [takeRun, if_neg (by simp [hc])]
      simp [hc]

namespace Search

variable (n : Nat) {v : Visited} (taken : List Char) (captures : List Capture) (s : CharSet)
  (tasks : List Task) (stack : List Way)

theorem run_one (c : Char) (cs : List Char) (shift : Nat) :
    run (n + 1) ⟨v, ⟨.past taken (c :: cs) captures, .follow (.one s) shift :: tasks⟩ :: stack⟩ =
      if s.contains c then run n ⟨v, ⟨.past (taken ++ [c]) cs captures, tasks⟩ :: stack⟩
      else run n ⟨v, stack⟩ := by
  by_cases h : s.contains c <;> simp [run, Way.step, h, Thread.past, Thread.advance]

/-- A run of characters that has not been followed before. -/
theorem run_run (id shift : Nat) (hv : v.points (id + shift) = 0) (rest : List Char) :
    ∃ v',
      run (n + 1) ⟨v, ⟨.past taken rest captures, .follow (.run id s) shift :: tasks⟩ :: stack⟩ =
      run n ⟨v',
        ⟨.past (taken ++ rest.takeWhile s.contains) (rest.dropWhile s.contains) captures, tasks⟩ ::
        ⟨.past (taken ++ rest.takeWhile s.contains) (rest.dropWhile s.contains) captures,
          .giveBack (rest.takeWhile s.contains).reverse taken.getLast? :: tasks⟩ :: stack⟩ := by
  have hc : v.contains (id + shift) (Thread.past taken rest captures).pos = false := by
    simp [Visited.contains, hv]
  rw [run_step, Way.step, Way.followRun, if_neg (by simp [hc]), hv]
  simp only [show (Thread.past taken rest captures).rest = rest from rfl, Way.takeRun_past,
    List.append_nil]
  exact ⟨_, rfl⟩

/-- Characters outside a set are given back in vain where a character of the set has to follow. -/
theorem run_giveBack (before : Option Char) (t : Thread) (back : List Char)
    (hb : ∀ c ∈ back, s.contains c = false) (shift : Nat) :
    run (n + 2 * back.length + 1)
        ⟨v, ⟨t, .giveBack back before :: .follow (.one s) shift :: tasks⟩ :: stack⟩ =
      run n ⟨v, stack⟩ := by
  induction back generalizing t with
  | nil => rfl
  | cons c back ih =>
    have hc : s.contains c = false := hb c (List.mem_cons_self ..)
    rw [List.length_cons, Nat.mul_succ, ← Nat.add_assoc, run_step]
    -- The character is back in front of the thread, where the set refuses it.
    simp only [Way.step, List.cons_append, List.nil_append, Thread.retreat]
    rw [run_step]
    simp only [Way.step, hc, Bool.false_eq_true, if_false, List.nil_append]
    exact ih _ fun d hd => hb d (List.mem_cons_of_mem _ hd)

end Search

theorem CharSet.contains_single (d c : Char) : (CharSet.single d).contains c = decide (c = d) := by
  rw [CharSet.single, CharSet.contains, ← Bool.decide_and, decide_eq_decide, and_comm]
  exact ⟨fun h => Char.le_antisymm h.1 h.2, fun h => h ▸ ⟨Char.le_refl _, Char.le_refl _⟩⟩

/-! ## Matches -/

namespace Pattern

/-- A match is found by a run that is not too long. -/
theorem match?_of_run {p : Pattern} {text : List Char} {found : Option Thread} (m : Nat)
    (h : (Search.start (p.plan 0).1 text).run m = .inr found)
    (hm : m ≤ (text.length + 1) * stepsAtPoint (p.plan 0).1.steps (p.plan 0).2) :
    p.match? text = found :=
  Search.finish_of_run h hm

variable (s : CharSet) (c : Char) (cs : List Char)

theorem match?_anchored_one :
    (Rule.anchored (.one s)).match? (c :: cs) =
      if s.contains c then some (.past [c] cs []) else none := by
  refine match?_of_run 4 ?_ (by simp [Rule.anchored, plan, stepsAtPoint, Plan.steps]; omega)
  change Search.run 2 ⟨.empty, [⟨.past [] (c :: cs) [], [.follow (.one s) 0]⟩]⟩ = _
  rw [Search.run_one]
  split <;> rfl

theorem match?_anchored_repeated :
    (Rule.anchored (.repeated 1 none true (.one s))).match? (c :: cs) =
      if s.contains c then
        some (.past (c :: cs.takeWhile s.contains) (cs.dropWhile s.contains) [])
      else none := by
  refine match?_of_run 11 ?_ (by simp [Rule.anchored, plan, stepsAtPoint, Plan.steps]; omega)
  change Search.run 6 ⟨.empty, [⟨.past [] (c :: cs) [], .follow (.one s) 0 ::
    .copies 0 0 0 (.one s) :: .upTo 0 0 0 0 true (.one s) :: [.follow (.run 0 s) 0]⟩]⟩ = _
  rw [Search.run_one]
  split
  · change Search.run 3 ⟨.empty, [⟨.past [c] cs [], [.follow (.run 0 s) 0]⟩]⟩ = _
    obtain ⟨v, hv⟩ := Search.run_run 2 [c] [] s [] [] 0 0 (Visited.points_empty 0) cs
    rw [hv]
    rfl
  · rfl

theorem match?_anchored_seq_many (s' : CharSet) :
    (Rule.anchored (.seq (.one s) (Rule.many s'))).match? (c :: cs) =
      if s.contains c then
        some (.past (c :: cs.takeWhile s'.contains) (cs.dropWhile s'.contains) [])
      else none := by
  refine match?_of_run 6 ?_
    (by simp [Rule.anchored, Rule.many, plan, stepsAtPoint, Plan.steps]; omega)
  change Search.run 3
    ⟨.empty, [⟨.past [] (c :: cs) [], .follow (.one s) 0 :: [.follow (.run 0 s') 0]⟩]⟩ = _
  rw [Search.run_one]
  split
  · change Search.run 2 ⟨.empty, [⟨.past [c] cs [], [.follow (.run 0 s') 0]⟩]⟩ = _
    obtain ⟨v, hv⟩ := Search.run_run 1 [c] [] s' [] [] 0 0 (Visited.points_empty 0) cs
    rw [hv]
    rfl
  · rfl

/-- Between two characters of a set, the longest run of characters outside it. -/
theorem match?_anchored_between :
    (Rule.anchored (.seq (.one s) (.seq (Rule.many s.compl) (.one s)))).match? (c :: cs) =
      if s.contains c then
        match cs.dropWhile s.compl.contains with
        | [] => none
        | d :: ds => some (.past (c :: cs.takeWhile s.compl.contains ++ [d]) ds [])
      else none := by
  have hw : (cs.takeWhile s.compl.contains).length ≤ cs.length :=
    (List.takeWhile_sublist _).length_le
  refine match?_of_run (2 * (cs.takeWhile s.compl.contains).length + 9) ?_
    (by simp [Rule.anchored, Rule.many, plan, stepsAtPoint, Plan.steps]; omega)
  generalize hm : 2 * (cs.takeWhile s.compl.contains).length = m
  change Search.run (m + 6) ⟨.empty, [⟨.past [] (c :: cs) [],
    .follow (.one s) 0 :: [.follow (.seq (.run 0 s.compl) (.one s)) 0]⟩]⟩ = _
  rw [Search.run_one]
  split
  · change Search.run (m + 4)
      ⟨.empty, [⟨.past [c] cs [], .follow (.run 0 s.compl) 0 :: [.follow (.one s) 0]⟩]⟩ = _
    obtain ⟨v, hv⟩ := Search.run_run (m + 3) [c] [] s.compl [.follow (.one s) 0] [] 0 0
      (Visited.points_empty 0) cs
    rw [hv]
    cases hd : cs.dropWhile s.compl.contains with
    | nil =>
      -- There is no second character: the whole run is given back before the search fails.
      have hb : ∀ d ∈ (cs.takeWhile s.compl.contains).reverse, s.contains d = false := by
        intro d hd
        simpa [CharSet.contains] using List.mem_takeWhile_imp (List.mem_reverse.mp hd)
      have hgive := Search.run_giveBack 1 s [] [] (v := v) (some c)
        (.past ([c] ++ cs.takeWhile s.compl.contains) [] []) _ hb 0
      rw [List.length_reverse, hm, Nat.add_comm 1 m] at hgive
      exact hgive
    | cons d ds =>
      have hd' : s.contains d = true := by
        have hnot := List.head?_dropWhile_not s.compl.contains cs
        rw [hd] at hnot
        simpa [CharSet.contains] using hnot
      rw [Search.run_one, if_pos hd']
      rfl
  · rfl

/-- The rest of the text, if there is none or it begins with a character of `s`, as a group. -/
def restPattern (index : Nat) (s : CharSet) : Pattern :=
  .seq (.group index (.repeated 0 (some 1) true (.seq (.one s) (Rule.many .all))))
    (.anchor .textEnd)

theorem run_restPattern (index : Nat) (taken : List Char) (captures : List Capture) :
    Search.run 12
        ⟨.empty, [⟨.past taken cs captures, [.follow ((restPattern index s).plan 0).1 0]⟩]⟩ =
      .inr (if cs.head?.all s.contains then
        some ((Thread.past (taken ++ cs) [] captures).close index taken.length) else none) := by
  change Search.run 8 ⟨.empty, [⟨.past taken cs captures,
    [.upTo 1 0 1 1 true (.seq (.one s) (.run 0 .all)), .close index taken.length,
      .follow (.anchor .textEnd) 0]⟩]⟩ = _
  rw [Search.run_step]
  simp only [Way.step, Way.choose, Visited.contains_empty, Bool.false_eq_true, if_false, if_true]
  cases cs with
  | nil => simp [Thread.past, Search.run, Way.step, Anchor.holds, Thread.close]
  | cons c cs =>
    change Search.run 6 ⟨_, ⟨.past taken (c :: cs) captures, .follow (.one s) 0 :: _⟩ :: _⟩ = _
    rw [Search.run_one]
    by_cases h : s.contains c
    · have hall : cs.takeWhile CharSet.all.contains = cs ∧ cs.dropWhile CharSet.all.contains = [] :=
        ⟨List.takeWhile_eq_self_iff.mpr fun _ _ => rfl,
          List.dropWhile_eq_nil_iff.mpr fun _ _ => rfl⟩
      rw [if_pos h]
      obtain ⟨v, hv⟩ := Search.run_run 4 (taken ++ [c]) captures .all _ _ 0 0
        (Visited.points_insert_of_ne .empty Nat.one_ne_zero taken.length 1) cs
      refine hv.trans ?_
      rw [hall.1, hall.2]
      simp [h, Search.run, Way.step, Thread.past, Thread.close, Anchor.holds]
    · simp [h, Search.run, Way.step, Thread.past, Thread.close, Anchor.holds]

/-- Two characters in the first group, and the rest of the text in the second. -/
theorem match?_anchored_pair (a b : Char) :
    (Rule.anchored (.seq (.group 1 (.seq (.one (.single a)) (.one (.single b))))
      (restPattern 2 s))).match? (c :: cs) =
      if c = a ∧ cs.head? = some b ∧ cs.tail.head?.all s.contains then
        some ((Thread.past (c :: cs) [] [⟨1, 0, 2⟩]).close 2 2)
      else none := by
  refine match?_of_run 20 ?_
    (by simp [Rule.anchored, Rule.many, restPattern, plan, stepsAtPoint, Plan.steps]; omega)
  change Search.run 15 ⟨.empty, [⟨.past [] (c :: cs) [], .follow (.one (.single a)) 0 ::
    .follow (.one (.single b)) 0 :: .close 1 0 :: [.follow ((restPattern 2 s).plan 0).1 0]⟩]⟩ = _
  rw [Search.run_one, CharSet.contains_single]
  by_cases ha : c = a
  · cases cs with
    | nil => simp [ha, Search.run, Way.step, Thread.past]
    | cons d cs =>
      rw [if_pos (by simpa using ha), Search.run_one, CharSet.contains_single]
      by_cases hb : d = b
      · rw [if_pos (by simpa using hb)]
        change Search.run 12 ⟨.empty,
          [⟨.past [c, d] cs [⟨1, 0, 2⟩], [.follow ((restPattern 2 s).plan 0).1 0]⟩]⟩ = _
        rw [run_restPattern]
        simp [ha, hb]
      · simp [hb, Search.run]
  · simp [ha, Search.run]

end Pattern

/-! ## What the rules cut off -/

namespace Rule

/-- A rule for tokens cuts off what its pattern takes. -/
theorem cut?_builtinToken {kind : Kind} {token : String} {p : Pattern} {text taken rest : List Char}
    {b : Prop} [Decidable b]
    (hm : (anchored p).match? text = if b then some (.past taken rest []) else none)
    (htext : b → text = taken ++ rest) (htaken : taken ≠ []) :
    (builtinToken kind token p).cut? text = if b then some (taken, rest) else none := by
  have hpos : (Thread.past taken rest []).pos ≠ 0 := by simpa [Thread.past] using htaken
  by_cases h : b
  · simp only [cut?, builtinToken, hm, if_pos h, if_neg hpos]
    simp [Thread.past, htext h]
  · simp only [cut?, builtinToken, hm, if_neg h]

variable (c : Char) (cs : List Char)

theorem cut?_whiteSpaceRule :
    whiteSpaceRule.cut? (c :: cs) =
      if isWhiteSpace c then some (c :: cs.takeWhile isWhiteSpace, cs.dropWhile isWhiteSpace)
      else none :=
  cut?_builtinToken (Pattern.match?_anchored_repeated .whiteSpace c cs) (by simp) (by simp)

theorem cut?_wordRule :
    wordRule.cut? (c :: cs) =
      if wordStart.contains c then
        some (c :: cs.takeWhile wordContinue.contains, cs.dropWhile wordContinue.contains)
      else none :=
  cut?_builtinToken (Pattern.match?_anchored_seq_many wordStart c cs wordContinue) (by simp)
    (by simp)

theorem cut?_builtinChar (kind : Kind) (token : String) (d : Char) :
    (builtinChar kind token d).cut? (c :: cs) = if c = d then some ([c], cs) else none := by
  rw [builtinChar, cut?_builtinToken (Pattern.match?_anchored_one _ c cs) (fun _ => rfl) (by simp),
    CharSet.contains_single]
  simp

theorem cut?_illegalRule : illegalRule.cut? (c :: cs) = some ([c], cs) :=
  cut?_builtinToken (Pattern.match?_anchored_one .all c cs) (fun _ => rfl) (by simp)

/-- What follows the characters before a quote is the quote, if there is one. -/
theorem dropWhile_ne_quote {q : Char} (h : q ∈ cs) : ∃ ds, cs.dropWhile (· ≠ q) = q :: ds := by
  have hnot := List.head?_dropWhile_not (· ≠ q) cs
  cases hd : cs.dropWhile (· ≠ q) with
  | nil => simpa using List.dropWhile_eq_nil_iff.mp hd q h
  | cons d ds =>
    rw [hd] at hnot
    exact ⟨ds, by simpa using hnot⟩

theorem cut?_phraseRule :
    phraseRule.cut? (c :: cs) =
      if c = '"' ∧ '"' ∈ cs then
        some ('"' :: cs.takeWhile (· ≠ '"') ++ ['"'], (cs.dropWhile (· ≠ '"')).tail)
      else none := by
  have hcompl : (CharSet.compl (.single '"')).contains = (· ≠ '"') := by
    funext d
    rw [CharSet.contains, CharSet.contains_single]
    simp
  have hm := Pattern.match?_anchored_between (.single '"') c cs
  rw [hcompl, CharSet.contains_single] at hm
  refine cut?_builtinToken (hm.trans ?_) ?_ (by simp)
  · by_cases hq : '"' ∈ cs
    · obtain ⟨ds, hd⟩ := dropWhile_ne_quote cs hq
      rw [hd]
      by_cases hc : c = '"' <;> simp [hc, hq]
    · have hd : cs.dropWhile (· ≠ '"') = [] :=
        List.dropWhile_eq_nil_iff.mpr fun x hx => by simpa using ne_of_mem_of_not_mem hx hq
      rw [hd]
      simp [hq]
  · rintro ⟨rfl, hq⟩
    obtain ⟨ds, hd⟩ := dropWhile_ne_quote cs hq
    have hsplit : cs.takeWhile (· ≠ '"') ++ '"' :: ds = cs := by
      rw [← hd, List.takeWhile_append_dropWhile]
    rw [hd, List.tail_cons, List.append_assoc, List.singleton_append, List.cons_append, hsplit]

/-- The rule for `OR` finds its two groups where no word goes on, the second after the first. -/
theorem match?_orRule :
    ∃ p, orRule.matcher = .split p ∧ p.match? (c :: cs) =
      if c = 'O' ∧ cs.head? = some 'R' ∧ cs.tail.head?.all (!wordContinue.contains ·) then
        some ((Thread.past (c :: cs) [] [⟨1, 0, 2⟩]).close 2 2)
      else none :=
  ⟨anchored (.seq (.group 1 (.seq (.one (.single 'O')) (.one (.single 'R'))))
    (restPattern 2 wordContinue.compl)), rfl, Pattern.match?_anchored_pair _ c cs 'O' 'R'⟩

theorem cut?_orRule :
    orRule.cut? (c :: cs) =
      if c = 'O' ∧ cs.head? = some 'R' ∧ cs.tail.head?.all (!wordContinue.contains ·) then
        some (['O', 'R'], cs.tail)
      else none := by
  obtain ⟨p, hmatcher, hm⟩ := match?_orRule c cs
  simp only [cut?, hmatcher, hm]
  by_cases h : c = 'O' ∧ cs.head? = some 'R' ∧ cs.tail.head?.all (!wordContinue.contains ·)
  · obtain ⟨cs', rfl⟩ : ∃ cs', cs = 'R' :: cs' := List.head?_eq_some_iff.mp h.2.1
    rw [if_pos h, if_pos h]
    simp [Thread.past, Thread.close, Thread.capture?, h.1]
  · rw [if_neg h, if_neg h]

/-! ## The texts of the rules -/

/-- **The built-in rules are those that the texts of their patterns are read as.** -/
theorem builtins_eq_read :
    builtins.map some = [
      (ofToken .whiteSpace "\\s+").toOption,
      (ofToken .phrase "\"[^\"]*\"").toOption,
      (ofPattern .or "(?s)^(OR)((?:[^\\p\x7bL\x7d\\p\x7bN\x7d_\\-./%].*)?)$").toOption,
      (ofToken .word
        "[\\p\x7bL\x7d\\p\x7bN\x7d_./%][\\p\x7bL\x7d\\p\x7bN\x7d_\\-./%]*").toOption,
      (ofToken .openParen "\\(").toOption,
      (ofToken .closeParen "\\)").toOption,
      (ofToken .minus "-").toOption,
      (ofToken .colon ":").toOption,
      (ofToken .quote "\"").toOption,
      (ofToken .illegal ".").toOption] := by
  decide +kernel

end Rule

end SearchQuery
