import SearchQuery.Parser
import SearchQuery.Proofs.Derivation
import SearchQuery.Proofs.Scanning

/-!
# Parsing by tokens

A parser takes its tokens one at a time and stops at the first that decides its answer. Where the
scanner comes to the end of the query, the answer is nevertheless that of the grammar to all of the
tokens (`runWithin_eq_run`), and a tree is the answer just if it has a derivation from them
(`parseText_eq_ok_iff`).
-/

namespace SearchQuery

/-! ## Lists of tokens -/

namespace Scanner

theorem advance_eq_some {s s' : Scanner} {t : Token} (h : s.advance = some (t, s')) :
    s'.last = t ∧ s'.input = s.input := by
  obtain ⟨s₁, hskips, ⟨-, ha⟩ | ⟨-, hk, ha⟩ | ⟨-, -, -, ha⟩⟩ := advance_cases s
  · obtain ⟨rfl, rfl⟩ := Prod.mk.inj (Option.some.inj (h.symm.trans ha))
    exact ⟨rfl, hskips.reaches.input_eq⟩
  · obtain ⟨rfl, rfl⟩ := Prod.mk.inj (Option.some.inj (h.symm.trans ha))
    refine ⟨?_, (input_stepped s₁).trans hskips.reaches.input_eq⟩
    rw [stepped, if_neg (by simpa [scan_fst] using hk)]
  · simp [h] at ha

/-- A list of tokens is shorter than was allowed, has no end in it, and comes before an end. -/
theorem tokensWithin_eq_some {n : Nat} {s s' : Scanner} {ts : List Token}
    (h : s.tokensWithin n = some (ts, s')) :
    ts.length < n ∧ (∀ t ∈ ts, t.kind ≠ .finish) ∧ s'.last.kind = .finish := by
  induction n generalizing s ts with
  | zero => simp [tokensWithin] at h
  | succ n ih =>
    rw [tokensWithin] at h
    cases ha : s.advance with
    | none => simp [ha] at h
    | some r =>
      obtain ⟨t, s₁⟩ := r
      simp only [ha] at h
      split at h
      · next hend =>
        obtain ⟨rfl, rfl⟩ := Prod.mk.inj (Option.some.inj h)
        refine ⟨Nat.succ_pos n, by simp, ?_⟩
        rw [(advance_eq_some ha).1]
        simpa [Token.isEnd] using hend
      · next hend =>
        obtain ⟨⟨ts₁, s₂⟩, hrest, heq⟩ := Option.map_eq_some_iff.mp h
        obtain ⟨rfl, rfl⟩ := Prod.mk.inj heq
        obtain ⟨hlen, hts, hlast⟩ := ih hrest
        refine ⟨Nat.succ_lt_succ hlen, List.forall_mem_cons.mpr ⟨?_, hts⟩, hlast⟩
        simpa [Token.isEnd] using hend

end Scanner

/-! ## The end of a query -/

namespace Grammar

/-- Nothing follows the end of a query. -/
theorem step_finish {t : Token} (ht : t.kind = .finish) (s s' : State) : s.step t ≠ .next s' := by
  intro h
  cases s with
  | before frame outer =>
    obtain ⟨atom, hleaf, -⟩ | ⟨hk, -⟩ | ⟨hk, -⟩ := stepBefore_eq_next h
    · simp [leaf?, ht] at hleaf
    · simp [ht] at hk
    · simp [ht] at hk
  | after branches operands outer => cases outer <;> simp [State.step, stepAfter, ht] at h

/-- At the deepest nesting no group is opened. -/
theorem step_of_maxNesting_le {t : Token} {s : State} (ht : t.kind = .openParen)
    (hs : maxNesting ≤ s.depth) : s.step t = .reject .tooDeep .operand := by
  have hbefore {frame : Frame} {outer : List Frame} (hle : maxNesting ≤ outer.length) :
      stepBefore frame outer t = .reject .tooDeep .operand := by
    simp [stepBefore, leaf?, ht, Nat.not_lt.mpr hle]
  cases s with
  | before frame outer => exact hbefore hs
  | after branches operands outer =>
    have hbegins : Begins t := by simp [Begins, ht, Token.isAnd, Token.isKeyword]
    rw [State.step, stepAfter_of_begins hbegins]
    exact hbefore hs

theorem run_isSome {e : Token} (he : e.kind = .finish) (s : State) (ts : List Token) :
    (run s (ts ++ [e])).isSome := by
  induction ts generalizing s with
  | nil =>
    rw [List.nil_append, run]
    cases hstep : s.step e with
    | next s' => exact absurd hstep (step_finish he s s')
    | accept n => rfl
    | reject p x => rfl
  | cons t ts ih =>
    rw [List.cons_append, run]
    cases s.step t with
    | next s' => exact ih s'
    | accept n => rfl
    | reject p x => rfl

end Grammar

/-! ## Answers -/

namespace Parser

open Grammar

/-- The answer to at most `n` tokens, and the scanner after it. The number of open groups is left to
the grammar. -/
def runWithin : Nat → Scanner → State → Option (Except SyntaxError Node × Scanner)
  | 0, _, _ => none
  | n + 1, s, state =>
    match s.advance with
    | none => none
    | some (t, s') =>
      match state.step t with
      | .next state' => runWithin n s' state'
      | .accept node => some (.ok node, s')
      | .reject p e => some (.error (.ofToken (p.message t) e t s.input), s')

/-- A parser that counts the open groups right does as the grammar says. -/
theorem step_eq_of_depth {p : Parser} {state : State} (h : p.depth = state.depth) (t : Token) :
    p.step state t = state.step t := by
  unfold step
  split
  · next hopen =>
    obtain ⟨hk, hdepth⟩ := hopen
    exact (step_of_maxNesting_le hk (h ▸ hdepth)).symm
  · rfl

/-- A step that is taken keeps the count of the open groups right. -/
theorem depthAfter_next {p : Parser} {state : State} (h : p.depth = state.depth) (state' : State) :
    p.depthAfter state (.next state') = state'.depth := by
  rw [depthAfter, h, Nat.add_sub_cancel_left]

/-- **The number of open groups that a parser counts is that of the grammar**, so it may be left
out. -/
theorem map_answerWithin {n : Nat} {p : Parser} {state : State} (h : p.depth = state.depth) :
    (answerWithin n p state).map (fun (result, p') => (result, p'.scanner)) =
      runWithin n p.scanner state := by
  induction n generalizing p state with
  | zero => rfl
  | succ n ih =>
    rw [answerWithin, runWithin]
    cases p.scanner.advance with
    | none => rfl
    | some r =>
      obtain ⟨t, s⟩ := r
      simp only [step_eq_of_depth h]
      cases state.step t with
      | next state' => exact ih (depthAfter_next h state')
      | accept node => rfl
      | reject problem e => rfl

/-- The answer of the grammar as an answer about a query. -/
def report (input : String) (answer : Except (Problem × Expected × Token) Node) :
    Except SyntaxError Node :=
  answer.mapError fun (p, e, t) => .ofToken (p.message t) e t input

/-- **One token at a time is as good as all of them**: if the scanner comes to the end of the query,
the answer is that of the grammar to all tokens and the end. -/
theorem runWithin_eq_run {n m : Nat} {s s' : Scanner} {ts : List Token}
    (h : s.tokensWithin n = some (ts, s')) (hm : ts.length < m) (state : State) :
    (runWithin m s state).map (·.1) = (run state (ts ++ [s'.last])).map (report s.input) := by
  induction n generalizing m s ts state with
  | zero => simp [Scanner.tokensWithin] at h
  | succ n ih =>
    obtain ⟨m, rfl⟩ := Nat.exists_eq_succ_of_ne_zero (Nat.ne_zero_of_lt hm)
    rw [Scanner.tokensWithin] at h
    rw [runWithin]
    cases ha : s.advance with
    | none => simp [ha] at h
    | some r =>
      obtain ⟨t, s₁⟩ := r
      obtain ⟨hlast, hinput⟩ := Scanner.advance_eq_some ha
      simp only [ha] at h ⊢
      split at h
      · next hend =>
        obtain ⟨rfl, rfl⟩ := Prod.mk.inj (Option.some.inj h)
        rw [hlast, List.nil_append, run]
        cases hstep : state.step t with
        | next state' => exact absurd hstep (step_finish (by simpa [Token.isEnd] using hend) _ _)
        | accept node => rfl
        | reject p e => rfl
      · obtain ⟨⟨ts₁, s₂⟩, hrest, heq⟩ := Option.map_eq_some_iff.mp h
        obtain ⟨rfl, rfl⟩ := Prod.mk.inj heq
        rw [List.cons_append, run]
        cases hstep : state.step t with
        | next state' =>
          simp only
          rw [ih hrest (Nat.lt_of_succ_lt_succ hm), hinput]
        | accept node => rfl
        | reject p e => rfl

theorem parseText_eq_answerWithin (p : Parser) (input : String) :
    p.parseText input =
      (answerWithin (tokenBound (p.scanner.read input))
        ⟨p.scanner.read input, .endAt 0, false, 0⟩ .initial).map
          fun (result, p') => (result.mapError .malformed, p') :=
  rfl

theorem map_parseText (p : Parser) (input : String) :
    (p.parseText input).map (fun (result, p') => (result, p'.scanner)) =
      (runWithin (tokenBound (p.scanner.read input)) (p.scanner.read input) .initial).map
        fun (result, s) => (result.mapError .malformed, s) := by
  rw [parseText_eq_answerWithin, ← map_answerWithin
    (p := ⟨p.scanner.read input, .endAt 0, false, 0⟩) rfl, Option.map_map, Option.map_map]
  rfl

/-- A query that comes to an end is answered as the grammar answers its tokens. -/
theorem parseText_eq_run {p : Parser} {input : String} {ts : List Token} {s' : Scanner}
    (h : p.scanner.tokenize input = some (ts, s')) :
    (p.parseText input).map (·.1) =
      (run .initial (ts ++ [s'.last])).map fun answer =>
        (report input answer).mapError .malformed := by
  have hlen : ts.length < tokenBound (p.scanner.read input) := by
    have hlt := (Scanner.tokensWithin_eq_some h).1
    have hrest : (p.scanner.read input).rest.length = input.length := String.length_toList
    rw [tokenBound, hrest]
    omega
  have hrun := congrArg (Option.map (·.mapError ParseError.malformed))
    (runWithin_eq_run h hlen .initial)
  have hmap := congrArg (Option.map (·.1)) (map_parseText p input)
  rw [Option.map_map, Option.map_map] at hrun hmap
  exact hmap.trans hrun

/-- A tree is the answer to a query that comes to an end just if it has a derivation from the
tokens. -/
theorem parseText_eq_ok_iff {p : Parser} {input : String} {ts : List Token} {s' : Scanner}
    (h : p.scanner.tokenize input = some (ts, s')) (n : Node) :
    (p.parseText input).map (·.1) = some (.ok n) ↔ Derives .disjunction maxNesting ts n := by
  obtain ⟨-, hts, he⟩ := Scanner.tokensWithin_eq_some h
  rw [parseText_eq_run h, ← run_eq_ok_iff_derives hts he n]
  cases run .initial (ts ++ [s'.last]) with
  | none => simp
  | some answer => cases answer <;> simp [report, Except.mapError]

/-- **A parser accepts exactly its grammar.** For all rules of the caller and every query that the
scanner cuts into tokens up to its end: a tree is the answer just if it has a derivation from the
tokens; there is no more than one; and the query is always answered, by its tokens alone. -/
theorem parseText_eq_ok_iff_derives {p : Parser} {input : String} {ts : List Token} {s' : Scanner}
    (h : p.scanner.tokenize input = some (ts, s')) :
    (∀ n, (p.parseText input).map (·.1) = some (.ok n) ↔ Derives .disjunction maxNesting ts n) ∧
    (∀ n n', Derives .disjunction maxNesting ts n → Derives .disjunction maxNesting ts n' →
      n = n') ∧
    ∃ answer, run .initial (ts ++ [s'.last]) = some answer ∧
      (p.parseText input).map (·.1) = some ((report input answer).mapError .malformed) := by
  obtain ⟨-, -, he⟩ := Scanner.tokensWithin_eq_some h
  obtain ⟨answer, hanswer⟩ := Option.isSome_iff_exists.mp (run_isSome he .initial ts)
  refine ⟨parseText_eq_ok_iff h, fun n n' => Derives.unique, answer, hanswer, ?_⟩
  rw [parseText_eq_run h, hanswer]
  rfl

/-- A parser with a rule for `#`. -/
def hashParser : Parser := .ofScanner (.ofRules [Rule.builtinChar (.field "HASH") "#" '#'])

/-- A negated field beside a group: the tree is read off a derivation of the tokens. -/
theorem parseText_eq_ok_iff_derives_hash :
    (hashParser.parseText "-# OR (a \"b c\")").map (·.1) =
      some (.ok (.or (.not (.field "HASH" "#")) (.group (.and (.term "a") (.phrase "b c"))))) := by
  have h : hashParser.scanner.tokenize "-# OR (a \"b c\")" = some
      ([⟨.minus, some "-", 0⟩, ⟨.field "HASH", some "#", 1⟩, ⟨.or, some "OR", 3⟩,
        ⟨.openParen, some "(", 6⟩, ⟨.word, some "a", 7⟩, ⟨.phrase, some "\"b c\"", 9⟩,
        ⟨.closeParen, some ")", 14⟩],
       ⟨hashParser.scanner.fields, "-# OR (a \"b c\")", [], "-# OR (a \"b c\")", 15, .endAt 15,
        true⟩) := by
    decide +kernel
  have hfield : Derives .disjunction maxNesting
      [⟨.minus, some "-", 0⟩, ⟨.field "HASH", some "#", 1⟩] (.not (.field "HASH" "#")) :=
    .branch (.single (.negated rfl (.field rfl)))
  have hword : Derives .conjunction 127 [⟨.word, some "a", 7⟩] (.term "a") :=
    .single (.plain (.word rfl (by decide)))
  have hphrase : Derives .operand 127 [⟨.phrase, some "\"b c\"", 9⟩] (.phrase "b c") :=
    .plain (.phrase rfl)
  have hgroup := Derives.group (o := ⟨.openParen, some "(", 6⟩) (c := ⟨.closeParen, some ")", 14⟩)
    rfl (.branch (.besides hword hphrase)) rfl
  exact ((parseText_eq_ok_iff_derives h).1 _).mpr (.or hfield rfl (.single (.plain hgroup)))

end Parser

end SearchQuery
