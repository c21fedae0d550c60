import SearchQuery.Proofs.Parsing

/-!
# Queries that never come to an end

A rule of the caller with two groups may let the text go on where its token begins, and then the
scanner gives the same token for ever. This module says exactly when that happens.

* Only a rule with two groups of the caller can do so (`exists_restarts_of_stalls`), never one that
  was made from a pattern for the token alone (`restarts_of_ofToken`).
* The tokens of a query have no end just if the scanner comes to a point where it stands still with
  a token that does not end the query (`tokensWithin_eq_none_iff`).
* A query has no answer just if the parser comes to a point where the scanner stands still with
  blank text or with an operand (`runWithin_eq_none_iff`). Of every other token the grammar refuses
  a repetition sooner or later: each one it takes lowers `State.patience`.
-/

namespace SearchQuery

/-! ## The rules that stand still -/

namespace Rule

theorem restarts_of_ofToken {kind : Kind} {token : String} {r : Rule}
    (h : ofToken kind token = .ok r) (text : List Char) : r.restarts text = false := by
  unfold ofToken at h
  split at h
  · cases h
  · split at h
    · cases h
    · obtain rfl := Except.ok.inj h
      rfl

theorem restarts_orRule (text : List Char) : orRule.restarts text = false := by
  cases text with
  | nil => decide +kernel
  | cons c cs =>
    obtain ⟨p, hmatcher, hm⟩ := match?_orRule c cs
    simp only [restarts, hmatcher, hm]
    split <;> simp [Thread.close, Thread.capture?]

theorem restarts_builtins {r : Rule} (h : r ∈ builtins) (text : List Char) :
    r.restarts text = false := by
  simp only [builtins, structural, generic, List.cons_append, List.nil_append, List.mem_cons,
    List.not_mem_nil, or_false] at h
  rcases h with rfl | rfl | rfl | rfl | rfl | rfl | rfl | rfl | rfl | rfl
  case inr.inr.inl => exact restarts_orRule text
  all_goals rfl

end Rule

namespace Scanner

theorem mem_fields_of_restarts {s : Scanner} {r : Rule} (h : s.chosen? = some r)
    (hr : r.restarts s.rest = true) : r ∈ s.fields := by
  have hmem : r ∈ s.rules := List.mem_of_find?_eq_some h
  simp only [rules, List.mem_append] at hmem
  rcases hmem with (hmem | hmem) | hmem
  · simp [Rule.restarts_builtins (List.mem_append_left _ hmem)] at hr
  · exact hmem
  · simp [Rule.restarts_builtins (List.mem_append_right _ hmem)] at hr

/-- Only a rule of the caller makes a scanner stand still. -/
theorem exists_restarts_of_stalls {s : Scanner} (h : s.Stalls) :
    ∃ r ∈ s.fields, r.restarts s.rest = true := by
  obtain ⟨r, hchosen, hr⟩ := h
  exact ⟨r, mem_fields_of_restarts hchosen hr, hr⟩

/-- **A step leaves less text, or it stands still.** -/
theorem length_scan_lt_iff {s : Scanner} (hs : s.rest ≠ []) :
    s.scan.2.rest.length < s.rest.length ↔ ¬ s.Stalls := by
  refine ⟨fun hlt h => ?_, length_lexeme_rest_lt hs⟩
  have hrest : s.scan.2.rest = s.rest := lexeme_rest_of_stalls h
  exact absurd hlt (hrest ▸ Nat.lt_irrefl _)

/-! ## Tokens without end -/

theorem tokensWithin_blank {s : Scanner} (hs : s.rest ≠ []) (hk : s.lexeme.kind = .whiteSpace)
    (n : Nat) : s.tokensWithin n = s.stepped.tokensWithin n := by
  cases n with
  | zero => rfl
  | succ n => rw [tokensWithin, tokensWithin, advance_eq, if_neg hs, if_pos hk]

theorem tokensWithin_token {s : Scanner} (hs : s.rest ≠ []) (hk : s.lexeme.kind ≠ .whiteSpace)
    (hend : s.lexeme.kind ≠ .finish) (n : Nat) :
    s.tokensWithin (n + 1) =
      (s.stepped.tokensWithin n).map fun (ts, s') => (s.scan.1 :: ts, s') := by
  rw [tokensWithin, advance_eq, if_neg hs, if_neg hk]
  simp [Token.isEnd, scan_fst, hend]

/-- A scanner that stands still before the end never comes to it. -/
theorem tokensWithin_of_stalls {s : Scanner} (hs : s.rest ≠ []) (h : s.Stalls)
    (hend : s.lexeme.kind ≠ .finish) (n : Nat) : s.tokensWithin n = none := by
  induction n generalizing s with
  | zero => rfl
  | succ n ih =>
    obtain ⟨hstalls, hrest, hlexeme⟩ := h.stepped
    by_cases hk : s.lexeme.kind = .whiteSpace
    · rw [tokensWithin, advance, advanceWithin_of_stalls _ hs h hk]
    · rw [tokensWithin_token hs hk hend, ih (hrest ▸ hs) hstalls (hlexeme ▸ hend)]
      rfl

/-- **The tokens have no end just if the scanner comes to a point where it stands still.** As many
tokens as there are characters are enough to tell. -/
theorem tokensWithin_eq_none_iff {n : Nat} {s : Scanner} (hn : s.rest.length < n) :
    s.tokensWithin n = none ↔
      ∃ s', s.Passes s' ∧ s'.rest ≠ [] ∧ s'.Stalls ∧ s'.lexeme.kind ≠ .finish := by
  constructor
  · intro h
    induction n generalizing s with
    | zero => omega
    | succ n ih =>
      obtain ⟨s₁, hskips, hcases⟩ := advance_cases s
      have hle := hskips.reaches.length_le
      rcases hcases with ⟨hs, ha⟩ | ⟨hs, hk, ha⟩ | ⟨hs, hk, hstalls, -⟩
      · simp [tokensWithin, ha, Token.isEnd, Token.endAt] at h
      · by_cases hend : s₁.lexeme.kind = .finish
        · simp [tokensWithin, ha, Token.isEnd, scan_fst, hend] at h
        · by_cases hstalls : s₁.Stalls
          · exact ⟨s₁, hskips.passes, hs, hstalls, hend⟩
          · have hlt := length_rest_stepped_lt hs hstalls
            have hnone : s₁.stepped.tokensWithin n = none := by
              simpa [tokensWithin, ha, Token.isEnd, scan_fst, hend] using h
            obtain ⟨s', hpasses, hs'⟩ := ih (by omega) hnone
            exact ⟨s', hskips.passes.trans (.step hs hend hpasses), hs'⟩
      · exact ⟨s₁, hskips.passes, hs, hstalls, by simp [hk]⟩
  · rintro ⟨s', hpasses, hs', hstalls, hend⟩
    clear hn
    induction hpasses generalizing n with
    | refl s => exact tokensWithin_of_stalls hs' hstalls hend n
    | step hs hk h ih =>
      rename_i s s'
      by_cases hblank : s.lexeme.kind = .whiteSpace
      · rw [tokensWithin_blank hs hblank]
        exact ih hs' hstalls hend
      · cases n with
        | zero => rfl
        | succ n =>
          rw [tokensWithin_token hs hblank hk, ih hs' hstalls hend]
          rfl

theorem tokenize_eq_none_iff (s : Scanner) (input : String) :
    s.tokenize input = none ↔
      ∃ s', (s.read input).Passes s' ∧ s'.rest ≠ [] ∧ s'.Stalls ∧ s'.lexeme.kind ≠ .finish :=
  tokensWithin_eq_none_iff (Nat.lt_succ_of_le (Nat.le_of_eq String.length_toList))

end Scanner

/-! ## Repeated tokens -/

namespace Grammar

namespace State

/-- How often a token that is no operand may still be repeated, at most. -/
def patience (k : Kind) (s : State) : Nat :=
  match k, s with
  | .openParen, s => maxNesting - s.depth
  | .closeParen, s => s.depth
  | .minus, before frame _ => if frame.negated then 0 else 1
  | _, before _ _ => 0
  | _, after _ _ _ => 1

theorem patience_le {s : State} (h : s.depth ≤ maxNesting) (k : Kind) :
    s.patience k ≤ maxNesting := by
  unfold patience
  split
  · exact Nat.sub_le ..
  · exact h
  · split <;> decide
  · decide
  · decide

end State

/-- A step opens one parenthesis at most, and none beyond the limit. -/
theorem depth_stepBefore_le {frame : Frame} {outer : List Frame} {t : Token} {s : State}
    (hd : outer.length ≤ maxNesting) (h : stepBefore frame outer t = .next s) :
    s.depth ≤ maxNesting := by
  obtain ⟨atom, -, rfl⟩ | ⟨-, -, rfl⟩ | ⟨-, hlt, rfl⟩ := stepBefore_eq_next h
  · exact hd
  · exact hd
  · exact hlt

theorem depth_step_le {s s' : State} {t : Token} (hd : s.depth ≤ maxNesting)
    (h : s.step t = .next s') : s'.depth ≤ maxNesting := by
  cases s with
  | before frame outer => exact depth_stepBefore_le hd h
  | after branches operands outer =>
    obtain ⟨-, rfl⟩ | ⟨-, frame, outer, rfl, rfl⟩ | ⟨-, rfl⟩ | ⟨-, h⟩ := stepAfter_eq_next h
    · exact hd
    · exact (Nat.le_succ _).trans hd
    · exact hd
    · exact depth_stepBefore_le hd h

/-- **A token that is no operand uses up patience whenever it is taken.** -/
theorem patience_step_lt {s s' : State} {t : Token} (hleaf : leaf? t = none)
    (h : s.step t = .next s') : s'.patience t.kind < s.patience t.kind := by
  cases s with
  | before frame outer =>
    obtain ⟨atom, hatom, -⟩ | ⟨hk, hneg, rfl⟩ | ⟨hk, hlt, rfl⟩ := stepBefore_eq_next h
    · simp [hleaf] at hatom
    · simp [hk, State.patience, hneg]
    · simp only [hk, State.patience, State.depth, List.length_cons]
      omega
  | after branches operands outer =>
    obtain ⟨hk, rfl⟩ | ⟨hk, frame, outer, rfl, rfl⟩ | ⟨hand, rfl⟩ | ⟨-, h⟩ := stepAfter_eq_next h
    · simp [hk, State.patience]
    · rw [hk]
      exact Nat.lt_succ_self outer.length
    · simp [(isAnd_iff.mp hand).1, State.patience]
    · obtain ⟨atom, hatom, -⟩ | ⟨hk, -, rfl⟩ | ⟨hk, hlt, rfl⟩ := stepBefore_eq_next h
      · simp [hleaf] at hatom
      · simp [hk, State.patience]
      · simp only [hk, State.patience, State.depth, List.length_cons]
        omega

/-- An operand may stand everywhere. -/
theorem exists_step_leaf {t : Token} {n : Node} (h : leaf? t = some n) (s : State) :
    ∃ s', s.step t = .next s' := by
  have hbefore (frame : Frame) (outer : List Frame) :
      stepBefore frame outer t = .next (deliver frame outer n) := by
    simp [stepBefore, h]
  cases s with
  | before frame outer => exact ⟨_, hbefore frame outer⟩
  | after branches operands outer =>
    obtain ⟨t', ts', heq, hbegins⟩ := (derives_of_leaf? h 0).begins
    obtain ⟨rfl, -⟩ := List.cons.inj heq
    exact ⟨_, (stepAfter_of_begins hbegins ..).trans (hbefore ..)⟩

end Grammar

/-! ## Queries without an answer -/

namespace Parser

open Grammar

/-- `Feeds s state s' state'`: the scanner comes from `s` to `s'` while the grammar takes the tokens
on the way and goes from `state` to `state'`. -/
inductive Feeds : Scanner → State → Scanner → State → Prop
  | refl (s : Scanner) (state : State) : Feeds s state s state
  | blank {s s' : Scanner} {state state' : State} (hs : s.rest ≠ [])
      (hk : s.lexeme.kind = .whiteSpace) (h : Feeds s.stepped state s' state') :
      Feeds s state s' state'
  | token {s s' : Scanner} {state state₁ state' : State} (hs : s.rest ≠ [])
      (hk : s.lexeme.kind ≠ .whiteSpace) (hstep : state.step s.scan.1 = .next state₁)
      (h : Feeds s.stepped state₁ s' state') : Feeds s state s' state'

theorem Feeds.skips {s s₁ s' : Scanner} {state state' : State} (h : s.Skips s₁)
    (h' : Feeds s₁ state s' state') : Feeds s state s' state' := by
  induction h with
  | refl s => exact h'
  | blank hs hk h ih => exact .blank hs hk (ih h')

/-- The grammar takes no token that ends the query. -/
theorem Feeds.passes {s s' : Scanner} {state state' : State} (h : Feeds s state s' state') :
    s.Passes s' := by
  induction h with
  | refl s state => exact .refl s
  | blank hs hk h ih => exact .step hs (by simp [hk]) ih
  | token hs hk hstep h ih => exact .step hs (fun hend => step_finish hend _ _ hstep) ih

theorem Feeds.reaches {s s' : Scanner} {state state' : State} (h : Feeds s state s' state') :
    s.Reaches s' := h.passes.reaches

theorem runWithin_skips {s s' : Scanner} (h : s.Skips s') (n : Nat) (state : State) :
    runWithin n s state = runWithin n s' state := by
  cases n with
  | zero => rfl
  | succ n => rw [runWithin, runWithin, h.advance_eq, h.reaches.input_eq]

theorem runWithin_next {s : Scanner} {state state' : State} (hs : s.rest ≠ [])
    (hk : s.lexeme.kind ≠ .whiteSpace) (hstep : state.step s.scan.1 = .next state') (n : Nat) :
    runWithin (n + 1) s state = runWithin n s.stepped state' := by
  rw [runWithin, Scanner.advance_eq, if_neg hs, if_neg hk]
  simp only [hstep]

/-- The same operand for ever is never answered, and neither is blank text. -/
theorem runWithin_of_stalls {s : Scanner} (hs : s.rest ≠ []) (h : s.Stalls)
    (hk : s.lexeme.kind = .whiteSpace ∨ (leaf? s.scan.1).isSome) (n : Nat) (state : State) :
    runWithin n s state = none := by
  induction n generalizing s state with
  | zero => rfl
  | succ n ih =>
    obtain ⟨hstalls, hrest, hlexeme⟩ := h.stepped
    by_cases hblank : s.lexeme.kind = .whiteSpace
    · rw [runWithin, Scanner.advance, Scanner.advanceWithin_of_stalls _ hs h hblank]
    · have hleaf := hk.resolve_left hblank
      obtain ⟨node, hnode⟩ := Option.isSome_iff_exists.mp hleaf
      obtain ⟨state', hstep⟩ := exists_step_leaf hnode state
      rw [runWithin_next hs hblank hstep]
      -- The token differs by its position only, on which the tree of an operand does not depend.
      refine ih (hrest ▸ hs) hstalls (.inr ?_) state'
      rw [Scanner.scan_fst, hlexeme]
      exact hleaf

/-- Any other token is answered before it can be repeated too often. -/
theorem runWithin_isSome_of_stalls {n : Nat} {s : Scanner} {state : State} (hs : s.rest ≠ [])
    (h : s.Stalls) (hk : s.lexeme.kind ≠ .whiteSpace) (hleaf : leaf? s.scan.1 = none)
    (hn : state.patience s.lexeme.kind < n) : (runWithin n s state).isSome := by
  induction n generalizing s state with
  | zero => omega
  | succ n ih =>
    obtain ⟨hstalls, hrest, hlexeme⟩ := h.stepped
    cases hstep : state.step s.scan.1 with
    | next state' =>
      have hlt : state'.patience s.lexeme.kind < state.patience s.lexeme.kind :=
        patience_step_lt hleaf hstep
      rw [runWithin_next hs hk hstep]
      refine ih (hrest ▸ hs) hstalls (hlexeme ▸ hk) ?_ (by rw [hlexeme]; omega)
      rw [Scanner.scan_fst, hlexeme]
      exact hleaf
    | accept node => simp [runWithin, Scanner.advance_eq, hs, hk, hstep]
    | reject p e => simp [runWithin, Scanner.advance_eq, hs, hk, hstep]

/-- **A query has no answer just if the parser comes to a point where the scanner stands still with
blank text or an operand.** -/
theorem runWithin_eq_none_iff {n : Nat} {s : Scanner} {state : State}
    (hd : state.depth ≤ maxNesting) (hn : tokenBound s ≤ n) :
    runWithin n s state = none ↔
      ∃ s' state', Feeds s state s' state' ∧ s'.rest ≠ [] ∧ s'.Stalls ∧
        (s'.lexeme.kind = .whiteSpace ∨ (leaf? s'.scan.1).isSome) := by
  constructor
  · intro h
    induction n generalizing s state with
    | zero => simp [tokenBound] at hn
    | succ n ih =>
      obtain ⟨s₁, hskips, hcases⟩ := Scanner.advance_cases s
      have hle := hskips.reaches.length_le
      rw [runWithin_skips hskips] at h
      rw [hskips.advance_eq] at hcases
      rcases hcases with ⟨hs, ha⟩ | ⟨hs, hk, ha⟩ | ⟨hs, hk, hstalls, -⟩
      · rw [runWithin, ha] at h
        cases hstep : state.step (.endAt s₁.position) with
        | next state' => exact absurd hstep (step_finish rfl _ _)
        | accept node => simp [hstep] at h
        | reject p e => simp [hstep] at h
      · cases hstep : state.step s₁.scan.1 with
        | next state' =>
          by_cases hstalls : s₁.Stalls
          · cases hleaf : leaf? s₁.scan.1 with
            | some node =>
              exact ⟨s₁, state, .skips hskips (.refl ..), hs, hstalls, .inr (by simp [hleaf])⟩
            | none =>
              have hp : state.patience s₁.lexeme.kind < n + 1 := by
                have := State.patience_le hd s₁.lexeme.kind
                simp only [tokenBound] at hn
                omega
              simpa [h] using runWithin_isSome_of_stalls hs hstalls hk hleaf hp
          · have hlt := Scanner.length_rest_stepped_lt hs hstalls
            rw [runWithin_next hs hk hstep] at h
            obtain ⟨s', state'', hfeeds, hs'⟩ :=
              ih (depth_step_le hd hstep) (by simp only [tokenBound] at hn ⊢; omega) h
            exact ⟨s', state'', .skips hskips (.token hs hk hstep hfeeds), hs'⟩
        | accept node => simp [runWithin, ha, hstep] at h
        | reject p e => simp [runWithin, ha, hstep] at h
      · exact ⟨s₁, state, .skips hskips (.refl ..), hs, hstalls, .inl hk⟩
  · rintro ⟨s', state', hfeeds, hs', hstalls, hk'⟩
    clear hn hd
    induction hfeeds generalizing n with
    | refl s state => exact runWithin_of_stalls hs' hstalls hk' n state
    | blank hs hk h ih =>
      rw [runWithin_skips (.blank hs hk (.refl _))]
      exact ih hs' hstalls hk'
    | token hs hk hstep h ih =>
      cases n with
      | zero => rfl
      | succ n =>
        rw [runWithin_next hs hk hstep]
        exact ih hs' hstalls hk'

theorem parseText_eq_none_iff (p : Parser) (input : String) :
    p.parseText input = none ↔
      ∃ s' state, Feeds (p.scanner.read input) .initial s' state ∧ s'.rest ≠ [] ∧ s'.Stalls ∧
        (s'.lexeme.kind = .whiteSpace ∨ (leaf? s'.scan.1).isSome) := by
  rw [← Option.map_eq_none_iff, map_parseText, Option.map_eq_none_iff]
  exact runWithin_eq_none_iff (Nat.zero_le _) (Nat.le_refl _)

/-- Rules that never let the text go on where their token begins do no harm. -/
theorem isSome_of_not_restarts {p : Parser}
    (h : ∀ r ∈ p.scanner.fields, ∀ text, r.restarts text = false) (input : String) :
    (p.scanner.tokenize input).isSome ∧ (p.parseText input).isSome := by
  have hmoves {s : Scanner} (hf : s.fields = p.scanner.fields) : ¬ s.Stalls := by
    intro hstalls
    obtain ⟨r, hr, hrestarts⟩ := Scanner.exists_restarts_of_stalls hstalls
    simp [h r (hf ▸ hr)] at hrestarts
  constructor
  · rw [Option.isSome_iff_ne_none, ne_eq, Scanner.tokenize_eq_none_iff]
    rintro ⟨s', hpasses, -, hstalls, -⟩
    exact hmoves hpasses.reaches.fields_eq hstalls
  · rw [Option.isSome_iff_ne_none, ne_eq, parseText_eq_none_iff]
    rintro ⟨s', state, hfeeds, -, hstalls, -⟩
    exact hmoves hfeeds.reaches.fields_eq hstalls

/-- **When a query comes to an end.** A step leaves less text just if it does not stand still, and
it stands still only by a rule of the caller whose second group begins where the text does. The
tokens of a query have no end, and the query has no answer, just if this happens on the way: for the
tokens unless it is with an end, for the answer if it is with blank text or an operand. So every
query comes to an end if no rule of the caller does this, such as those made from a pattern for the
token alone. -/
theorem ends_unless_stalls (p : Parser) (input : String) :
    (∀ s : Scanner, s.rest ≠ [] → (s.scan.2.rest.length < s.rest.length ↔ ¬ s.Stalls)) ∧
    (∀ s : Scanner, s.Stalls → ∃ r ∈ s.fields, r.restarts s.rest = true) ∧
    (p.scanner.tokenize input = none ↔
      ∃ s', (p.scanner.read input).Passes s' ∧ s'.rest ≠ [] ∧ s'.Stalls ∧
        s'.lexeme.kind ≠ .finish) ∧
    (p.parseText input = none ↔
      ∃ s' state, Feeds (p.scanner.read input) .initial s' state ∧ s'.rest ≠ [] ∧ s'.Stalls ∧
        (s'.lexeme.kind = .whiteSpace ∨ (leaf? s'.scan.1).isSome)) ∧
    (∀ kind token r, Rule.ofToken kind token = .ok r → ∀ text, r.restarts text = false) ∧
    ((∀ r ∈ p.scanner.fields, ∀ text, r.restarts text = false) →
      (p.scanner.tokenize input).isSome ∧ (p.parseText input).isSome) :=
  ⟨fun _ => Scanner.length_scan_lt_iff, fun _ => Scanner.exists_restarts_of_stalls,
    p.scanner.tokenize_eq_none_iff input, parseText_eq_none_iff p input,
    fun _ _ _ => Rule.restarts_of_ofToken, fun h => isSome_of_not_restarts h input⟩

/-- A rule whose second group is inside the first is accepted, and takes nothing off a text. -/
theorem nested_groups_stall :
    ∃ r, Rule.ofPattern (.field "X") "((a))" = .ok r ∧
      ((Scanner.ofRules [r]).read "a").scan.2.rest = ['a'] ∧
      (Scanner.ofRules [r]).tokenize "a" = none ∧
      (Parser.ofScanner (.ofRules [r])).parseText "a" = none := by
  have hread : (Rule.ofPattern (.field "X") "((a))").toOption =
      some ⟨.field "X", "((a))", .split (.group 1 (.group 2 (.one (.single 'a'))))⟩ := by
    decide +kernel
  cases hrule : Rule.ofPattern (.field "X") "((a))" with
  | error e => simp [hrule, Except.toOption] at hread
  | ok r =>
    obtain rfl := Option.some.inj (hrule ▸ hread)
    exact ⟨_, rfl, by decide +kernel, by decide +kernel,
      Option.isNone_iff_eq_none.mp (by decide +kernel)⟩

end Parser

end SearchQuery
