import SearchQuery.Grammar.Descent
import SearchQuery.Proofs.Parsing

/-!
# The descent and the machine

The grammar of queries is read in two ways, top down and by a machine that keeps the groups around a
token on a stack. Both give the same answer to every list of tokens, errors included.

* The loops end where nothing can go on with them: behind a conjunction there is the end of the query,
  `OR` or a closing parenthesis (`conjunction_exit`), and behind a disjunction it is not `OR`
  (`disjunction_exit`).
* So some cases that the descent provides for never come up. No token is said to stand behind a query
  but a closing parenthesis (`conclude_of_exit`), and a closing parenthesis is missing at the end of a
  query only (`close_of_exit`).
* `resume` is what the machine answers once the descent has taken a part. The lemmas `run_before_…` and
  `run_after_…`, one for each part and each loop, say that this is its answer from the state before the
  part.
* `run_eq_query`: the answer of the machine is that of the descent. So a parser answers every query that
  comes to an end as the descent answers its tokens (`Parser.parseText_eq_query`).
-/

namespace SearchQuery

namespace Grammar.Descent

variable {e : Token} {depth : Nat} {ts us : List Token} {t : Token}

/-! ## Where the loops end -/

/-- The next token. -/
def ahead (e : Token) (ts : List Token) : Token := ts.headD e

/-- The token ends a conjunction. -/
def EndsConjunction (t : Token) : Prop := t.kind = .finish ∨ t.kind = .or ∨ t.kind = .closeParen

/-- The token ends a disjunction. -/
def EndsDisjunction (t : Token) : Prop := t.kind = .finish ∨ t.kind = .closeParen

theorem branches_nil {left : Taken ts} (h : left.rest = []) : branches e depth left = .ok left := by
  rw [branches]
  split
  · rfl
  · next heq => cases h.symm.trans heq

theorem branches_cons {left : Taken ts} (h : left.rest = t :: us) :
    branches e depth left =
      if t.kind = .or then
        conjunction e depth us >>= fun right =>
          branches e depth (left.join .or right (h ▸ Nat.le_succ _))
      else .ok left := by
  rw [branches]
  split
  · next heq => cases h.symm.trans heq
  · next heq =>
    obtain ⟨rfl, rfl⟩ := List.cons.inj (h.symm.trans heq)
    rfl

theorem operands_nil {left : Taken ts} (h : left.rest = []) : operands e depth left = .ok left := by
  rw [operands]
  split
  · rfl
  · next heq => cases h.symm.trans heq

theorem operands_cons {left : Taken ts} (h : left.rest = t :: us) :
    operands e depth left =
      if t.isAnd then
        operand e depth us >>= fun right =>
          operands e depth (left.join .and right (h ▸ Nat.le_succ _))
      else if continuesOperands t then
        operand e depth (t :: us) >>= fun right =>
          operands e depth (left.join .and right (h ▸ Nat.le_refl _))
      else .ok left := by
  rw [operands]
  split
  · next heq => cases h.symm.trans heq
  · next heq =>
    obtain ⟨rfl, rfl⟩ := List.cons.inj (h.symm.trans heq)
    rfl

/-- The second test of the loop is for the kind only: that the token is not the word `AND` has been
found out before. -/
theorem continuesOperands_iff (hand : t.isAnd = false) :
    continuesOperands t = true ↔ ¬ EndsConjunction t := by
  unfold continuesOperands EndsConjunction
  cases hk : t.kind <;> simp [hand]

theorem begins_of_continuesOperands (h : continuesOperands t = true) : Begins t := by
  unfold continuesOperands at h
  unfold Begins
  cases hk : t.kind <;> simp_all

theorem bind_eq_ok {α β ε : Type} {x : Except ε α} {f : α → Except ε β} {b : β}
    (h : x >>= f = .ok b) : ∃ a, x = .ok a ∧ f a = .ok b := by
  cases x with
  | error _ => cases h
  | ok a => exact ⟨a, rfl, h⟩

theorem operands_exit (he : e.kind = .finish) {left x : Taken ts}
    (h : operands e depth left = .ok x) : EndsConjunction (ahead e x.rest) := by
  induction hn : left.rest.length using Nat.strongRecOn generalizing left with
  | ind n ih =>
    -- Whatever has been taken besides, the loop goes on from the tokens after it.
    have hagain {vs : List Token} {right : Taken vs} {f : Node → Node → Node}
        {hle : vs.length ≤ left.rest.length} (h : operands e depth (left.join f right hle) = .ok x) :
        EndsConjunction (ahead e x.rest) :=
      ih _ (hn ▸ Taken.length_join_lt f left right hle) h rfl
    cases hrest : left.rest with
    | nil =>
      obtain rfl := Except.ok.inj (operands_nil hrest ▸ h)
      rw [hrest]
      exact .inl he
    | cons t us =>
      rw [operands_cons hrest] at h
      split at h
      · obtain ⟨right, -, h⟩ := bind_eq_ok h
        exact hagain h
      · next hand =>
        split at h
        · obtain ⟨right, -, h⟩ := bind_eq_ok h
          exact hagain h
        · next hgoes =>
          obtain rfl := Except.ok.inj h
          rw [hrest]
          have hand : t.isAnd = false := by simpa using hand
          exact not_not.mp fun hends => hgoes ((continuesOperands_iff hand).mpr hends)

/-- **A conjunction goes on until nothing can go on with it.** -/
theorem conjunction_exit (he : e.kind = .finish) {x : Taken ts}
    (h : conjunction e depth ts = .ok x) : EndsConjunction (ahead e x.rest) := by
  rw [conjunction] at h
  obtain ⟨left, -, h⟩ := bind_eq_ok h
  exact operands_exit he h

theorem branches_exit (he : e.kind = .finish) {left x : Taken ts}
    (hleft : EndsConjunction (ahead e left.rest)) (h : branches e depth left = .ok x) :
    EndsDisjunction (ahead e x.rest) := by
  induction hn : left.rest.length using Nat.strongRecOn generalizing left with
  | ind n ih =>
    cases hrest : left.rest with
    | nil =>
      obtain rfl := Except.ok.inj (branches_nil hrest ▸ h)
      rw [hrest]
      exact .inl he
    | cons t us =>
      rw [branches_cons hrest] at h
      split at h
      · obtain ⟨right, hright, h⟩ := bind_eq_ok h
        have hnext : EndsConjunction (ahead e right.rest) := conjunction_exit he hright
        exact ih _ (hn ▸ Taken.length_join_lt ..) hnext h rfl
      · next hor =>
        obtain rfl := Except.ok.inj h
        rw [hrest] at hleft ⊢
        exact hleft.imp_right fun h => h.resolve_left hor

/-- **A disjunction goes on until nothing can go on with it.** -/
theorem disjunction_exit (he : e.kind = .finish) {x : Taken ts}
    (h : disjunction e depth ts = .ok x) : EndsDisjunction (ahead e x.rest) := by
  rw [disjunction] at h
  obtain ⟨left, hleft, h⟩ := bind_eq_ok h
  exact branches_exit he (conjunction_exit he hleft) h

/-- **Behind a query there is never said to be any token but a closing parenthesis.** -/
theorem conclude_of_exit (he : e.kind = .finish) {x : Taken ts}
    (hexit : EndsDisjunction (ahead e x.rest)) :
    conclude x =
      if (ahead e x.rest).kind = .finish then .ok x.tree
      else .error (.strayClose, .endOfQuery, ahead e x.rest) := by
  unfold conclude
  cases hrest : x.rest with
  | nil => exact (if_pos he).symm
  | cons t us =>
    rw [hrest] at hexit
    have hahead : ahead e (t :: us) = t := rfl
    rw [hahead] at hexit ⊢
    rcases hexit with hk | hk <;> simp [Token.isEnd, hk]

/-- **A closing parenthesis is missing at the end of a query only.** -/
theorem close_of_exit (he : e.kind = .finish) (o : Token) {x : Taken ts}
    (hexit : EndsDisjunction (ahead e x.rest)) :
    (∃ c us, ∃ h : x.rest = c :: us, c.kind = .closeParen ∧ close e o x = .ok (x.closed o h)) ∨
      ((ahead e x.rest).kind = .finish ∧
        close e o x = .error (.missingClose, .closingParen, ahead e x.rest)) := by
  unfold close
  split
  · next hrest =>
    have hahead : ahead e x.rest = e := by rw [hrest]; rfl
    rw [hahead]
    exact .inr ⟨he, rfl⟩
  · next c us hrest =>
    have hahead : ahead e x.rest = c := by rw [hrest]; rfl
    rw [hahead] at hexit ⊢
    rcases hexit with hk | hk
    · exact .inr ⟨hk, if_neg (by simp [hk])⟩
    · exact .inl ⟨c, us, hrest, hk, if_pos hk⟩

/-! ## The machine behind a part -/

/-- The tokens of a query from some point on, the end included, begin with the next one. -/
theorem exists_append_eq (e : Token) (ts : List Token) : ∃ us, ts ++ [e] = ahead e ts :: us := by
  cases ts with
  | nil => exact ⟨[], rfl⟩
  | cons t ts => exact ⟨ts ++ [e], rfl⟩

theorem run_of_reject (ts : List Token) {s : State} {p : Problem} {x : Expected}
    (h : s.step (ahead e ts) = .reject p x) :
    run s (ts ++ [e]) = some (.error (p, x, ahead e ts)) := by
  obtain ⟨us, hus⟩ := exists_append_eq e ts
  rw [hus, run, h]

theorem run_congr (ts : List Token) {s s' : State} (h : s.step (ahead e ts) = s'.step (ahead e ts)) :
    run s (ts ++ [e]) = run s' (ts ++ [e]) := by
  obtain ⟨us, hus⟩ := exists_append_eq e ts
  rw [hus, run, run, h]

/-- What the machine answers once a part has been taken: it goes on with the tokens after the part in
the state that the tree of the part leads to. If there is no such part, it says why. -/
def resume (e : Token) (next : Node → State) :
    Except Refusal (Taken ts) → Option (Except Refusal Node)
  | .ok x => run (next x.tree) (x.rest ++ [e])
  | .error x => some (.error x)

theorem resume_bind {next next' : Node → State} {x : Except Refusal (Taken us)}
    {f : Taken us → Except Refusal (Taken ts)}
    (h : ∀ y, x = .ok y → run (next' y.tree) (y.rest ++ [e]) = resume e next (f y)) :
    resume e next' x = resume e next (x >>= f) := by
  cases x with
  | error x => rfl
  | ok y => exact h y rfl

/-- To disjunctions of fewer than `n` tokens the machine answers as the descent does. -/
def AgreesBelow (e : Token) (n : Nat) : Prop :=
  ∀ ts : List Token, ts.length < n → ∀ outer : List Frame,
    run (.before .initial outer) (ts ++ [e]) =
      resume e (fun n => .after none n outer) (disjunction e outer.length ts)

section Parts

variable {n : Nat} {outer : List Frame}

/-- Where a disjunction ends, it does not matter to the machine how it is made up. -/
theorem run_after_of_exit (branches : Option Node) (operands : Node)
    (hexit : EndsDisjunction (ahead e ts)) :
    run (.after branches operands outer) (ts ++ [e]) =
      run (.after none (joinOr branches operands) outer) (ts ++ [e]) := by
  apply run_congr
  rcases hexit with hk | hk <;> cases outer <;> simp [State.step, stepAfter, hk, joinOr]

theorem run_before_group (he : e.kind = .finish) (hbelow : AgreesBelow e n) {o : Token}
    (ho : o.kind = .openParen) (hts : ts.length < n) (frame : Frame) :
    run (.before frame outer) (o :: ts ++ [e]) =
      resume e (deliver frame outer) (group e outer.length o ts) := by
  rw [group]
  by_cases hdeep : maxNesting ≤ outer.length
  · have hstep : (State.before frame outer).step o = .reject .tooDeep .operand := by
      simp [State.step, stepBefore, leaf?, ho, Nat.not_lt.mpr hdeep]
    rw [if_pos hdeep]
    exact run_of_reject (o :: ts) hstep
  · have hstep : (State.before frame outer).step o = .next (.before .initial (frame :: outer)) := by
      simp [State.step, stepBefore, leaf?, ho, Nat.lt_of_not_le hdeep]
    rw [if_neg hdeep, List.cons_append, run_cons_of_next hstep, hbelow ts hts (frame :: outer)]
    refine resume_bind fun x hx => ?_
    rcases close_of_exit he o (disjunction_exit he hx) with
      ⟨c, us, hrest, hk, hclose⟩ | ⟨hk, hclose⟩
    · have hstep : (State.after none x.tree (frame :: outer)).step c =
          .next (deliver frame outer (.group x.tree)) := by
        simp [State.step, stepAfter, hk, joinOr]
      rw [hclose, hrest, List.cons_append, run_cons_of_next hstep]
      rfl
    · have hstep : (State.after none x.tree (frame :: outer)).step (ahead e x.rest) =
          .reject .missingClose .closingParen := by
        simp [State.step, stepAfter, hk]
      rw [hclose]
      exact run_of_reject x.rest hstep

/-- The three things that the next token can be for an atom. -/
theorem atom_cons (e : Token) (depth : Nat) (t : Token) (ts : List Token) :
    (∃ n, leaf? t = some n ∧ atom e depth (t :: ts) = .ok (.one n t ts)) ∨
      (t.kind = .openParen ∧ atom e depth (t :: ts) = group e depth t ts) ∨
      (leaf? t = none ∧ t.kind ≠ .openParen ∧
        atom e depth (t :: ts) = .error (operandProblem t, .operand, t)) := by
  rw [atom]
  cases hk : t.kind with
  | word =>
    by_cases hand : t.isAnd = true
    · exact .inr (.inr ⟨by simp [leaf?, hk, hand], by simp, by simp [operandProblem, hk, hand]⟩)
    · exact .inl ⟨.term (t.text.getD ""), by simp [leaf?, hk, hand], by simp [hand]⟩
  | phrase | field label => exact .inl ⟨_, by simp [leaf?, hk], rfl⟩
  | openParen => exact .inr (.inl ⟨rfl, rfl⟩)
  | _ => exact .inr (.inr ⟨by simp [leaf?, hk], by simp, by simp [operandProblem, hk]⟩)

theorem run_before_atom (he : e.kind = .finish) (hbelow : AgreesBelow e n) (hts : ts.length ≤ n)
    {frame : Frame} (hneg : frame.negated = true ∨ (ahead e ts).kind ≠ .minus) :
    run (.before frame outer) (ts ++ [e]) =
      resume e (deliver frame outer) (atom e outer.length ts) := by
  cases ts with
  | nil =>
    have hstep : (State.before frame outer).step e = .reject .missingOperand .operand := by
      simp [State.step, stepBefore, leaf?, operandProblem, he]
    rw [atom]
    exact run_of_reject [] hstep
  | cons t ts =>
    obtain ⟨m, hleaf, hatom⟩ | ⟨hopen, hatom⟩ | ⟨hleaf, hopen, hatom⟩ :=
      atom_cons e outer.length t ts
    · rw [hatom]
      have hstep : (State.before frame outer).step t = .next (deliver frame outer m) := by
        simp [State.step, stepBefore, hleaf]
      exact run_cons_of_next hstep _
    · rw [hatom]
      exact run_before_group he hbelow hopen hts frame
    · have hminus : ¬ (t.kind = .minus ∧ frame.negated = false) := by
        rintro ⟨hk, hfalse⟩
        rcases hneg with htrue | hk'
        · simp [hfalse] at htrue
        · exact hk' hk
      have hstep : (State.before frame outer).step t = .reject (operandProblem t) .operand := by
        simp [State.step, stepBefore, hleaf, hopen, hminus]
      rw [hatom]
      exact run_of_reject (t :: ts) hstep

theorem run_before_operand (he : e.kind = .finish) (hbelow : AgreesBelow e n)
    (hts : ts.length ≤ n) (branches operands : Option Node) :
    run (.before ⟨branches, operands, false⟩ outer) (ts ++ [e]) =
      resume e (fun n => .after branches (joinAnd operands n) outer)
        (operand e outer.length ts) := by
  cases ts with
  | nil =>
    rw [operand]
    exact run_before_atom he hbelow hts (.inr (by simp [ahead, he]))
  | cons t ts =>
    rw [operand]
    by_cases hk : t.kind = .minus
    · have hstep : (State.before ⟨branches, operands, false⟩ outer).step t =
          .next (.before ⟨branches, operands, true⟩ outer) := by
        simp [State.step, stepBefore, leaf?, hk]
      rw [if_pos hk, List.cons_append, run_cons_of_next hstep,
        run_before_atom he hbelow (Nat.le_of_succ_le hts) (.inl rfl)]
      exact resume_bind fun x _ => rfl
    · rw [if_neg hk]
      exact run_before_atom he hbelow hts (.inr hk)

/-- The machine goes through the loop over operands. -/
theorem run_after_operands (he : e.kind = .finish) (hbelow : AgreesBelow e n)
    (branches : Option Node) {left : Taken ts} (hleft : left.rest.length ≤ n) :
    run (.after branches left.tree outer) (left.rest ++ [e]) =
      resume e (fun n => .after branches n outer) (operands e outer.length left) := by
  induction hm : left.rest.length using Nat.strongRecOn generalizing left with
  | ind m ih =>
    -- One more operand is taken off the tokens after the left side.
    have hnext {vs : List Token} {right : Taken vs} {hle : vs.length ≤ left.rest.length} :
        run (.after branches (.and left.tree right.tree) outer) (right.rest ++ [e]) =
          resume e (fun n => .after branches n outer)
            (operands e outer.length (left.join .and right hle)) := by
      have hlt := Taken.length_join_lt Node.and left right hle
      exact ih _ (hm ▸ hlt) (Nat.le_trans (Nat.le_of_lt hlt) hleft) rfl
    cases hrest : left.rest with
    | nil => rw [operands_nil hrest, resume, hrest]
    | cons t us =>
      rw [operands_cons hrest]
      rw [hrest] at hleft
      by_cases hand : t.isAnd = true
      · have hstep : (State.after branches left.tree outer).step t =
            .next (.before ⟨branches, some left.tree, false⟩ outer) := by
          simp [State.step, stepAfter, (isAnd_iff.mp hand).1, hand]
        rw [if_pos hand, List.cons_append, run_cons_of_next hstep,
          run_before_operand he hbelow (Nat.le_of_succ_le hleft)]
        exact resume_bind fun right _ => hnext
      · rw [if_neg hand]
        by_cases hgoes : continuesOperands t = true
        · have hstep : (State.after branches left.tree outer).step t =
              (State.before ⟨branches, some left.tree, false⟩ outer).step t :=
            stepAfter_of_begins (begins_of_continuesOperands hgoes) ..
          rw [if_pos hgoes, run_congr (t :: us) hstep, run_before_operand he hbelow hleft]
          exact resume_bind fun right _ => hnext
        · rw [if_neg hgoes, resume, hrest]

theorem run_before_conjunction (he : e.kind = .finish) (hbelow : AgreesBelow e n)
    (hts : ts.length ≤ n) (branches : Option Node) :
    run (.before ⟨branches, none, false⟩ outer) (ts ++ [e]) =
      resume e (fun n => .after branches n outer) (conjunction e outer.length ts) := by
  rw [conjunction, run_before_operand he hbelow hts]
  refine resume_bind fun left _ => ?_
  exact run_after_operands he hbelow branches (Nat.le_trans (Nat.le_of_lt left.shorter) hts)

/-- The machine goes through the loop over branches. -/
theorem run_after_branches (he : e.kind = .finish) (hbelow : AgreesBelow e n) {left : Taken ts}
    (hleft : left.rest.length ≤ n) (hexit : EndsConjunction (ahead e left.rest))
    {init : Option Node} {last : Node} (htree : left.tree = joinOr init last) :
    run (.after init last outer) (left.rest ++ [e]) =
      resume e (fun n => .after none n outer) (branches e outer.length left) := by
  induction hm : left.rest.length using Nat.strongRecOn generalizing left init last with
  | ind m ih =>
    cases hrest : left.rest with
    | nil =>
      rw [branches_nil hrest, resume, hrest, htree]
      exact run_after_of_exit init last (.inl he)
    | cons t us =>
      rw [branches_cons hrest]
      rw [hrest] at hexit
      by_cases hor : t.kind = .or
      · have hstep : (State.after init last outer).step t =
            .next (.before ⟨some left.tree, none, false⟩ outer) := by
          simp [State.step, stepAfter, hor, htree]
        have hle : us.length ≤ left.rest.length := hrest ▸ Nat.le_succ _
        rw [if_pos hor, List.cons_append, run_cons_of_next hstep,
          run_before_conjunction he hbelow (Nat.le_trans hle hleft)]
        refine resume_bind fun right hright => ?_
        have hlt := Taken.length_join_lt Node.or left right hle
        have hexit' : EndsConjunction (ahead e right.rest) := conjunction_exit he hright
        exact ih _ (hm ▸ hlt) (Nat.le_trans (Nat.le_of_lt hlt) hleft) hexit' rfl rfl
      · rw [if_neg hor, resume, hrest, htree]
        exact run_after_of_exit init last (hexit.imp_right fun h => h.resolve_left hor)

theorem run_before_disjunction (he : e.kind = .finish) (hbelow : AgreesBelow e n)
    (hts : ts.length ≤ n) :
    run (.before .initial outer) (ts ++ [e]) =
      resume e (fun n => .after none n outer) (disjunction e outer.length ts) := by
  rw [disjunction, Frame.initial, run_before_conjunction he hbelow hts]
  refine resume_bind fun left hleft => ?_
  have hlt : left.rest.length ≤ n := Nat.le_trans (Nat.le_of_lt left.shorter) hts
  exact run_after_branches he hbelow hlt (conjunction_exit he hleft) rfl

end Parts

/-! ## The answers -/

theorem agreesBelow (he : e.kind = .finish) (n : Nat) : AgreesBelow e n := by
  induction n with
  | zero =>
    intro ts hts
    exact absurd hts (Nat.not_lt_zero _)
  | succ n ih =>
    intro ts hts outer
    exact run_before_disjunction he ih (Nat.le_of_lt_succ hts)

/-- **The machine answers as the descent does**, with a tree or with an error, to the tokens of a query
and its end. -/
theorem run_eq_query (he : e.kind = .finish) (ts : List Token) :
    run .initial (ts ++ [e]) = some (query e ts) := by
  rw [State.initial, run_before_disjunction he (agreesBelow he _) (Nat.le_refl _), query, List.length_nil]
  cases hx : disjunction e 0 ts with
  | error x => rfl
  | ok x =>
    have hexit := disjunction_exit he hx
    change run (.after none x.tree []) (x.rest ++ [e]) = some (conclude x)
    obtain ⟨us, hus⟩ := exists_append_eq e x.rest
    rw [hus, conclude_of_exit he hexit, run]
    rcases hexit with hk | hk <;> simp [State.step, stepAfter, hk, joinOr]

end Grammar.Descent

/-- **A parser reads a query by recursive descent**: for all rules of the caller, a query that comes to
an end is answered as the descent answers its tokens. -/
theorem Parser.parseText_eq_query {p : Parser} {input : String} {ts : List Token} {s : Scanner}
    (h : p.scanner.tokenize input = some (ts, s)) :
    (p.parseText input).map (·.1) =
      some ((report input (Grammar.Descent.query s.last ts)).mapError .malformed) := by
  obtain ⟨-, -, he⟩ := Scanner.tokensWithin_eq_some h
  rw [parseText_eq_run h, Grammar.Descent.run_eq_query he]
  rfl

end SearchQuery
