import SearchQuery.Proofs.Parsing

/-!
# Where and why a query is refused

A query is refused at the first token with which no query can go on, and what the error says was
expected there is told by the tokens before it.

* `feed`: the state after some tokens. A refused query is a list of tokens that are taken and one
  that is not (`exists_feed_of_run_eq_error`).
* `Viable`: some query begins with these tokens. What a state has read is viable
  (`StateRead.viable`): an operand, where one has to follow, and a parenthesis for every open group
  make it a query. A refused token is not (`not_viable_of_reject`).
* `sinceOpen`: the tokens since the innermost open parenthesis. Where an operand has just ended,
  these are a whole disjunction (`StateRead.complete_of_after`), and elsewhere they are not
  (`not_complete_of_feed_before`). So they tell which of the three expectations an error has
  (`expected_of_reject`).
-/

namespace SearchQuery

namespace Grammar

/-! ## The tokens that are taken -/

/-- The state after some tokens, if all of them are taken and none ends the query. -/
def feed : State → List Token → Option State
  | s, [] => some s
  | s, t :: ts =>
    match s.step t with
    | .next s' => feed s' ts
    | _ => none

theorem feed_cons_eq_some {s s' : State} {t : Token} {ts : List Token} :
    feed s (t :: ts) = some s' ↔ ∃ s₁, s.step t = .next s₁ ∧ feed s₁ ts = some s' := by
  rw [feed]
  cases s.step t <;> simp

theorem feed_append_eq_some {s s' : State} {ts us : List Token} :
    feed s (ts ++ us) = some s' ↔ ∃ s₁, feed s ts = some s₁ ∧ feed s₁ us = some s' := by
  induction ts generalizing s with
  | nil => simp [feed]
  | cons t ts ih =>
    rw [List.cons_append, feed_cons_eq_some]
    constructor
    · rintro ⟨s₁, hstep, hfeed⟩
      obtain ⟨s₂, hts, hus⟩ := ih.mp hfeed
      exact ⟨s₂, feed_cons_eq_some.mpr ⟨s₁, hstep, hts⟩, hus⟩
    · rintro ⟨s₂, hts, hus⟩
      obtain ⟨s₁, hstep, hts⟩ := feed_cons_eq_some.mp hts
      exact ⟨s₁, hstep, ih.mpr ⟨s₂, hts, hus⟩⟩

theorem run_append_of_feed {s s' : State} {ts : List Token} (h : feed s ts = some s')
    (us : List Token) : run s (ts ++ us) = run s' us := by
  induction ts generalizing s with
  | nil => exact congrArg (run · us) (Option.some.inj h)
  | cons t ts ih =>
    obtain ⟨s₁, hstep, h⟩ := feed_cons_eq_some.mp h
    rw [List.cons_append, run_cons_of_next hstep, ih h]

/-- What a state says about the tokens holds after any tokens that are taken. -/
theorem StateRead.feed {ts us : List Token} {s s' : State} (hs : StateRead ts s)
    (h : Grammar.feed s us = some s') : StateRead (ts ++ us) s' := by
  induction us generalizing ts s with
  | nil =>
    obtain rfl := Option.some.inj h
    rwa [List.append_nil]
  | cons t us ih =>
    obtain ⟨s₁, hstep, h⟩ := feed_cons_eq_some.mp h
    have hread := ih (hs.step hstep) h
    rwa [List.append_assoc] at hread

theorem stateRead_of_feed {ts : List Token} {s : State} (h : feed .initial ts = some s) :
    StateRead ts s :=
  stateRead_initial.feed h

/-- A refused list of tokens has a token that is refused, and those before it are taken. -/
theorem exists_feed_of_run_eq_error {s : State} {ts : List Token} {p : Problem} {x : Expected}
    {t : Token} (h : run s ts = some (.error (p, x, t))) :
    ∃ us vs s', ts = us ++ t :: vs ∧ feed s us = some s' ∧ s'.step t = .reject p x := by
  induction ts generalizing s with
  | nil => simp [run] at h
  | cons u ts ih =>
    rw [run] at h
    cases hstep : s.step u with
    | next s₁ =>
      rw [hstep] at h
      obtain ⟨us, vs, s', rfl, hfeed, hreject⟩ := ih h
      exact ⟨u :: us, vs, s', rfl, feed_cons_eq_some.mpr ⟨s₁, hstep, hfeed⟩, hreject⟩
    | accept n => simp [hstep] at h
    | reject p' x' =>
      simp only [hstep, Option.some.injEq, Except.error.injEq, Prod.mk.injEq] at h
      obtain ⟨rfl, rfl, rfl⟩ := h
      exact ⟨[], ts, s, rfl, rfl, hstep⟩

/-! ## Beginnings of queries -/

/-- The tokens are those of a query, and after them its end. -/
def Accepted (ts : List Token) : Prop :=
  ∃ us e n, ts = us ++ [e] ∧ e.kind = .finish ∧ Derives .disjunction maxNesting us n

/-- Some query begins with the tokens. -/
def Viable (ts : List Token) : Prop := ∃ us, Accepted us ∧ ts <+: us

theorem viable_of_derives {ts us : List Token} {n : Node}
    (h : Derives .disjunction maxNesting (ts ++ us) n) : Viable ts :=
  ⟨ts ++ us ++ [.endAt 0], ⟨ts ++ us, .endAt 0, n, rfl, rfl, h⟩, us ++ [.endAt 0], by simp⟩

/-- An atom makes a disjunction of what stands before it. -/
theorem FrameRead.derives {d : Nat} {us vs : List Token} {frame : Frame} {n : Node}
    (h : FrameRead d us frame) (hn : Derives .atom d vs n) :
    ∃ m, Derives .disjunction d (us ++ vs) m := by
  obtain ⟨bs, os, ms, rfl, hb, ho, hm⟩ := h
  have hjoin := hb.join (ho.join (hm.join hn))
  exact ⟨_, by simpa only [List.append_assoc] using hjoin⟩

/-- Closing all groups makes a query. -/
theorem OuterRead.viable {ts us : List Token} {outer : List Frame} {n : Node}
    (h : OuterRead ts outer) (hn : Derives .disjunction (depthLeft outer) us n) :
    Viable (ts ++ us) := by
  -- What is to be closed grows from the inside to the outside, so it is not known beforehand.
  suffices hclose : ∃ vs m, Derives .disjunction maxNesting (ts ++ us ++ vs) m by
    obtain ⟨vs, m, hm⟩ := hclose
    exact viable_of_derives hm
  induction h generalizing us n with
  | nil => exact ⟨[], n, by simpa [depthLeft] using hn⟩
  | cons houter hframe hk hlt ih =>
    rename_i ts fs t frame outer
    have hgroup := Derives.group (c := ⟨.closeParen, some ")", 0⟩) hk hn rfl
    obtain ⟨m, hm⟩ := hframe.derives (depthLeft_cons hlt ▸ hgroup)
    obtain ⟨vs, m', hm'⟩ := ih hm
    refine ⟨⟨.closeParen, some ")", 0⟩ :: vs, m', ?_⟩
    simpa using hm'

/-- **What a state has read is the beginning of a query.** -/
theorem StateRead.viable {ts : List Token} {s : State} (h : StateRead ts s) : Viable ts := by
  cases h with
  | before houter hframe =>
    rename_i ts us frame outer
    have hword : Derives .atom (depthLeft outer) [⟨.word, some "a", 0⟩] (.term "a") :=
      .word rfl (by decide)
    obtain ⟨m, hm⟩ := hframe.derives hword
    obtain ⟨full, hfull, hprefix⟩ := houter.viable hm
    refine ⟨full, hfull, List.IsPrefix.trans ?_ hprefix⟩
    rw [← List.append_assoc]
    exact List.prefix_append ..
  | after houter hbranches hoperands =>
    rw [List.append_assoc]
    exact houter.viable (hbranches.join hoperands)

/-- **With a token that is refused, no query goes on.** -/
theorem not_viable_of_reject {ts : List Token} {t : Token} {s : State} {p : Problem} {x : Expected}
    (hfeed : feed .initial ts = some s) (hstep : s.step t = .reject p x) :
    ¬ Viable (ts ++ [t]) := by
  rintro ⟨full, ⟨us, e, n, rfl, he, hn⟩, vs, hvs⟩
  have hrun := run_of_derives hn he
  rw [← hvs, List.append_assoc, run_append_of_feed hfeed, List.singleton_append, run, hstep] at hrun
  simp at hrun

/-! ## Open groups -/

/-- The number of closing parentheses among the tokens that close none of theirs. -/
def unmatched : List Token → Nat
  | [] => 0
  | t :: ts =>
    match t.kind with
    | .closeParen => unmatched ts + 1
    | .openParen => unmatched ts - 1
    | _ => unmatched ts

/-- The tokens since the innermost parenthesis that is open, if one is. -/
def sinceOpen : List Token → Option (List Token)
  | [] => none
  | t :: ts =>
    (sinceOpen ts).or (if t.kind = .openParen ∧ unmatched ts = 0 then some ts else none)

theorem sinceOpen_suffix {ts ws : List Token} (h : sinceOpen ts = some ws) : ws <:+ ts := by
  induction ts with
  | nil => simp [sinceOpen] at h
  | cons t ts ih =>
    rw [sinceOpen, Option.or_eq_some_iff] at h
    rcases h with h | ⟨-, h⟩
    · exact (ih h).trans (List.suffix_cons t ts)
    · split at h
      · exact Option.some.inj h ▸ List.suffix_cons t ts
      · simp at h

theorem sinceOpen_append {us ws : List Token} (h : sinceOpen us = some ws) (ts : List Token) :
    sinceOpen (ts ++ us) = some ws := by
  induction ts with
  | nil => exact h
  | cons t ts ih => rw [List.cons_append, sinceOpen, ih, Option.some_or]

/-- The parentheses among the tokens are in pairs, so whatever follows, they change nothing. -/
structure Balanced (ts : List Token) : Prop where
  unmatched_append : ∀ us, unmatched (ts ++ us) = unmatched us
  sinceOpen_append : ∀ us, sinceOpen (ts ++ us) = sinceOpen us

namespace Balanced

variable {ts us : List Token}

theorem single {t : Token} (ho : t.kind ≠ .openParen) (hc : t.kind ≠ .closeParen) :
    Balanced [t] := by
  constructor
  · intro us
    rw [List.singleton_append, unmatched]
    split <;> simp_all
  · intro us
    rw [List.singleton_append, sinceOpen, if_neg fun h => ho h.1, Option.or_none]

theorem append (h : Balanced ts) (h' : Balanced us) : Balanced (ts ++ us) := by
  constructor
  · intro vs
    rw [List.append_assoc, h.unmatched_append, h'.unmatched_append]
  · intro vs
    rw [List.append_assoc, h.sinceOpen_append, h'.sinceOpen_append]

theorem cons {t : Token} (ho : t.kind ≠ .openParen) (hc : t.kind ≠ .closeParen)
    (h : Balanced ts) : Balanced (t :: ts) :=
  (single ho hc).append h

theorem group {o c : Token} (ho : o.kind = .openParen) (hc : c.kind = .closeParen)
    (h : Balanced ts) : Balanced (o :: ts ++ [c]) := by
  have hunmatched (us : List Token) : unmatched (ts ++ c :: us) = unmatched us + 1 := by
    rw [h.unmatched_append, unmatched, hc]
  constructor
  · intro us
    rw [List.append_assoc, List.cons_append, List.singleton_append, unmatched, ho, hunmatched]
    rfl
  · intro us
    have hclosed : ¬ (o.kind = .openParen ∧ unmatched (ts ++ c :: us) = 0) := by
      rw [hunmatched]
      omega
    rw [List.append_assoc, List.cons_append, List.singleton_append, sinceOpen, if_neg hclosed,
      Option.or_none, h.sinceOpen_append, sinceOpen, if_neg (by simp [hc]), Option.or_none]

theorem unmatched_eq (h : Balanced ts) : unmatched ts = 0 := by
  have happend := h.unmatched_append []
  rwa [List.append_nil] at happend

/-- No group is open at the end. -/
theorem sinceOpen_eq (h : Balanced ts) : sinceOpen ts = none := by
  have happend := h.sinceOpen_append []
  rwa [List.append_nil] at happend

/-- The innermost open parenthesis is the last that is before balanced tokens. -/
theorem sinceOpen_open {o : Token} (ho : o.kind = .openParen) (h : Balanced us) :
    sinceOpen (ts ++ o :: us) = some us := by
  refine Grammar.sinceOpen_append ?_ ts
  rw [sinceOpen, h.sinceOpen_eq, if_pos ⟨ho, h.unmatched_eq⟩]
  rfl

end Balanced

/-- The parts of a query are balanced. -/
theorem Derives.balanced {part : Part} {d : Nat} {ts : List Token} {n : Node}
    (h : Derives part d ts n) : Balanced ts := by
  induction h with
  | word hk _ | phrase hk | field hk => exact .single (by simp [hk]) (by simp [hk])
  | group ho h hc ih => exact ih.group ho hc
  | negated hk h ih => exact ih.cons (by simp [hk]) (by simp [hk])
  | plain h ih | single h ih | branch h ih => exact ih
  | besides hl hr ihl ihr => exact ihl.append ihr
  | and hl hk ht hr ihl ihr => exact ihl.append (ihr.cons (by simp [hk]) (by simp [hk]))
  | or hl hk hr ihl ihr => exact ihl.append (ihr.cons (by simp [hk]) (by simp [hk]))

/-! ## Where a disjunction is complete -/

/-- The tokens are a disjunction as a whole. -/
def Complete (ts : List Token) : Prop := ∃ d ≤ maxNesting, ∃ n, Derives .disjunction d ts n

/-- The token ends an operand. -/
def Ends (t : Token) : Prop := t.kind = .closeParen ∨ (leaf? t).isSome

/-- The tokens of a part of a query end with one that ends an operand. -/
theorem Derives.ends {part : Part} {d : Nat} {ts : List Token} {n : Node}
    (h : Derives part d ts n) : ∃ t, ts.getLast? = some t ∧ Ends t := by
  induction h with
  | word hk ht => exact ⟨_, rfl, .inr (by simp [leaf?_word hk ht])⟩
  | phrase hk | field hk => exact ⟨_, rfl, .inr (by simp [leaf?, hk])⟩
  | group ho h hc ih => exact ⟨_, List.getLast?_concat .., .inl hc⟩
  | plain h ih | single h ih | branch h ih => exact ih
  | negated hk h ih =>
    obtain ⟨t, ht, hends⟩ := ih
    exact ⟨t, by simp [List.getLast?_cons, ht], hends⟩
  | besides hl hr _ ih =>
    obtain ⟨t, ht, hends⟩ := ih
    exact ⟨t, by simp [List.getLast?_append, ht], hends⟩
  | and hl hk ht hr _ ih | or hl hk hr _ ih =>
    obtain ⟨t, ht, hends⟩ := ih
    exact ⟨t, by simp [List.getLast?_append, List.getLast?_cons, ht], hends⟩

/-- A token after which an operand has to follow ends none. -/
theorem not_ends_of_step_before {s : State} {t : Token} {frame : Frame} {outer : List Frame}
    (h : s.step t = .next (.before frame outer)) : ¬ Ends t := by
  have hsign {k : Kind} (hk : t.kind = k) (hkinds : k = .minus ∨ k = .openParen ∨ k = .or) :
      ¬ Ends t := by
    rcases hkinds with rfl | rfl | rfl <;> simp [Ends, leaf?, hk]
  have hbefore {frame' : Frame} {outer' : List Frame}
      (h : stepBefore frame' outer' t = .next (.before frame outer)) : ¬ Ends t := by
    obtain ⟨atom, -, hs⟩ | ⟨hk, -, -⟩ | ⟨hk, -, -⟩ := stepBefore_eq_next h
    · simp [deliver] at hs
    · exact hsign hk (.inl rfl)
    · exact hsign hk (.inr (.inl rfl))
  cases s with
  | before frame' outer' => exact hbefore h
  | after branches operands outer' =>
    obtain ⟨hk, -⟩ | ⟨-, frame', outer'', -, hs⟩ | ⟨hand, -⟩ | ⟨-, h⟩ := stepAfter_eq_next h
    · exact hsign hk (.inr (.inr rfl))
    · simp [deliver] at hs
    · have hk := (isAnd_iff.mp hand).1
      simp [Ends, leaf?, hk, hand]
    · exact hbefore h

/-- Where an operand has to follow, the last tokens are no disjunction. -/
theorem not_complete_of_feed_before {ts ws : List Token} {frame : Frame} {outer : List Frame}
    (h : feed .initial ts = some (.before frame outer)) (hws : ws <:+ ts) : ¬ Complete ws := by
  rintro ⟨d, -, n, hn⟩
  obtain ⟨t, ht, hends⟩ := hn.ends
  obtain ⟨us, rfl⟩ := hws
  obtain ⟨vs, rfl⟩ := List.getLast?_eq_some_iff.mp ht
  rw [← List.append_assoc] at h
  obtain ⟨s, -, hfeed⟩ := feed_append_eq_some.mp h
  obtain ⟨s₁, hstep, hs₁⟩ := feed_cons_eq_some.mp hfeed
  obtain rfl := Option.some.inj hs₁
  exact not_ends_of_step_before hstep hends

/-- Where an operand has just ended, the tokens since the innermost open parenthesis are a
disjunction, or all tokens if no parenthesis is open. -/
theorem StateRead.complete_of_after {ts : List Token} {branches : Option Node} {operands : Node}
    {outer : List Frame} (h : StateRead ts (.after branches operands outer)) :
    (outer = [] → sinceOpen ts = none ∧ Complete ts) ∧
      (outer ≠ [] → ∃ ws, sinceOpen ts = some ws ∧ Complete ws) := by
  cases h with
  | after houter hbranches hoperands =>
    rename_i ts bs os
    have hjoin := hbranches.join hoperands
    have hcomplete : Complete (bs ++ os) := ⟨depthLeft outer, Nat.sub_le .., _, hjoin⟩
    rw [List.append_assoc]
    constructor
    · rintro rfl
      cases houter
      exact ⟨hjoin.balanced.sinceOpen_eq, hcomplete⟩
    · intro hne
      cases houter with
      | nil => exact absurd rfl hne
      | cons houter hframe hk hlt =>
        refine ⟨bs ++ os, ?_, hcomplete⟩
        rw [List.append_assoc, List.singleton_append]
        exact hjoin.balanced.sinceOpen_open hk

/-! ## What an error expects -/

theorem stepBefore_eq_reject {frame : Frame} {outer : List Frame} {t : Token} {p : Problem}
    {x : Expected} (h : stepBefore frame outer t = .reject p x) : x = .operand := by
  unfold stepBefore at h
  split at h
  · cases h
  · split at h
    · cases h
    · split at h
      · split at h
        · cases h
        · exact (Outcome.reject.inj h).2.symm
      · exact (Outcome.reject.inj h).2.symm

/-- **Why a token is refused**: a group ends that is not open, a group is open at the end of the
query, or the token cannot begin an operand. -/
theorem step_eq_reject {s : State} {t : Token} {p : Problem} {x : Expected}
    (h : s.step t = .reject p x) :
    (x = .endOfQuery ∧ t.kind = .closeParen ∧
      ∃ branches operands, s = .after branches operands []) ∨
    (x = .closingParen ∧ t.kind = .finish ∧
      ∃ branches operands outer, outer ≠ [] ∧ s = .after branches operands outer) ∨
    (x = .operand ∧ ((∃ frame outer, s = .before frame outer) ∨ Begins t)) := by
  cases s with
  | before frame outer => exact .inr (.inr ⟨stepBefore_eq_reject h, .inl ⟨frame, outer, rfl⟩⟩)
  | after branches operands outer =>
    by_cases hbegins : Begins t
    · rw [State.step, stepAfter_of_begins hbegins] at h
      exact .inr (.inr ⟨stepBefore_eq_reject h, .inr hbegins⟩)
    · cases hk : t.kind with
      | finish =>
        cases outer with
        | nil => simp [State.step, stepAfter, hk] at h
        | cons frame outer =>
          simp only [State.step, stepAfter, hk, Outcome.reject.injEq] at h
          exact .inr (.inl ⟨h.2.symm, rfl, branches, operands, _, List.cons_ne_nil _ _, rfl⟩)
      | closeParen =>
        cases outer with
        | nil =>
          simp only [State.step, stepAfter, hk, Outcome.reject.injEq] at h
          exact .inl ⟨h.2.symm, rfl, branches, operands, rfl⟩
        | cons frame outer => simp [State.step, stepAfter, hk] at h
      | or => simp [State.step, stepAfter, hk] at h
      | _ =>
        have hand : t.isAnd = true := by simpa [Begins, hk] using hbegins
        simp [State.step, stepAfter, hk, hand] at h

/-- **What is expected is told by the tokens before.** -/
theorem expected_of_reject {ts : List Token} {s : State} {t : Token} {p : Problem} {x : Expected}
    (hfeed : feed .initial ts = some s) (hstep : s.step t = .reject p x) :
    (x = .endOfQuery ↔ t.kind = .closeParen ∧ sinceOpen ts = none ∧ Complete ts) ∧
    (x = .closingParen ↔ t.kind = .finish ∧ ∃ ws, sinceOpen ts = some ws ∧ Complete ws) := by
  have hread := stateRead_of_feed hfeed
  obtain ⟨rfl, hk, branches, operands, rfl⟩ | ⟨rfl, hk, branches, operands, outer, hne, rfl⟩ |
    ⟨rfl, hs⟩ := step_eq_reject hstep
  · have hcomplete := hread.complete_of_after.1 rfl
    simp [hk, hcomplete]
  · have hcomplete := hread.complete_of_after.2 hne
    simp [hk, hcomplete]
  · have hnot {ws : List Token} (hws : ws <:+ ts) (hk : ¬ Begins t) : ¬ Complete ws := by
      obtain ⟨frame, outer, rfl⟩ | hbegins := hs
      · exact not_complete_of_feed_before hfeed hws
      · exact absurd hbegins hk
    constructor
    · constructor
      · simp
      · rintro ⟨hk, -, hcomplete⟩
        exact absurd hcomplete (hnot (List.suffix_refl ts) fun hbegins => hbegins.2.2.1 hk)
    · constructor
      · simp
      · rintro ⟨hk, ws, hws, hcomplete⟩
        exact absurd hcomplete (hnot (sinceOpen_suffix hws) fun hbegins => hbegins.1 hk)

end Grammar

/-! ## Refused queries -/

namespace Parser

open Grammar

variable {p : Parser} {input : String} {ts : List Token} {s' : Scanner} {e : SyntaxError}

/-- A refused query has a token that is refused, and the error is that of the token. -/
theorem exists_reject_of_parseText (h : p.scanner.tokenize input = some (ts, s'))
    (he : (p.parseText input).map (·.1) = some (.error (.malformed e))) :
    ∃ us t state problem expected, us ++ [t] <+: ts ++ [s'.last] ∧
      feed .initial us = some state ∧ state.step t = .reject problem expected ∧
      e = .ofToken (problem.message t) expected t input := by
  rw [parseText_eq_run h] at he
  obtain ⟨answer, hrun, hanswer⟩ := Option.map_eq_some_iff.mp he
  cases answer with
  | ok n => simp [report, Except.mapError] at hanswer
  | error reason =>
    obtain ⟨problem, expected, t⟩ := reason
    simp only [report, Except.mapError, Except.error.injEq, ParseError.malformed.injEq] at hanswer
    obtain ⟨us, vs, state, heq, hfeed, hstep⟩ := exists_feed_of_run_eq_error hrun
    exact ⟨us, t, state, problem, expected, ⟨vs, by simp [heq]⟩, hfeed, hstep, hanswer.symm⟩

/-- **A query is refused at the first token with which no query can go on.** For all rules of the
caller and every query that the scanner cuts into tokens up to its end: the error names a token of
the query or its end, some query begins with the tokens before it, and none with these and the
token. -/
theorem error_at_first_unviable (h : p.scanner.tokenize input = some (ts, s'))
    (he : (p.parseText input).map (·.1) = some (.error (.malformed e))) :
    s'.last.kind = .finish ∧ e.input = input ∧
    ∃ k t, (ts ++ [s'.last])[k]? = some t ∧
      e.found = t.kind ∧ e.text = t.text ∧ e.position = t.position ∧
      Viable ((ts ++ [s'.last]).take k) ∧ ¬ Viable ((ts ++ [s'.last]).take (k + 1)) := by
  obtain ⟨us, t, state, problem, expected, ⟨vs, hvs⟩, hfeed, hstep, rfl⟩ :=
    exists_reject_of_parseText h he
  have hbefore : (us ++ [t] ++ vs).take us.length = us := by simp
  have hupto : (us ++ [t] ++ vs).take (us.length + 1) = us ++ [t] :=
    List.take_left' (by simp)
  refine ⟨(Scanner.tokensWithin_eq_some h).2.2, rfl, us.length, t, ?_⟩
  rw [← hvs, hbefore, hupto]
  exact ⟨by simp, rfl, rfl, rfl, (stateRead_of_feed hfeed).viable, not_viable_of_reject hfeed hstep⟩

/-- In `(# OR ) b` the error is at the parenthesis after `OR`, and not at the missing one. -/
theorem error_at_first_unviable_hash :
    let ts : List Token := [⟨.openParen, some "(", 0⟩, ⟨.field "HASH", some "#", 1⟩,
      ⟨.or, some "OR", 3⟩, ⟨.closeParen, some ")", 6⟩, ⟨.word, some "b", 8⟩]
    ∃ k t, (ts ++ [Token.endAt 9])[k]? = some t ∧ Token.position t = 6 ∧
      Viable ((ts ++ [Token.endAt 9]).take k) ∧
      ¬ Viable ((ts ++ [Token.endAt 9]).take (k + 1)) := by
  intro ts
  have h : hashParser.scanner.tokenize "(# OR ) b" = some (ts,
      ⟨hashParser.scanner.fields, "(# OR ) b", [], "(# OR ) b", 9, .endAt 9, true⟩) := by
    decide +kernel
  have he : (hashParser.parseText "(# OR ) b").map (·.1) = some (.error (.malformed
      ⟨"unexpected closing parenthesis", .operand, .closeParen, some ")", 6, "(# OR ) b"⟩)) := by
    decide +kernel
  obtain ⟨-, -, k, t, ht, -, -, hposition, hviable, hnot⟩ := error_at_first_unviable h he
  exact ⟨k, t, ht, hposition.symm, hviable, hnot⟩

/-- **What an error expects.** For all rules of the caller and every query that the scanner cuts
into tokens up to its end, let the error be at a token that comes after the tokens `us`. The end of
the query is expected just if the token is a closing parenthesis, no group is open and `us` is a
disjunction; a closing parenthesis is expected just if the token is the end, a group is open and the
tokens since the innermost open parenthesis are a disjunction; otherwise, an operand is. -/
theorem expected_of_parseText_error (h : p.scanner.tokenize input = some (ts, s'))
    (he : (p.parseText input).map (·.1) = some (.error (.malformed e))) :
    ∃ us t, us ++ [t] <+: ts ++ [s'.last] ∧
      e.found = t.kind ∧ e.text = t.text ∧ e.position = t.position ∧
      Viable us ∧ ¬ Viable (us ++ [t]) ∧
      (e.expected = .endOfQuery ↔ e.found = .closeParen ∧ sinceOpen us = none ∧ Complete us) ∧
      (e.expected = .closingParen ↔
        e.found = .finish ∧ ∃ ws, sinceOpen us = some ws ∧ Complete ws) ∧
      (e.expected = .operand ↔
        ¬ (e.found = .closeParen ∧ sinceOpen us = none ∧ Complete us) ∧
        ¬ (e.found = .finish ∧ ∃ ws, sinceOpen us = some ws ∧ Complete ws)) := by
  obtain ⟨us, t, state, problem, expected, hprefix, hfeed, hstep, rfl⟩ :=
    exists_reject_of_parseText h he
  obtain ⟨hend, hclose⟩ := expected_of_reject hfeed hstep
  refine ⟨us, t, hprefix, rfl, rfl, rfl, (stateRead_of_feed hfeed).viable,
    not_viable_of_reject hfeed hstep, hend, hclose, ?_⟩
  change expected = .operand ↔ _
  rw [SyntaxError.ofToken, ← hend, ← hclose]
  cases expected <;> simp

/-- In `a (# OR b` a closing parenthesis is expected at the end: what the open one began could end. -/
theorem expected_of_parseText_error_hash :
    let ts : List Token := [⟨.word, some "a", 0⟩, ⟨.openParen, some "(", 2⟩,
      ⟨.field "HASH", some "#", 3⟩, ⟨.or, some "OR", 5⟩, ⟨.word, some "b", 8⟩]
    ∃ us t ws, us ++ [t] <+: ts ++ [.endAt 9] ∧ t.kind = .finish ∧ sinceOpen us = some ws ∧
      Complete ws := by
  intro ts
  have h : hashParser.scanner.tokenize "a (# OR b" = some (ts,
      ⟨hashParser.scanner.fields, "a (# OR b", [], "a (# OR b", 9, .endAt 9, true⟩) := by
    decide +kernel
  have he : (hashParser.parseText "a (# OR b").map (·.1) = some (.error (.malformed
      ⟨"expected closing parenthesis", .closingParen, .finish, none, 9, "a (# OR b"⟩)) := by
    decide +kernel
  obtain ⟨us, t, hprefix, hkind, -, -, -, -, -, hclose, -⟩ := expected_of_parseText_error h he
  obtain ⟨-, ws, hws, hcomplete⟩ := hclose.mp rfl
  exact ⟨us, t, ws, hprefix, hkind.symm, hws, hcomplete⟩

end Parser

end SearchQuery
