import Mathlib.Data.List.Basic
import SearchQuery.Grammar

/-!
# Derivations of queries

The grammar of queries as an inductive family, beside the machine that reads it.

* `Derives part d ts n`: the tokens `ts` are a `part` of a query with the tree `n`, and at most `d`
  parentheses are open at once in them.
* `consumes_of_derives`: the machine goes through the tokens of a derivation and has put its tree
  into place at their end, whatever follows.
* `StateRead`: what a state of the machine says about the tokens that led to it. A step keeps it
  (`StateRead.step`), so an accepted list of tokens has a derivation (`derives_of_run`).
* `run_eq_ok_iff_derives`: the machine accepts exactly the lists with a derivation, and the tree is
  the one of the derivation. So there is no more than one (`Derives.unique`).
-/

namespace SearchQuery.Grammar

/-- The parts of a query. -/
inductive Part where
  | disjunction
  | conjunction
  | operand
  | atom
  deriving DecidableEq, Repr

/-- Derivations. Both connectives fold to the left. -/
inductive Derives : Part → Nat → List Token → Node → Prop
  | word {d : Nat} {t : Token} (hk : t.kind = .word) (ht : t.text ≠ some andKeyword) :
      Derives .atom d [t] (.term (t.text.getD ""))
  | phrase {d : Nat} {t : Token} (hk : t.kind = .phrase) :
      Derives .atom d [t] (.phrase (stripQuotes (t.text.getD "")))
  | field {d : Nat} {t : Token} {label : String} (hk : t.kind = .field label) :
      Derives .atom d [t] (.field label (t.text.getD ""))
  | group {d : Nat} {o c : Token} {ts : List Token} {n : Node} (ho : o.kind = .openParen)
      (h : Derives .disjunction d ts n) (hc : c.kind = .closeParen) :
      Derives .atom (d + 1) (o :: ts ++ [c]) (.group n)
  | plain {d : Nat} {ts : List Token} {n : Node} (h : Derives .atom d ts n) :
      Derives .operand d ts n
  | negated {d : Nat} {t : Token} {ts : List Token} {n : Node} (hk : t.kind = .minus)
      (h : Derives .atom d ts n) : Derives .operand d (t :: ts) (.not n)
  | single {d : Nat} {ts : List Token} {n : Node} (h : Derives .operand d ts n) :
      Derives .conjunction d ts n
  | besides {d : Nat} {ts us : List Token} {l r : Node} (hl : Derives .conjunction d ts l)
      (hr : Derives .operand d us r) : Derives .conjunction d (ts ++ us) (.and l r)
  | and {d : Nat} {t : Token} {ts us : List Token} {l r : Node} (hl : Derives .conjunction d ts l)
      (hk : t.kind = .word) (ht : t.text = some andKeyword) (hr : Derives .operand d us r) :
      Derives .conjunction d (ts ++ t :: us) (.and l r)
  | branch {d : Nat} {ts : List Token} {n : Node} (h : Derives .conjunction d ts n) :
      Derives .disjunction d ts n
  | or {d : Nat} {t : Token} {ts us : List Token} {l r : Node} (hl : Derives .disjunction d ts l)
      (hk : t.kind = .or) (hr : Derives .conjunction d us r) :
      Derives .disjunction d (ts ++ t :: us) (.or l r)

/-! ## Steps of the machine -/

theorem isAnd_iff {t : Token} : t.isAnd = true ↔ t.kind = .word ∧ t.text = some andKeyword := by
  simp [Token.isAnd, Token.isKeyword]

/-- A token that is an operand by itself is an atom of the grammar. -/
theorem derives_of_leaf? {t : Token} {n : Node} (h : leaf? t = some n) (d : Nat) :
    Derives .atom d [t] n := by
  unfold leaf? at h
  cases hk : t.kind with
  | word =>
    simp only [hk] at h
    split at h
    · simp at h
    · next ha =>
      obtain rfl := Option.some.inj h
      exact .word hk fun ht => ha (isAnd_iff.mpr ⟨hk, ht⟩)
  | phrase =>
    simp only [hk, Option.some.injEq] at h
    exact h ▸ .phrase hk
  | field label =>
    simp only [hk, Option.some.injEq] at h
    exact h ▸ .field hk
  | _ => simp [hk] at h

theorem leaf?_word {t : Token} (hk : t.kind = .word) (ht : t.text ≠ some andKeyword) :
    leaf? t = some (.term (t.text.getD "")) := by
  have ha : ¬ t.isAnd = true := fun ha => ht (isAnd_iff.mp ha).2
  simp [leaf?, hk, ha]

/-- What a step does where an operand has to follow. -/
theorem stepBefore_eq_next {frame : Frame} {outer : List Frame} {t : Token} {s : State}
    (h : stepBefore frame outer t = .next s) :
    (∃ atom, leaf? t = some atom ∧ s = deliver frame outer atom) ∨
    (t.kind = .minus ∧ frame.negated = false ∧ s = .before { frame with negated := true } outer) ∨
    (t.kind = .openParen ∧ outer.length < maxNesting ∧ s = .before .initial (frame :: outer)) := by
  unfold stepBefore at h
  split at h
  · next atom hleaf =>
    simp only [Outcome.next.injEq] at h
    exact .inl ⟨atom, hleaf, h.symm⟩
  · split at h
    · next hminus =>
      simp only [Bool.and_eq_true, decide_eq_true_eq, Bool.not_eq_true'] at hminus
      simp only [Outcome.next.injEq] at h
      exact .inr (.inl ⟨hminus.1, hminus.2, h.symm⟩)
    · split at h
      · next hopen =>
        split at h
        · next hlt =>
          simp only [Outcome.next.injEq] at h
          exact .inr (.inr ⟨hopen, hlt, h.symm⟩)
        · cases h
      · cases h

theorem stepBefore_ne_accept {frame : Frame} {outer : List Frame} {t : Token} {n : Node} :
    stepBefore frame outer t ≠ .accept n := by
  unfold stepBefore
  split
  · simp
  · split
    · simp
    · split
      · split <;> simp
      · simp

/-- Whether a token may begin an operand: it is neither the end nor a connective nor a closing
parenthesis. -/
def Begins (t : Token) : Prop :=
  t.kind ≠ .finish ∧ t.kind ≠ .or ∧ t.kind ≠ .closeParen ∧ t.isAnd = false

/-- Such a token does the same whether or not an operand stands before it. -/
theorem stepAfter_of_begins {t : Token} (h : Begins t) (branches : Option Node) (operands : Node)
    (outer : List Frame) :
    stepAfter branches operands outer t = stepBefore ⟨branches, some operands, false⟩ outer t := by
  obtain ⟨hfinish, hor, hclose, hand⟩ := h
  unfold stepAfter
  cases hk : t.kind <;> simp_all

/-- What a step does where an operand has just ended. -/
theorem stepAfter_eq_next {branches : Option Node} {operands : Node} {outer : List Frame}
    {t : Token} {s : State} (h : stepAfter branches operands outer t = .next s) :
    (t.kind = .or ∧ s = .before ⟨some (joinOr branches operands), none, false⟩ outer) ∨
    (t.kind = .closeParen ∧ ∃ frame outer', outer = frame :: outer' ∧
      s = deliver frame outer' (.group (joinOr branches operands))) ∨
    (t.isAnd = true ∧ s = .before ⟨branches, some operands, false⟩ outer) ∨
    (Begins t ∧ stepBefore ⟨branches, some operands, false⟩ outer t = .next s) := by
  by_cases hand : t.isAnd = true
  · have hk := (isAnd_iff.mp hand).1
    simp only [stepAfter, hk, hand, if_true, Outcome.next.injEq] at h
    exact .inr (.inr (.inl ⟨hand, h.symm⟩))
  · cases hk : t.kind with
    | finish => cases outer <;> simp [stepAfter, hk] at h
    | or =>
      simp only [stepAfter, hk, Outcome.next.injEq] at h
      exact .inl ⟨rfl, h.symm⟩
    | closeParen =>
      cases outer with
      | nil => simp [stepAfter, hk] at h
      | cons frame outer =>
        simp only [stepAfter, hk, Outcome.next.injEq] at h
        exact .inr (.inl ⟨rfl, frame, outer, rfl, h.symm⟩)
    | _ =>
      have hbegins : Begins t := by simp [Begins, hk, hand]
      exact .inr (.inr (.inr ⟨hbegins, stepAfter_of_begins hbegins .. ▸ h⟩))

/-- A query is accepted at its end only, outside of all parentheses. -/
theorem stepAfter_eq_accept {branches : Option Node} {operands : Node} {outer : List Frame}
    {t : Token} {n : Node} (h : stepAfter branches operands outer t = .accept n) :
    t.kind = .finish ∧ outer = [] ∧ n = joinOr branches operands := by
  by_cases hbegins : Begins t
  · rw [stepAfter_of_begins hbegins] at h
    exact absurd h stepBefore_ne_accept
  · cases hk : t.kind <;> cases outer <;> simp_all [stepAfter, Begins]

/-! ## From a derivation to a run -/

theorem run_cons_of_next {s s' : State} {t : Token} (h : s.step t = .next s') (ts : List Token) :
    run s (t :: ts) = run s' ts := by
  rw [run, h]

/-- The tokens of an operand begin with one that may begin an operand. -/
theorem Derives.begins {part : Part} {d : Nat} {ts : List Token} {n : Node}
    (h : Derives part d ts n) : ∃ t ts', ts = t :: ts' ∧ Begins t := by
  induction h with
  | word hk ht => exact ⟨_, [], rfl, by simp [Begins, hk, Token.isAnd, Token.isKeyword, ht]⟩
  | phrase hk | field hk => exact ⟨_, [], rfl, by simp [Begins, hk, Token.isAnd, Token.isKeyword]⟩
  | group ho h hc ih => exact ⟨_, _, rfl, by simp [Begins, ho, Token.isAnd, Token.isKeyword]⟩
  | negated hk h ih => exact ⟨_, _, rfl, by simp [Begins, hk, Token.isAnd, Token.isKeyword]⟩
  | plain h ih | single h ih | branch h ih => exact ih
  | besides hl hr ih _ | and hl hk ht hr ih _ | or hl hk hr ih _ =>
    obtain ⟨t, ts', rfl, hbegins⟩ := ih
    exact ⟨t, _, rfl, hbegins⟩

/-- What the machine does with the tokens of a part, whatever follows them. -/
def Consumes (d : Nat) (ts : List Token) (n : Node) : Part → Prop
  | .atom => ∀ frame (outer : List Frame) rest, outer.length + d ≤ maxNesting →
      run (.before frame outer) (ts ++ rest) = run (deliver frame outer n) rest
  | .operand => ∀ branches operands (outer : List Frame) rest, outer.length + d ≤ maxNesting →
      run (.before ⟨branches, operands, false⟩ outer) (ts ++ rest) =
        run (.after branches (joinAnd operands n) outer) rest
  | .conjunction => ∀ branches (outer : List Frame) rest, outer.length + d ≤ maxNesting →
      run (.before ⟨branches, none, false⟩ outer) (ts ++ rest) = run (.after branches n outer) rest
  | .disjunction => ∃ branches operands, n = joinOr branches operands ∧
      ∀ (outer : List Frame) rest, outer.length + d ≤ maxNesting →
        run (.before .initial outer) (ts ++ rest) = run (.after branches operands outer) rest

theorem consumes_leaf {t : Token} {n : Node} (h : leaf? t = some n) (d : Nat) :
    Consumes d [t] n .atom := by
  intro frame outer rest _
  exact run_cons_of_next (by simp [State.step, stepBefore, h]) rest

/-- **The machine goes through the tokens of a derivation and puts its tree into place.** -/
theorem consumes_of_derives {part : Part} {d : Nat} {ts : List Token} {n : Node}
    (h : Derives part d ts n) : Consumes d ts n part := by
  induction h with
  | word hk ht => exact consumes_leaf (leaf?_word hk ht) _
  | phrase hk => exact consumes_leaf (by simp [leaf?, hk]) _
  | field hk => exact consumes_leaf (by simp [leaf?, hk]) _
  | group ho h hc ih =>
    rename_i d o c ts n
    obtain ⟨branches, operands, rfl, hrun⟩ := ih
    intro frame outer rest hd
    have hlt : outer.length < maxNesting := by omega
    have hopen : (State.before frame outer).step o = .next (.before .initial (frame :: outer)) := by
      simp [State.step, stepBefore, leaf?, ho, hlt]
    have hclose : (State.after branches operands (frame :: outer)).step c =
        .next (deliver frame outer (.group (joinOr branches operands))) := by
      simp [State.step, stepAfter, hc]
    rw [List.cons_append, List.cons_append, List.append_assoc, run_cons_of_next hopen,
      hrun _ _ (by rw [List.length_cons]; omega), List.singleton_append, run_cons_of_next hclose]
  | plain h ih =>
    exact fun branches operands outer rest hd => ih ⟨branches, operands, false⟩ outer rest hd
  | negated hk h ih =>
    rename_i d t ts n
    intro branches operands outer rest hd
    have hminus : (State.before ⟨branches, operands, false⟩ outer).step t =
        .next (.before ⟨branches, operands, true⟩ outer) := by
      simp [State.step, stepBefore, leaf?, hk]
    rw [List.cons_append, run_cons_of_next hminus, ih _ _ _ hd]
    rfl
  | single h ih => exact fun branches outer rest hd => ih branches none outer rest hd
  | besides hl hr ihl ihr =>
    rename_i d ts us l r
    intro branches outer rest hd
    obtain ⟨t, us', rfl, hbegins⟩ := hr.begins
    -- The operand is read as if there had been the word between the two.
    have hsame : run (.after branches l outer) (t :: us' ++ rest) =
        run (.before ⟨branches, some l, false⟩ outer) (t :: us' ++ rest) := by
      simp only [List.cons_append, run, State.step, stepAfter_of_begins hbegins]
    rw [List.append_assoc, ihl _ _ _ hd, hsame, ihr _ _ _ _ hd]
    rfl
  | and hl hk ht hr ihl ihr =>
    rename_i d t ts us l r
    intro branches outer rest hd
    have hand : (State.after branches l outer).step t =
        .next (.before ⟨branches, some l, false⟩ outer) := by
      simp [State.step, stepAfter, hk, isAnd_iff.mpr ⟨hk, ht⟩]
    rw [List.append_assoc, ihl _ _ _ hd, List.cons_append, run_cons_of_next hand, ihr _ _ _ _ hd]
    rfl
  | branch h ih => exact ⟨none, _, rfl, fun outer rest hd => ih none outer rest hd⟩
  | or hl hk hr ihl ihr =>
    rename_i d t ts us l r
    obtain ⟨branches, operands, rfl, hrun⟩ := ihl
    refine ⟨some (joinOr branches operands), r, rfl, fun outer rest hd => ?_⟩
    have hor : (State.after branches operands outer).step t =
        .next (.before ⟨some (joinOr branches operands), none, false⟩ outer) := by
      simp [State.step, stepAfter, hk]
    rw [List.append_assoc, hrun _ _ hd, List.cons_append, run_cons_of_next hor, ihr _ _ _ hd]

/-! ## From a run to a derivation -/

/-- The tokens of the branches before the last `OR`, with it. -/
inductive BranchesRead (d : Nat) : List Token → Option Node → Prop
  | none : BranchesRead d [] none
  | some {ts : List Token} {t : Token} {n : Node} (h : Derives .disjunction d ts n)
      (hk : t.kind = .or) : BranchesRead d (ts ++ [t]) (some n)

/-- The tokens of the operands since the last `OR`, with the word `AND` if it is the last. -/
inductive OperandsRead (d : Nat) : List Token → Option Node → Prop
  | none : OperandsRead d [] none
  | besides {ts : List Token} {n : Node} (h : Derives .conjunction d ts n) :
      OperandsRead d ts (some n)
  | and {ts : List Token} {t : Token} {n : Node} (h : Derives .conjunction d ts n)
      (ht : t.isAnd = true) : OperandsRead d (ts ++ [t]) (some n)

/-- The tokens in front of an atom that belong to its operand. -/
inductive SignRead : List Token → Bool → Prop
  | plain : SignRead [] false
  | minus {t : Token} (hk : t.kind = .minus) : SignRead [t] true

/-- The tokens of the part of a group that stands before an atom. -/
def FrameRead (d : Nat) (ts : List Token) (frame : Frame) : Prop :=
  ∃ bs os ms, ts = bs ++ os ++ ms ∧ BranchesRead d bs frame.branches ∧
    OperandsRead d os frame.operands ∧ SignRead ms frame.negated

/-- How many more parentheses may be open inside the given groups. -/
def depthLeft (outer : List Frame) : Nat := maxNesting - outer.length

theorem depthLeft_cons {frame : Frame} {outer : List Frame} (h : outer.length < maxNesting) :
    depthLeft (frame :: outer) + 1 = depthLeft outer := by
  simp only [depthLeft, List.length_cons]
  omega

/-- The tokens up to the parenthesis that opens the innermost group. -/
inductive OuterRead : List Token → List Frame → Prop
  | nil : OuterRead [] []
  | cons {ts us : List Token} {t : Token} {frame : Frame} {outer : List Frame}
      (houter : OuterRead ts outer) (hframe : FrameRead (depthLeft outer) us frame)
      (hk : t.kind = .openParen) (hlt : outer.length < maxNesting) :
      OuterRead (ts ++ us ++ [t]) (frame :: outer)

/-- What a state says about the tokens that led to it. -/
inductive StateRead : List Token → State → Prop
  | before {ts us : List Token} {frame : Frame} {outer : List Frame} (houter : OuterRead ts outer)
      (hframe : FrameRead (depthLeft outer) us frame) : StateRead (ts ++ us) (.before frame outer)
  | after {ts bs os : List Token} {branches : Option Node} {operands : Node} {outer : List Frame}
      (houter : OuterRead ts outer) (hbranches : BranchesRead (depthLeft outer) bs branches)
      (hoperands : Derives .conjunction (depthLeft outer) os operands) :
      StateRead (ts ++ bs ++ os) (.after branches operands outer)

theorem frameRead_initial (d : Nat) : FrameRead d [] .initial :=
  ⟨[], [], [], rfl, .none, .none, .plain⟩

theorem stateRead_initial : StateRead [] .initial :=
  .before .nil (frameRead_initial _)

/-- A branch ends a disjunction. -/
theorem BranchesRead.join {d : Nat} {bs os : List Token} {branches : Option Node} {n : Node}
    (hb : BranchesRead d bs branches) (ho : Derives .conjunction d os n) :
    Derives .disjunction d (bs ++ os) (joinOr branches n) := by
  cases hb with
  | none => exact .branch ho
  | some h hk =>
    rw [List.append_assoc]
    exact .or h hk ho

/-- An operand ends a conjunction. -/
theorem OperandsRead.join {d : Nat} {os us : List Token} {operands : Option Node} {n : Node}
    (ho : OperandsRead d os operands) (hn : Derives .operand d us n) :
    Derives .conjunction d (os ++ us) (joinAnd operands n) := by
  cases ho with
  | none => exact .single hn
  | besides h => exact .besides h hn
  | and h ht =>
    obtain ⟨hk, htext⟩ := isAnd_iff.mp ht
    rw [List.append_assoc]
    exact .and h hk htext hn

theorem SignRead.join {d : Nat} {ms us : List Token} {negated : Bool} {n : Node}
    (hm : SignRead ms negated) (hn : Derives .atom d us n) :
    Derives .operand d (ms ++ us) (if negated then .not n else n) := by
  cases hm with
  | plain => exact .plain hn
  | minus hk => exact .negated hk hn

/-- An atom is put into its place. -/
theorem StateRead.deliver {ts us vs : List Token} {frame : Frame} {outer : List Frame} {n : Node}
    (houter : OuterRead ts outer) (hframe : FrameRead (depthLeft outer) us frame)
    (hn : Derives .atom (depthLeft outer) vs n) :
    StateRead (ts ++ us ++ vs) (Grammar.deliver frame outer n) := by
  obtain ⟨bs, os, ms, rfl, hb, ho, hm⟩ := hframe
  have h := StateRead.after houter hb (ho.join (hm.join hn))
  simpa only [List.append_assoc, Grammar.deliver] using h

theorem StateRead.stepBefore {ts us : List Token} {frame : Frame} {outer : List Frame} {t : Token}
    {s : State} (houter : OuterRead ts outer) (hframe : FrameRead (depthLeft outer) us frame)
    (h : Grammar.stepBefore frame outer t = .next s) : StateRead (ts ++ us ++ [t]) s := by
  obtain ⟨atom, hleaf, rfl⟩ | ⟨hk, hneg, rfl⟩ | ⟨hk, hlt, rfl⟩ := stepBefore_eq_next h
  · exact .deliver houter hframe (derives_of_leaf? hleaf _)
  · obtain ⟨bs, os, ms, rfl, hb, ho, hm⟩ := hframe
    rw [hneg] at hm
    cases hm
    rw [List.append_nil, List.append_assoc ts]
    exact .before houter ⟨bs, os, [t], rfl, hb, ho, .minus hk⟩
  · have hbefore := StateRead.before (.cons houter hframe hk hlt) (frameRead_initial _)
    rwa [List.append_nil] at hbefore

/-- **A step keeps what the state says about the tokens.** -/
theorem StateRead.step {ts : List Token} {s s' : State} {t : Token} (hs : StateRead ts s)
    (h : s.step t = .next s') : StateRead (ts ++ [t]) s' := by
  cases hs with
  | before houter hframe => exact .stepBefore houter hframe h
  | after houter hbranches hoperands =>
    rename_i ts bs os branches operands outer
    obtain ⟨hk, rfl⟩ | ⟨hk, frame, outer, rfl, rfl⟩ | ⟨hand, rfl⟩ | ⟨-, h⟩ := stepAfter_eq_next h
    · have hb := BranchesRead.some (hbranches.join hoperands) hk
      rw [List.append_assoc ts, List.append_assoc ts]
      exact .before houter ⟨_, [], [], by simp, hb, .none, .plain⟩
    · -- The group that ends is one atom of the group around it.
      cases houter with
      | cons houter hframe ho hlt =>
        have hgroup := Derives.group ho (hbranches.join hoperands) hk
        have hdeliver := StateRead.deliver houter hframe (depthLeft_cons hlt ▸ hgroup)
        simpa only [List.append_assoc, List.cons_append, List.nil_append] using hdeliver
    · rw [List.append_assoc ts, List.append_assoc ts]
      exact .before houter ⟨bs, os ++ [t], [], by simp, hbranches, .and hoperands hand, .plain⟩
    · have hframe : FrameRead (depthLeft outer) (bs ++ os) ⟨branches, some operands, false⟩ :=
        ⟨bs, os, [], by simp, hbranches, .besides hoperands, .plain⟩
      have hstep := StateRead.stepBefore houter hframe h
      rwa [List.append_assoc ts]

/-- What is accepted has a derivation, and ends there. -/
theorem StateRead.accept {ts : List Token} {s : State} {t : Token} {n : Node} (hs : StateRead ts s)
    (h : s.step t = .accept n) : t.kind = .finish ∧ Derives .disjunction maxNesting ts n := by
  cases hs with
  | before houter hframe => exact absurd h stepBefore_ne_accept
  | after houter hbranches hoperands =>
    obtain ⟨hk, rfl, rfl⟩ := stepAfter_eq_accept h
    cases houter
    exact ⟨hk, hbranches.join hoperands⟩

/-- An accepted list of tokens is a derivation and the end of the query. -/
theorem derives_of_run {ts us : List Token} {s : State} {n : Node} (hs : StateRead ts s)
    (h : run s us = some (.ok n)) :
    ∃ vs t ws, us = vs ++ t :: ws ∧ t.kind = .finish ∧
      Derives .disjunction maxNesting (ts ++ vs) n := by
  induction us generalizing ts s with
  | nil => simp [run] at h
  | cons t us ih =>
    rw [run] at h
    cases hstep : s.step t with
    | next s' =>
      rw [hstep] at h
      obtain ⟨vs, t', ws, rfl, hk, hd⟩ := ih (hs.step hstep) h
      exact ⟨t :: vs, t', ws, rfl, hk, by simpa using hd⟩
    | accept m =>
      rw [hstep] at h
      obtain rfl : m = n := by simpa using h
      obtain ⟨hk, hd⟩ := hs.accept hstep
      exact ⟨[], t, us, rfl, hk, by simpa using hd⟩
    | reject p e => simp [hstep] at h

/-! ## The grammar and the machine -/

/-- The machine accepts the tokens of a derivation and the end of the query. -/
theorem run_of_derives {ts : List Token} {e : Token} {n : Node}
    (h : Derives .disjunction maxNesting ts n) (he : e.kind = .finish) :
    run .initial (ts ++ [e]) = some (.ok n) := by
  obtain ⟨branches, operands, rfl, hrun⟩ := consumes_of_derives h
  rw [State.initial, hrun [] [e] (Nat.le_of_eq (Nat.zero_add _))]
  simp [run, State.step, stepAfter, he]

/-- **The machine accepts exactly the grammar**: it answers the tokens of a query and its end with
a tree just if the tree has a derivation from the tokens. -/
theorem run_eq_ok_iff_derives {ts : List Token} {e : Token} (hts : ∀ t ∈ ts, t.kind ≠ .finish)
    (he : e.kind = .finish) (n : Node) :
    run .initial (ts ++ [e]) = some (.ok n) ↔ Derives .disjunction maxNesting ts n := by
  constructor
  · intro h
    obtain ⟨vs, t, ws, heq, hk, hd⟩ := derives_of_run stateRead_initial h
    -- The first end among the tokens is the last of them.
    have hvs : vs = ts := by
      rcases List.append_eq_append_iff.mp heq with ⟨us, rfl, hus⟩ | ⟨us, rfl, hus⟩
      · cases us with
        | nil => exact List.append_nil ts
        | cons u us => simp at hus
      · cases us with
        | nil => exact (List.append_nil vs).symm
        | cons u us =>
          obtain ⟨rfl, -⟩ := List.cons.inj hus
          exact absurd hk (hts t (by simp))
    simpa [hvs] using hd
  · exact fun h => run_of_derives h he

/-- A list of tokens has no more than one tree. -/
theorem Derives.unique {ts : List Token} {n n' : Node} (h : Derives .disjunction maxNesting ts n)
    (h' : Derives .disjunction maxNesting ts n') : n = n' := by
  have heq := (run_of_derives h (e := .endAt 0) rfl).symm.trans (run_of_derives h' rfl)
  simpa using heq

end SearchQuery.Grammar
