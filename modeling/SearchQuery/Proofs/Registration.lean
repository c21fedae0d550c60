import SearchQuery.Proofs.Priority
import SearchQuery.Proofs.Termination

/-!
# Registering one more rule

A rule that is registered last is tried after all structural rules and all rules of the caller, and
before those for words and signs. Two scanners are compared on one query, of which the second has
one more rule than the first.

* `Scanner.TakesOver`: the first scanner comes to a step that would follow a rule for words and
  signs, while the new rule applies there. This is the only kind of step at which the two differ
  (`Scanner.lexeme_register`), and there the new rule is followed (`Scanner.lexeme_of_takesOver`).
* `Scanner.stepsWithin`: the tokens of a number of steps, white space included. Up to the first step
  that is taken over, both scanners take the same steps (`Scanner.stepsWithin_register`).
* Where no step is taken over, the tokens, the answer and all that is left behind are the same
  (`Scanner.tokensWithin_register`, `Parser.answerWithin_register`).
-/

namespace SearchQuery

namespace Scanner

/-! ## The step that a new rule takes over -/

/-- A rule would take over the next step: no structural rule and no rule of the caller applies, and
the rule finds a text other than the word that a field may not take. -/
structure TakesOver (r : Rule) (s : Scanner) : Prop where
  generic : ∀ r' ∈ Rule.structural ++ s.fields, lexeme? s.rest r' = none
  applies : ∃ token rest, r.cut? s.rest = some (token, rest) ∧
    (r.kind.isField = true → String.ofList token ≠ andKeyword)

/-- What a rule takes is what it finds, unless it is a field that finds the word `AND`. -/
theorem lexeme?_eq_some_iff {text : List Char} {r : Rule} {x : Lexeme} :
    lexeme? text r = some x ↔ ∃ token rest, r.cut? text = some (token, rest) ∧
      (r.kind.isField = true → String.ofList token ≠ andKeyword) ∧
        x = ⟨r.kind, String.ofList token, rest⟩ := by
  unfold lexeme?
  cases hcut : r.cut? text with
  | none => simp
  | some found =>
    obtain ⟨token, rest⟩ := found
    by_cases hand : r.kind.isField = true ∧ String.ofList token = andKeyword
    · simp [hand.1, hand.2]
    · have hkept : r.kind.isField = true → String.ofList token ≠ andKeyword :=
        fun hfield heq => hand ⟨hfield, heq⟩
      simp only [Bool.and_eq_true, decide_eq_true_eq, if_neg hand, Option.some.injEq, Prod.mk.injEq]
      constructor
      · rintro rfl
        exact ⟨token, rest, ⟨rfl, rfl⟩, hkept, rfl⟩
      · rintro ⟨token', rest', ⟨rfl, rfl⟩, -, rfl⟩
        rfl

theorem takesOver_iff {r : Rule} {s : Scanner} :
    s.TakesOver r ↔ early? s.fields s.rest = none ∧ (lexeme? s.rest r).isSome := by
  rw [early?, List.findSome?_eq_none_iff, Option.isSome_iff_exists]
  constructor
  · rintro ⟨hgeneric, token, rest, hcut, hkept⟩
    exact ⟨hgeneric, _, lexeme?_eq_some_iff.mpr ⟨token, rest, hcut, hkept, rfl⟩⟩
  · rintro ⟨hgeneric, x, hx⟩
    obtain ⟨token, rest, hcut, hkept, -⟩ := lexeme?_eq_some_iff.mp hx
    exact ⟨hgeneric, token, rest, hcut, hkept⟩

/-- With one more rule, a step takes what the rules before it take, then what it takes, and then what
the rules for words and signs take. -/
theorem lexeme_register (s : Scanner) (r : Rule) :
    (s.register r).lexeme =
      (((early? s.fields s.rest).or (lexeme? s.rest r)).or
        (Rule.generic.findSome? (lexeme? s.rest))).getD ⟨.illegal, s.remaining, []⟩ := by
  have hrules : (s.register r).rules = Rule.structural ++ s.fields ++ [r] ++ Rule.generic := by
    simp only [rules, register, List.append_assoc]
  rw [lexeme, hrules, List.findSome?_append, List.findSome?_append, List.findSome?_singleton]
  rfl

theorem lexeme_eq_or (s : Scanner) :
    s.lexeme = ((early? s.fields s.rest).or
      (Rule.generic.findSome? (lexeme? s.rest))).getD ⟨.illegal, s.remaining, []⟩ := by
  rw [lexeme, rules, List.findSome?_append, ← early?]

/-- **A step that is taken over follows the new rule.** -/
theorem lexeme_of_takesOver {s : Scanner} {r : Rule} (h : s.TakesOver r) :
    ∃ token rest, r.cut? s.rest = some (token, rest) ∧
      (s.register r).lexeme = ⟨r.kind, String.ofList token, rest⟩ := by
  obtain ⟨hearly, hsome⟩ := takesOver_iff.mp h
  obtain ⟨x, hx⟩ := Option.isSome_iff_exists.mp hsome
  obtain ⟨token, rest, hcut, -, rfl⟩ := lexeme?_eq_some_iff.mp hx
  refine ⟨token, rest, hcut, ?_⟩
  rw [lexeme_register, hearly, hx]
  rfl

/-- **Every other step is as without the new rule.** -/
theorem lexeme_of_not_takesOver {s : Scanner} {r : Rule} (h : ¬ s.TakesOver r) :
    (s.register r).lexeme = s.lexeme := by
  rw [lexeme_register, lexeme_eq_or]
  cases hearly : early? s.fields s.rest with
  | some x => rfl
  | none =>
    have hnone : lexeme? s.rest r = none := by
      cases hx : lexeme? s.rest r with
      | none => rfl
      | some x => exact absurd (takesOver_iff.mpr ⟨hearly, by simp [hx]⟩) h
    rw [hnone]
    rfl

theorem scan_of_not_takesOver {s : Scanner} {r : Rule} (h : ¬ s.TakesOver r) :
    (s.register r).scan = (s.scan.1, s.scan.2.register r) := by
  rw [scan, lexeme_of_not_takesOver h]
  rfl

theorem stepped_of_not_takesOver {s : Scanner} {r : Rule} (h : ¬ s.TakesOver r) :
    (s.register r).stepped = s.stepped.register r := by
  rw [stepped, scan_of_not_takesOver h, stepped]
  split <;> rfl

/-- A rule that comes before the new one is never displaced. -/
theorem not_takesOver_of_applies {s : Scanner} {r r' : Rule}
    (hr' : r' ∈ Rule.structural ++ s.fields) (h : (lexeme? s.rest r').isSome) :
    ¬ s.TakesOver r := by
  intro htakes
  simp [htakes.generic r' hr'] at h

/-! ## Steps of the two scanners -/

/-- The tokens of the next `n` steps, white space included, and the scanner after them. There are
fewer if the query ends before. -/
def stepsWithin : Nat → Scanner → List Token × Scanner
  | 0, s => ([], s)
  | n + 1, s =>
    if s.rest.isEmpty then ([], s)
    else
      let (ts, s') := stepsWithin n s.stepped
      (s.scan.1 :: ts, s')

/-- The points of a query that a number of steps leads to are those that are reached. -/
theorem reaches_iff_stepsWithin {s s' : Scanner} :
    s.Reaches s' ↔ ∃ n, (s.stepsWithin n).2 = s' := by
  constructor
  · intro h
    induction h using Relation.ReflTransGen.head_induction_on with
    | refl => exact ⟨0, rfl⟩
    | head hstep h ih =>
      obtain ⟨hs, rfl⟩ := hstep
      obtain ⟨n, hn⟩ := ih
      refine ⟨n + 1, ?_⟩
      rw [stepsWithin, if_neg (by simpa using hs)]
      exact hn
  · rintro ⟨n, rfl⟩
    induction n generalizing s with
    | zero => exact .refl
    | succ n ih =>
      by_cases hs : s.rest.isEmpty = true
      · rw [stepsWithin, if_pos hs]
        exact .refl
      · rw [stepsWithin, if_neg hs]
        exact .head ⟨by simpa using hs, rfl⟩ ih

/-- **Up to the first step that is taken over, both scanners take the same steps.** -/
theorem stepsWithin_register {r : Rule} {n : Nat} {s : Scanner}
    (h : ∀ m < n, ¬ (s.stepsWithin m).2.TakesOver r) :
    (s.register r).stepsWithin n = ((s.stepsWithin n).1, (s.stepsWithin n).2.register r) := by
  induction n generalizing s with
  | zero => rfl
  | succ n ih =>
    by_cases hs : s.rest.isEmpty = true
    · rw [stepsWithin, stepsWithin, if_pos (show (s.register r).rest.isEmpty = true from hs),
        if_pos hs]
    · have hfirst : ¬ s.TakesOver r := h 0 (Nat.succ_pos n)
      have hlater : ∀ m < n, ¬ (s.stepped.stepsWithin m).2.TakesOver r := by
        intro m hm
        have hsucc := h (m + 1) (Nat.succ_lt_succ hm)
        rwa [stepsWithin, if_neg hs] at hsucc
      rw [stepsWithin, stepsWithin, if_neg (show ¬ (s.register r).rest.isEmpty = true from hs),
        if_neg hs, stepped_of_not_takesOver hfirst, ih hlater, scan_of_not_takesOver hfirst]

/-! ## Queries without such a step -/

section Untouched

variable {r : Rule} {s : Scanner}

/-- A token that does not end the query is passed. -/
theorem passes_of_advance {s' : Scanner} {t : Token} (h : s.advance = some (t, s'))
    (ht : t.kind ≠ .finish) : s.Passes s' := by
  obtain ⟨s₁, hskips, ⟨-, ha⟩ | ⟨hs, -, ha⟩ | ⟨-, -, -, ha⟩⟩ := advance_cases s
  · obtain ⟨rfl, -⟩ := Prod.mk.inj (Option.some.inj (h.symm.trans ha))
    exact absurd rfl ht
  · obtain ⟨rfl, rfl⟩ := Prod.mk.inj (Option.some.inj (h.symm.trans ha))
    exact hskips.passes.trans (.step hs ht (.refl _))
  · simp [h] at ha

theorem advanceWithin_register (h : ∀ s', s.Passes s' → ¬ s'.TakesOver r) (n : Nat) :
    (s.register r).advanceWithin n =
      (s.advanceWithin n).map fun (t, s') => (t, s'.register r) := by
  induction n generalizing s with
  | zero => rfl
  | succ n ih =>
    have hfirst : ¬ s.TakesOver r := h s (.refl s)
    rw [advanceWithin_succ, advanceWithin_succ, lexeme_of_not_takesOver hfirst,
      stepped_of_not_takesOver hfirst, scan_of_not_takesOver hfirst]
    by_cases hs : s.rest = []
    · rw [if_pos hs, if_pos (show (s.register r).rest = [] from hs)]
      rfl
    · rw [if_neg hs, if_neg (show ¬ (s.register r).rest = [] from hs)]
      by_cases hk : s.lexeme.kind = .whiteSpace
      · rw [if_pos hk, if_pos hk]
        exact ih fun s' hs' => h s' (.step hs (by simp [hk]) hs')
      · rw [if_neg hk, if_neg hk]
        rfl

theorem advance_register (h : ∀ s', s.Passes s' → ¬ s'.TakesOver r) :
    (s.register r).advance = s.advance.map fun (t, s') => (t, s'.register r) :=
  advanceWithin_register h _

/-- The tokens of a query are the same if no step before its end is taken over. -/
theorem tokensWithin_register (h : ∀ s', s.Passes s' → ¬ s'.TakesOver r) (n : Nat) :
    (s.register r).tokensWithin n =
      (s.tokensWithin n).map fun (ts, s') => (ts, s'.register r) := by
  induction n generalizing s with
  | zero => rfl
  | succ n ih =>
    rw [tokensWithin, tokensWithin, advance_register h]
    cases ha : s.advance with
    | none => rfl
    | some found =>
      obtain ⟨t, s'⟩ := found
      simp only [Option.map_some]
      by_cases hend : t.isEnd = true
      · rw [if_pos hend, if_pos hend]
        rfl
      · have hpasses : s.Passes s' := passes_of_advance ha (by simpa [Token.isEnd] using hend)
        rw [if_neg hend, if_neg hend, ih fun s₁ hs₁ => h s₁ (hpasses.trans hs₁), Option.map_map,
          Option.map_map]
        rfl

end Untouched

end Scanner

namespace Parser

open Grammar

/-- A parser whose scanner has one more rule. -/
def register (p : Parser) (r : Rule) : Parser := { p with scanner := p.scanner.register r }

theorem step_ne_next_of_finish {p : Parser} {state state' : State} {t : Token}
    (ht : t.kind = .finish) : p.step state t ≠ .next state' := by
  rw [step, if_neg (by simp [ht])]
  exact step_finish ht state state'

/-- The answer to a query is the same if no step before its end is taken over. -/
theorem answerWithin_register {r : Rule} {p : Parser}
    (h : ∀ s', p.scanner.Passes s' → ¬ s'.TakesOver r) (n : Nat) (state : State) :
    answerWithin n (p.register r) state =
      (answerWithin n p state).map fun (result, p') => (result, p'.register r) := by
  induction n generalizing p state with
  | zero => rfl
  | succ n ih =>
    have hadvance : (p.register r).scanner.advance =
        p.scanner.advance.map fun (t, s') => (t, s'.register r) := Scanner.advance_register h
    rw [answerWithin, answerWithin, hadvance]
    cases ha : p.scanner.advance with
    | none => rfl
    | some found =>
      obtain ⟨t, s'⟩ := found
      simp only [Option.map_some, show (p.register r).step state t = p.step state t from rfl]
      cases hstep : p.step state t with
      | accept node => rfl
      | reject problem e => rfl
      | next state' =>
        have ht : t.kind ≠ .finish := fun ht => step_ne_next_of_finish ht hstep
        have hpasses : p.scanner.Passes s' := Scanner.passes_of_advance ha ht
        exact ih (p := { p with
            scanner := s', current := t, depth := p.depthAfter state (.next state') })
          (fun s₁ hs₁ => h s₁ (hpasses.trans hs₁)) state'

/-- **A rule that is registered last takes over from the rules for words and signs only.** With and
without it, a scanner takes the same steps through a query up to the first that would follow a rule
for words and signs while the new rule applies; this one gives the kind and the text of the new
rule. A step that follows a structural rule or an earlier rule of the caller stays as it is. If no
step up to the end of the query is taken over, the tokens, the answer of the parser and what they
leave behind are the same. -/
theorem register_takes_over_generic (p : Parser) (r : Rule) (input : String) :
    (∀ n, (∀ m < n, ¬ ((p.scanner.read input).stepsWithin m).2.TakesOver r) →
      ((p.scanner.register r).read input).stepsWithin n =
        (((p.scanner.read input).stepsWithin n).1,
          ((p.scanner.read input).stepsWithin n).2.register r)) ∧
    (∀ n, (∀ m < n, ¬ ((p.scanner.read input).stepsWithin m).2.TakesOver r) →
      ((p.scanner.read input).stepsWithin n).2.TakesOver r →
        ∃ token rest, r.cut? ((p.scanner.read input).stepsWithin n).2.rest = some (token, rest) ∧
          (((p.scanner.register r).read input).stepsWithin n).2.scan.1 =
            ⟨r.kind, some (String.ofList token),
              ((p.scanner.read input).stepsWithin n).2.position⟩) ∧
    (∀ s : Scanner, (∃ r' ∈ Rule.structural ++ s.fields, (Scanner.lexeme? s.rest r').isSome) →
      (s.register r).scan = (s.scan.1, s.scan.2.register r)) ∧
    ((∀ s', (p.scanner.read input).Passes s' → ¬ s'.TakesOver r) →
      (p.scanner.register r).tokenize input =
        (p.scanner.tokenize input).map (fun (ts, s') => (ts, s'.register r)) ∧
      (p.register r).parseText input =
        (p.parseText input).map fun (result, p') => (result, p'.register r)) := by
  refine ⟨fun n h => Scanner.stepsWithin_register h, fun n h htakes => ?_, ?_, fun h => ⟨?_, ?_⟩⟩
  · obtain ⟨token, rest, hcut, hlexeme⟩ := Scanner.lexeme_of_takesOver htakes
    refine ⟨token, rest, hcut, ?_⟩
    have hsteps : ((p.scanner.register r).read input).stepsWithin n = _ :=
      Scanner.stepsWithin_register (s := p.scanner.read input) h
    rw [hsteps, Scanner.scan_fst, hlexeme]
    rfl
  · rintro s ⟨r', hr', happlies⟩
    exact Scanner.scan_of_not_takesOver (Scanner.not_takesOver_of_applies hr' happlies)
  · exact Scanner.tokensWithin_register h _
  · have hanswer := answerWithin_register (p := { p.read input with ready := false }) h
      (tokenBound (p.read input).scanner) .initial
    simp only [parseText, parse]
    rw [if_pos (show ((p.register r).read input).ready = true from rfl),
      if_pos (show (p.read input).ready = true from rfl)]
    refine (congrArg (Option.map _) hanswer).trans ?_
    rw [Option.map_map, Option.map_map]
    rfl

end Parser

end SearchQuery
