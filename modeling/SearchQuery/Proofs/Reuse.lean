import SearchQuery.Proofs.Parsing
import SearchQuery.Proofs.Positions

/-!
# Parsers in use

A parser may be used over and over, also after a query that has failed, of which groups may still be
open and text may still be left. Nothing of this is left once the next query is read: all that a
parser keeps is the rules of its scanner.

* `Call`, `calls`: what can be done with a parser, and the parser after a history of calls.
* `Waits`: in the history, a query has been read and not been parsed since.
* `Follows`: what a history says about the parser after it. A call keeps it (`Follows.call`), so it
  holds after every history (`Follows.calls`).
* `parseText_eq_of_calls`: after every history, a query is parsed as by a new parser.
-/

namespace SearchQuery

theorem Scanner.fields_advance {s s' : Scanner} {t : Token} (h : s.advance = some (t, s')) :
    s'.fields = s.fields := by
  obtain ⟨s₁, hskips, ⟨-, ha⟩ | ⟨-, -, ha⟩ | ⟨-, -, -, ha⟩⟩ := advance_cases s
  · obtain ⟨-, rfl⟩ := Prod.mk.inj (Option.some.inj (h.symm.trans ha))
    exact hskips.reaches.fields_eq
  · obtain ⟨-, rfl⟩ := Prod.mk.inj (Option.some.inj (h.symm.trans ha))
    exact (fields_stepped s₁).trans hskips.reaches.fields_eq
  · simp [h] at ha

namespace Parser

open Grammar

/-! ## What an answer leaves behind -/

/-- A step of the grammar that accepts ends outside of all groups. -/
theorem depth_of_step_eq_accept {state : State} {t : Token} {n : Node}
    (h : state.step t = .accept n) : state.depth = 0 := by
  cases state with
  | before frame outer => exact absurd h stepBefore_ne_accept
  | after branches operands outer =>
    obtain ⟨-, rfl, -⟩ := stepAfter_eq_accept h
    rfl

/-- Taking tokens changes neither the rules nor whether a query is waiting. If the open groups are
counted right, then none is open at the end of a query with a tree. -/
theorem answerWithin_eq_some {n : Nat} {p p' : Parser} {state : State}
    {result : Except SyntaxError Node} (h : answerWithin n p state = some (result, p')) :
    p'.scanner.fields = p.scanner.fields ∧ p'.ready = p.ready ∧
      (p.depth = state.depth → result.isOk = true → p'.depth = 0) := by
  induction n generalizing p state with
  | zero => simp [answerWithin] at h
  | succ n ih =>
    rw [answerWithin] at h
    cases ha : p.scanner.advance with
    | none => simp [ha] at h
    | some r =>
      obtain ⟨t, s⟩ := r
      have hfields := Scanner.fields_advance ha
      simp only [ha] at h
      cases hstep : p.step state t with
      | next state' =>
        simp only [hstep] at h
        obtain ⟨hfields', hready, hdepth⟩ := ih h
        exact ⟨hfields'.trans hfields, hready, fun hd => hdepth (depthAfter_next hd state')⟩
      | accept node =>
        simp only [hstep, Option.some.injEq, Prod.mk.injEq] at h
        obtain ⟨rfl, rfl⟩ := h
        refine ⟨hfields, rfl, fun hd _ => hd.trans ?_⟩
        exact depth_of_step_eq_accept (step_eq_of_depth hd t ▸ hstep)
      | reject problem e =>
        simp only [hstep, Option.some.injEq, Prod.mk.injEq] at h
        obtain ⟨rfl, rfl⟩ := h
        exact ⟨hfields, rfl, fun _ hok => by simp [Except.isOk, Except.toBool] at hok⟩

theorem parse_of_not_ready {p : Parser} (h : p.ready = false) :
    p.parse = some (.error .notReady, p) := by
  simp [parse, h]

/-- What an answer to the waiting query leaves behind. -/
theorem parse_of_ready {p p' : Parser} {result : Except ParseError Node} (hr : p.ready = true)
    (h : p.parse = some (result, p')) :
    result ≠ .error .notReady ∧ p'.scanner.fields = p.scanner.fields ∧ p'.ready = false ∧
      (p.depth = 0 → result.isOk = true → p'.depth = 0) := by
  rw [parse, if_pos hr] at h
  obtain ⟨⟨answer, p₁⟩, hanswer, heq⟩ := Option.map_eq_some_iff.mp h
  obtain ⟨rfl, rfl⟩ := Prod.mk.inj heq
  obtain ⟨hfields, hready, hdepth⟩ := answerWithin_eq_some hanswer
  refine ⟨?_, hfields, hready, fun hd hok => hdepth hd ?_⟩
  · cases answer <;> simp [Except.mapError]
  · cases answer with
    | ok n => rfl
    | error e => simp [Except.mapError, Except.isOk, Except.toBool] at hok

/-- Of all that has been, reading a query keeps the rules only. -/
theorem read_eq_of_fields {p p' : Parser} (h : p.scanner.fields = p'.scanner.fields)
    (input : String) : p.read input = p'.read input := by
  simp only [read, Scanner.read, h]

/-! ## Histories -/

/-- What can be done with a parser. -/
inductive Call where
  | read (input : String)
  | parse
  | parseText (input : String)

/-- Whether the call parses a query, or tries to. -/
def Call.parses : Call → Bool
  | read _ => false
  | parse | parseText _ => true

/-- The parser after a call. There is none if the call never ends. -/
def call (p : Parser) : Call → Option Parser
  | .read input => some (p.read input)
  | .parse => p.parse.map (·.2)
  | .parseText input => (p.parseText input).map (·.2)

/-- The parser after one call and the next. -/
def calls (p : Parser) (history : List Call) : Option Parser := history.foldlM call p

/-- In the history, a query has been read and not been parsed since. -/
def Waits (history : List Call) : Prop :=
  ∃ before input after, history = before ++ .read input :: after ∧ ∀ c ∈ after, c.parses = false

theorem not_waits_nil : ¬ Waits [] := by
  rintro ⟨before, input, after, h, -⟩
  simp at h

theorem waits_append_read (history : List Call) (input : String) :
    Waits (history ++ [.read input]) :=
  ⟨history, input, [], rfl, by simp⟩

/-- After a call that parses, no query is waiting. -/
theorem not_waits_append {c : Call} (hc : c.parses = true) (history : List Call) :
    ¬ Waits (history ++ [c]) := by
  rintro ⟨before, input, after, h, hafter⟩
  have hmem : c ∈ Call.read input :: after := by
    have hlast := congrArg List.getLast? h
    rw [List.getLast?_append, List.getLast?_append, List.getLast?_singleton] at hlast
    refine List.mem_of_getLast? ?_
    simpa using hlast.symm
  rcases List.mem_cons.mp hmem with rfl | hmem
  · cases hc
  · simp [hafter c hmem] at hc

/-- What a history says about a parser over a scanner with the given rules: the rules are still the
same, and a query is waiting just if the history says so, and then no group is open. -/
structure Follows (fields : List Rule) (history : List Call) (p : Parser) : Prop where
  fields_eq : p.scanner.fields = fields
  ready_iff : p.ready = true ↔ Waits history
  depth_eq : p.ready = true → p.depth = 0

theorem follows_ofScanner (s : Scanner) : Follows s.fields [] (ofScanner s) :=
  ⟨rfl, by simp [ofScanner, not_waits_nil], by simp [ofScanner]⟩

variable {fields : List Rule} {history : List Call} {p p' : Parser}

theorem Follows.read (h : Follows fields history p) (input : String) :
    Follows fields (history ++ [.read input]) (p.read input) :=
  ⟨h.fields_eq, by simp [Parser.read, waits_append_read], fun _ => rfl⟩

/-- A parser after an answer, whether or not there was a query to answer. -/
theorem follows_of_parse {c : Call} (hc : c.parses = true) (hfields : p.scanner.fields = fields)
    {result : Except ParseError Node} (hp : p.parse = some (result, p')) :
    Follows fields (history ++ [c]) p' := by
  have hwaits := not_waits_append hc history
  cases hr : p.ready with
  | false =>
    obtain ⟨-, rfl⟩ := Prod.mk.inj (Option.some.inj ((parse_of_not_ready hr).symm.trans hp))
    exact ⟨hfields, by simp [hr, hwaits], by simp [hr]⟩
  | true =>
    obtain ⟨-, hfields', hready, -⟩ := parse_of_ready hr hp
    exact ⟨hfields'.trans hfields, by simp [hready, hwaits], by simp [hready]⟩

/-- **A call keeps what the history says.** -/
theorem Follows.call {c : Call} (h : Follows fields history p) (hc : p.call c = some p') :
    Follows fields (history ++ [c]) p' := by
  cases c with
  | read input =>
    obtain rfl := Option.some.inj hc
    exact h.read input
  | parse =>
    obtain ⟨⟨result, p₁⟩, hp, rfl⟩ := Option.map_eq_some_iff.mp hc
    exact follows_of_parse rfl h.fields_eq hp
  | parseText input =>
    obtain ⟨⟨result, p₁⟩, hp, rfl⟩ := Option.map_eq_some_iff.mp hc
    exact follows_of_parse (p := p.read input) rfl h.fields_eq hp

/-- **After every history, the parser is as the history says.** -/
theorem Follows.calls {before : List Call} (h : Follows fields before p)
    (hc : p.calls history = some p') : Follows fields (before ++ history) p' := by
  induction history generalizing before p with
  | nil =>
    obtain rfl := Option.some.inj hc
    rwa [List.append_nil]
  | cons c history ih =>
    obtain ⟨p₁, hcall, hcalls⟩ := Option.bind_eq_some_iff.mp hc
    simpa using ih (h.call hcall) hcalls

/-! ## Parsing after a history -/

/-- **The past of a parser does not matter.** Whatever has been done with a parser over a scanner,
it gives to every query the answer of a new parser over a new scanner with the same rules, and is in
the same state after it. It refuses to parse just if no query was read since it was made or last
parsed, and then stays as it is. No group is open after a query that has a tree. -/
theorem parseText_eq_of_calls {s : Scanner} (h : (ofScanner s).calls history = some p') :
    (∀ input, p'.parseText input = (ofScanner (.ofRules s.fields)).parseText input) ∧
    (p'.parse.map (·.1) = some (.error .notReady) ↔ ¬ Waits history) ∧
    (¬ Waits history → p'.parse = some (.error .notReady, p')) ∧
    (∀ n p'', p'.parse = some (.ok n, p'') → p''.depth = 0) ∧
    (∀ input n p'', p'.parseText input = some (.ok n, p'') → p''.depth = 0) := by
  have hfollows : Follows s.fields history p' := (follows_ofScanner s).calls h
  have hrefuses (hwaits : ¬ Waits history) : p'.parse = some (.error .notReady, p') :=
    parse_of_not_ready (by simpa using mt hfollows.ready_iff.mp hwaits)
  refine ⟨fun input => ?_, ⟨fun hparse hwaits => ?_, fun hwaits => ?_⟩, hrefuses,
    fun n p'' hparse => ?_, fun input n p'' hparse => ?_⟩
  · have hfields : p'.scanner.fields = (ofScanner (.ofRules s.fields)).scanner.fields :=
      hfollows.fields_eq
    rw [parseText, parseText, read_eq_of_fields hfields]
  · obtain ⟨⟨result, p₁⟩, hp, hresult⟩ := Option.map_eq_some_iff.mp hparse
    exact (parse_of_ready (hfollows.ready_iff.mpr hwaits) hp).1 hresult
  · rw [hrefuses hwaits]
    rfl
  · cases hr : p'.ready with
    | false => simp [parse_of_not_ready hr] at hparse
    | true => exact (parse_of_ready hr hparse).2.2.2 (hfollows.depth_eq hr) rfl
  · exact (parse_of_ready (p := p'.read input) rfl hparse).2.2.2 rfl rfl

/-- After a query that has failed inside of a group, one that was read in vain, and a call that was
refused, a parser is as good as new. -/
theorem parseText_eq_of_calls_hash :
    let history : List Call := [.parse, .parseText "(# (a", .read "b", .read "-#", .parse, .parse]
    (hashParser.calls (history.take 2)).map (·.depth) = some 1 ∧
    ∃ p', hashParser.calls history = some p' ∧
      (∀ input, p'.parseText input = hashParser.parseText input) ∧
      p'.parse = some (.error .notReady, p') := by
  intro history
  have hsome : (hashParser.calls history).isSome = true := by decide +kernel
  obtain ⟨p', h⟩ := Option.isSome_iff_exists.mp hsome
  obtain ⟨hanswer, -, hrefuses, -, -⟩ := parseText_eq_of_calls (s := hashParser.scanner) h
  have hwaits : ¬ Waits history := not_waits_append (c := .parse) rfl history.dropLast
  exact ⟨by decide +kernel, p', h, hanswer, hrefuses hwaits⟩

end Parser

end SearchQuery
