import SearchQuery.Grammar
import SearchQuery.Scanner

/-!
# Parsing queries

A parser takes tokens from its scanner one at a time, just as many as it needs to give an answer.
It counts the groups that are open, and refuses one more than there may be. It has to be given a
query before it parses, and once parsed the query is used up.
-/

namespace SearchQuery

/-- A parser over a scanner. -/
structure Parser where
  scanner : Scanner
  /-- The token that it has come to. -/
  current : Token
  /-- Whether a query is waiting to be parsed. -/
  ready : Bool
  /-- The number of groups that are open. -/
  depth : Nat
  deriving DecidableEq, Repr

/-- Why there is no tree. -/
inductive ParseError where
  /-- No query was waiting. -/
  | notReady
  | malformed (e : SyntaxError)
  deriving DecidableEq, Repr

namespace Parser

open Grammar (State Outcome)

/-- A parser that waits for a query. -/
def ofScanner (s : Scanner) : Parser := ⟨s, .endAt 0, false, 0⟩

/-- A parser with the built-in rules only. -/
def new : Parser := ofScanner .new

/-- Goes to the beginning of a query. -/
def read (p : Parser) (input : String) : Parser := ⟨p.scanner.read input, .endAt 0, true, 0⟩

/-- What a token does in a state of the grammar. Whether a group may be opened is told by the number
of those that are open. -/
def step (p : Parser) (state : State) (t : Token) : Outcome :=
  if t.kind = .openParen ∧ Grammar.maxNesting ≤ p.depth then .reject .tooDeep .operand
  else state.step t

/-- The number of groups that are open after a token. A group of which the end is missing is open no
longer. -/
def depthAfter (p : Parser) (state : State) : Outcome → Nat
  | .next state' => p.depth + state'.depth - state.depth
  | .reject .missingClose _ => p.depth - 1
  | _ => p.depth

/-- Takes at most `n` tokens and hands them to the grammar. -/
def answerWithin : Nat → Parser → State → Option (Except SyntaxError Node × Parser)
  | 0, _, _ => none
  | n + 1, p, state =>
    match p.scanner.advance with
    | none => none
    | some (t, s) =>
      let outcome := p.step state t
      let p' := { p with scanner := s, current := t, depth := p.depthAfter state outcome }
      match outcome with
      | .next state' => answerWithin n p' state'
      | .accept node => some (.ok node, p')
      | .reject problem e =>
        some (.error (.ofToken (problem.message t) e t p.scanner.input), p')

/-- A number of tokens that is enough for every query that has an answer: tokens that take a
character are no more than there are characters, and of a token that takes none the grammar
refuses a repetition after the deepest nesting, unless it accepts it for ever. -/
def tokenBound (s : Scanner) : Nat := s.rest.length + Grammar.maxNesting + 2

/-- Parses the waiting query. There is no answer if there never would be one. -/
def parse (p : Parser) : Option (Except ParseError Node × Parser) :=
  if p.ready then
    (answerWithin (tokenBound p.scanner) { p with ready := false } .initial).map
      fun (result, p') => (result.mapError .malformed, p')
  else some (.error .notReady, p)

/-- Parses a query. -/
def parseText (p : Parser) (input : String) : Option (Except ParseError Node × Parser) :=
  (p.read input).parse

end Parser

/-- Parses a query with the built-in rules only. -/
def parse (input : String) : Option (Except ParseError Node) :=
  (Parser.new.parseText input).map (·.1)

end SearchQuery
