import SearchQuery.Node
import SearchQuery.SyntaxError

/-!
# The grammar of queries

A query is a disjunction of conjunctions of operands:

* `disjunction`: conjunctions with `OR` between them;
* `conjunction`: operands with or without the word `AND` between them;
* `operand`: an atom, or a minus and an atom;
* `atom`: a word other than `AND`, a phrase, a field, or a disjunction in parentheses.

Both connectives fold to the left, and at most `maxNesting` parentheses are open at once. The
grammar is read by a machine that takes one token at a time: `State.step` tells what a token does
in a state.
-/

namespace SearchQuery.Grammar

/-- The greatest number of parentheses that may be open at once. -/
def maxNesting : Nat := 128

/-- What is wrong with a token. -/
inductive Problem where
  | strayAnd
  | strayOr
  | strayClose
  | doubleMinus
  | openQuote
  | missingOperand
  | missingClose
  | tooDeep
  | strayToken
  deriving DecidableEq, Repr

/-- A token as it is named in a message. -/
def describe (t : Token) : String :=
  match t.text with
  | some text => if t.kind = .illegal then "character " ++ Text.quoted text else "'" ++ text ++ "'"
  | none => t.kind.name

/-- The wording of a problem with a token. -/
def Problem.message (p : Problem) (t : Token) : String :=
  match p with
  | strayAnd => "unexpected AND (needs expression before it)"
  | strayOr => "unexpected OR (needs expression before it)"
  | strayClose => "unexpected closing parenthesis"
  | doubleMinus => "unexpected '-' (negation applies to a single term, phrase, field or group)"
  | openQuote => "unclosed quote"
  | missingOperand => "unexpected end of query"
  | missingClose => "expected closing parenthesis"
  | tooDeep => "query is nested too deeply"
  | strayToken => "unexpected " ++ describe t

/-- A disjunction, of which the branches before the last `OR` are given, and one more branch. -/
def joinOr (branches : Option Node) (n : Node) : Node :=
  match branches with
  | none => n
  | some b => .or b n

/-- A conjunction, of which the operands before the last are given, and one more operand. -/
def joinAnd (operands : Option Node) (n : Node) : Node :=
  match operands with
  | none => n
  | some a => .and a n

/-- The part of a group that stands before an operand. -/
structure Frame where
  /-- The branches before the last `OR`. -/
  branches : Option Node
  /-- The operands since then. -/
  operands : Option Node
  /-- Whether a minus stands before the operand. -/
  negated : Bool
  deriving DecidableEq, Repr

/-- The beginning of a group. -/
def Frame.initial : Frame := ⟨none, none, false⟩

/-- The state between two tokens. The groups around the innermost one are kept up to the
parenthesis that opens the next, innermost first. -/
inductive State where
  /-- An operand has to follow. -/
  | before (frame : Frame) (outer : List Frame)
  /-- An operand has just ended; `operands` is the conjunction it belongs to. -/
  | after (branches : Option Node) (operands : Node) (outer : List Frame)
  deriving DecidableEq, Repr

/-- What a token does in a state. -/
inductive Outcome where
  | next (s : State)
  | accept (n : Node)
  | reject (p : Problem) (e : Expected)
  deriving DecidableEq, Repr

/-- The text between the quotes, if there is one at both ends. -/
def stripQuotes (s : String) : String :=
  match s.toList with
  | '"' :: rest =>
    match rest.reverse with
    | '"' :: inner => String.ofList inner.reverse
    | _ => s
  | _ => s

/-- The tree of a token that is an operand by itself. -/
def leaf? (t : Token) : Option Node :=
  let text := t.text.getD ""
  match t.kind with
  | .word => if t.isAnd then none else some (.term text)
  | .phrase => some (.phrase (stripQuotes text))
  | .field label => some (.field label text)
  | _ => none

/-- Puts an atom into its place. -/
def deliver (frame : Frame) (outer : List Frame) (atom : Node) : State :=
  let operand := if frame.negated then .not atom else atom
  .after frame.branches (joinAnd frame.operands operand) outer

/-- Why a token cannot begin an operand. -/
def operandProblem (t : Token) : Problem :=
  match t.kind with
  | .word => .strayAnd
  | .closeParen => .strayClose
  | .or => .strayOr
  | .minus => .doubleMinus
  | .quote => .openQuote
  | .finish => .missingOperand
  | _ => .strayToken

/-- What a token does where an operand has to follow. -/
def stepBefore (frame : Frame) (outer : List Frame) (t : Token) : Outcome :=
  match leaf? t with
  | some atom => .next (deliver frame outer atom)
  | none =>
    if t.kind = .minus && !frame.negated then .next (.before { frame with negated := true } outer)
    else if t.kind = .openParen then
      if outer.length < maxNesting then .next (.before .initial (frame :: outer))
      else .reject .tooDeep .operand
    else .reject (operandProblem t) .operand

/-- What a token does where an operand has just ended. -/
def stepAfter (branches : Option Node) (operands : Node) (outer : List Frame) (t : Token) :
    Outcome :=
  match t.kind, outer with
  | .finish, [] => .accept (joinOr branches operands)
  | .finish, _ :: _ => .reject .missingClose .closingParen
  | .or, _ => .next (.before ⟨some (joinOr branches operands), none, false⟩ outer)
  | .closeParen, [] => .reject .strayClose .endOfQuery
  | .closeParen, frame :: outer =>
    .next (deliver frame outer (.group (joinOr branches operands)))
  | _, _ =>
    let frame : Frame := ⟨branches, some operands, false⟩
    if t.isAnd then .next (.before frame outer) else stepBefore frame outer t

namespace State

/-- The state before the first token of a query. -/
def initial : State := .before .initial []

/-- The number of parentheses that are open. -/
def depth : State → Nat
  | before _ outer => outer.length
  | after _ _ outer => outer.length

/-- What a token does in a state. -/
def step (s : State) (t : Token) : Outcome :=
  match s with
  | before frame outer => stepBefore frame outer t
  | after branches operands outer => stepAfter branches operands outer t

end State

/-- The answer to a list of tokens that ends a query: its tree, or the token at which no query can
go on and why. There is no answer if the tokens stop before the query does. -/
def run : State → List Token → Option (Except (Problem × Expected × Token) Node)
  | _, [] => none
  | s, t :: ts =>
    match s.step t with
    | .next s => run s ts
    | .accept n => some (.ok n)
    | .reject p e => some (.error (p, e, t))

end SearchQuery.Grammar
