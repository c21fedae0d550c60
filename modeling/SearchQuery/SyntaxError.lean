import SearchQuery.Token

/-!
# Syntax errors

A query that is not well formed is answered by an error that says what was found, where, and what
could have stood there. Where the way out is plain, the error comes with a hint.
-/

namespace SearchQuery

/-- What could have stood in place of the token that was found. -/
inductive Expected where
  | operand
  | closingParen
  | endOfQuery
  deriving DecidableEq, Repr

/-- The wording of an expectation. -/
def Expected.describe : Expected → String
  | operand => "a term, phrase, field or group"
  | closingParen => "')'"
  | endOfQuery => "end of query"

/-- An error at a token of a query. -/
structure SyntaxError where
  message : String
  expected : Expected
  found : Kind
  text : Option String
  position : Nat
  input : String
  deriving DecidableEq, Repr

namespace SyntaxError

/-- The error of a token in a query. -/
def ofToken (message : String) (expected : Expected) (t : Token) (input : String) : SyntaxError :=
  ⟨message, expected, t.kind, t.text, t.position, input⟩

/-- A hint on how to mend the query. -/
def suggestion (e : SyntaxError) : Option String :=
  if e.found = .quote then some "Add a closing quote (\") to complete the phrase"
  else if e.expected = .closingParen then
    some "Add a closing parenthesis ) to match the opening one"
  else if e.found = .closeParen then some "Remove the ) or add a matching ( before it"
  else if e.found = .or then some "OR requires expressions on both sides, e.g., 'me OR him'"
  else if e.found = .word && e.expected = .operand && e.text = some andKeyword then
    some "AND requires expressions on both sides, e.g., 'me AND him'"
  else if e.found = .colon then
    some "Field filters must match a registered field pattern, e.g., 'trip:123'"
  else none

/-- The column of the mark under the query: the position, but not past the end of the query. -/
def column (e : SyntaxError) : Nat := Nat.min e.position e.input.length

/-- The message, the query with a mark under the token, and the hint. -/
def display (e : SyntaxError) : String :=
  let mark := String.ofList (List.replicate e.column ' ') ++ "^"
  let shown := "query syntax error: " ++ e.message ++ "\n  " ++ e.input ++ "\n  " ++ mark
  match e.suggestion with
  | some hint => shown ++ "\nhint: " ++ hint
  | none => shown

end SyntaxError

end SearchQuery
