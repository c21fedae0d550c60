import SearchQuery.Rule

/-!
# Scanning

A scanner cuts a query into tokens, one at a time, and skips white space. It tries the rules in
order and takes the first that applies; what no rule accepts becomes one illegal token.

A rule whose second group begins where its first does takes nothing off the text, and the same
token comes again and again. `advance` and `tokenize` answer `none` when they would never end:
as long as every step takes a character, the length of the text bounds the number of steps.
-/

namespace SearchQuery

/-- A scanner with the query it reads and how far it has come. -/
structure Scanner where
  /-- The rules of the caller, in the order of their registration. -/
  fields : List Rule
  input : String
  /-- The part of the query that is still to be read. -/
  rest : List Char
  /-- The texts of all tokens so far, white space included. -/
  processed : String
  /-- The number of characters in these texts. -/
  position : Nat
  last : Token
  /-- Whether there has been a query. -/
  loaded : Bool
  deriving DecidableEq, Repr

namespace Scanner

/-- A scanner with rules of the caller and no query. -/
def ofRules (fields : List Rule) : Scanner := ⟨fields, "", [], "", 0, .endAt 0, false⟩

/-- A scanner with the built-in rules only. -/
def new : Scanner := ofRules []

/-- The rules in the order in which they are tried. -/
def rules (s : Scanner) : List Rule := Rule.structural ++ s.fields ++ Rule.generic

/-- The rules of the caller stand together at one place among the built-in rules. -/
theorem rules_eq_splice (s : Scanner) :
    s.rules = Rule.builtins.take Rule.builtinSlot ++ s.fields ++ Rule.builtins.drop Rule.builtinSlot := by
  rw [rules, Rule.builtins, Rule.builtinSlot, List.take_left, List.drop_left]

/-- Adds a rule after all other rules of the caller. -/
def register (s : Scanner) (r : Rule) : Scanner := { s with fields := s.fields ++ [r] }

/-- Goes to the beginning of a query. -/
def read (s : Scanner) (input : String) : Scanner :=
  { s with
    input := input
    rest := input.toList
    processed := ""
    position := 0
    last := .endAt 0
    loaded := true }

/-- The part of the query that is still to be read, as text. -/
def remaining (s : Scanner) : String := String.ofList s.rest

/-- A kind, the text of a token of this kind and the text that is left after it. -/
structure Lexeme where
  kind : Kind
  text : String
  rest : List Char

/-- What a rule cuts off a text. A field never takes the word that joins two operands. -/
def lexeme? (text : List Char) (r : Rule) : Option Lexeme :=
  match r.cut? text with
  | none => none
  | some (token, rest) =>
    let token := String.ofList token
    if r.kind.isField && token = andKeyword then none else some ⟨r.kind, token, rest⟩

/-- What the first rule that applies cuts off what is still to be read. -/
def lexeme (s : Scanner) : Lexeme :=
  (s.rules.findSome? (lexeme? s.rest)).getD ⟨.illegal, s.remaining, []⟩

/-- Cuts off one token, which may be white space. -/
def scan (s : Scanner) : Token × Scanner :=
  let c := s.lexeme
  (⟨c.kind, some c.text, s.position⟩,
    { s with
      rest := c.rest
      processed := s.processed ++ c.text
      position := s.position + c.text.length })

/-- Moves to the next token in at most `n` steps. -/
def advanceWithin : Nat → Scanner → Option (Token × Scanner)
  | 0, _ => none
  | n + 1, s =>
    if s.rest.isEmpty then some (.endAt s.position, { s with last := .endAt s.position })
    else
      let (t, s') := s.scan
      if t.kind = .whiteSpace then advanceWithin n s' else some (t, { s' with last := t })

/-- The next token that is not white space; at the end of the query, the token for it. -/
def advance (s : Scanner) : Option (Token × Scanner) := s.advanceWithin (s.rest.length + 1)

/-- The tokens up to the end of the query, at most `n` of them. -/
def tokensWithin : Nat → Scanner → Option (List Token × Scanner)
  | 0, _ => none
  | n + 1, s =>
    match s.advance with
    | none => none
    | some (t, s') =>
      if t.isEnd then some ([], s')
      else (tokensWithin n s').map fun (ts, s'') => (t :: ts, s'')

/-- All tokens of a query before its end, and the scanner after it. -/
def tokenize (s : Scanner) (input : String) : Option (List Token × Scanner) :=
  tokensWithin (input.length + 1) (s.read input)

end Scanner

end SearchQuery
