import SearchQuery.Toml.Strings

/-!
# Writing TOML strings

A string is written in the first of these forms that holds it without an escape, and else in one
with escapes: double quotes, single quotes, three double quotes, three single quotes.
-/

namespace SearchQuery.Toml

/-- The control characters that the forms without escapes cannot hold. -/
def needsCode (c : Char) : Bool := isControl c && c != '\n'

/-- The longest row of a character in a text; `row` is the length of the row in front of it. -/
def longestRow (quote : Char) (row : Nat) : List Char → Nat
  | [] => row
  | c :: cs =>
    if c = quote then longestRow quote (row + 1) cs else Nat.max row (longestRow quote 0 cs)

/-- The forms of a string. -/
inductive StringForm where
  | basic
  | literal
  | basicLines
  | literalLines
  deriving DecidableEq, Repr

/-- The form that a string is written in. -/
def formOf (cs : List Char) : StringForm :=
  let coded := cs.any needsCode
  let broken := cs.contains '\n'
  if !cs.contains '"' && !cs.contains '\\' && !broken && !coded then .basic
  else if !cs.contains '\'' && !broken && !coded then .literal
  else if !cs.contains '\\' && !coded && longestRow '"' 0 cs ≤ 2 then .basicLines
  else if !coded && longestRow '\'' 0 cs ≤ 2 then .literalLines
  else if broken then .basicLines
  else .basic

/-- A digit of a hexadecimal number, in upper case. -/
def hexDigit (n : Nat) : Char := if n < 10 then Char.ofNat (48 + n) else Char.ofNat (55 + n)

/-- The escape of a character other than a quote, if it has to be escaped. -/
def escape? (c : Char) : Option (List Char) :=
  if c = '\x08' then some ['\\', 'b']
  else if c = '\t' then some ['\\', 't']
  else if c = '\x0c' then some ['\\', 'f']
  else if c = '\r' then some ['\\', 'r']
  else if c = '\\' then some ['\\', '\\']
  else if needsCode c then
    some ['\\', 'u', '0', '0', hexDigit (c.toNat / 16), hexDigit (c.toNat % 16)]
  else none

/-- A character between double quotes on one line. -/
def basicChar (c : Char) : List Char :=
  if c = '\n' then ['\\', 'n']
  else if c = '"' then ['\\', '"']
  else (escape? c).getD [c]

/-- The characters between three double quotes. Line breaks stand as they are, and of three quotes
in a row the last is escaped; `row` counts the quotes in front. -/
def basicLinesChars (row : Nat) : List Char → List Char
  | [] => []
  | c :: cs =>
    if c = '"' then
      if row = 2 then '\\' :: '"' :: basicLinesChars 0 cs else '"' :: basicLinesChars (row + 1) cs
    else
      match escape? c with
      | some e => e ++ basicLinesChars 0 cs
      | none => c :: basicLinesChars 0 cs

/-- A string with its quotes. -/
def writeString (s : String) : String :=
  let cs := s.toList
  let first := if cs.contains '\n' then ['\n'] else []
  let tripleDouble := ['"', '"', '"']
  let tripleSingle := ['\'', '\'', '\'']
  String.ofList <|
    match formOf cs with
    | .basic => '"' :: cs.flatMap basicChar ++ ['"']
    | .literal => '\'' :: cs ++ ['\'']
    | .basicLines => tripleDouble ++ first ++ basicLinesChars 0 cs ++ tripleDouble
    | .literalLines => tripleSingle ++ first ++ cs ++ tripleSingle

end SearchQuery.Toml
