import SearchQuery.Toml.Scalar
import SearchQuery.Toml.Strings
import SearchQuery.Toml.Value

/-!
# TOML documents

`Toml.read?` reads a whole document into the table of its values. Keys may not be given twice, and
tables may be added to only in the ways that `Table.put`, `Table.define` and `Table.defineRow`
allow.
-/

namespace SearchQuery.Toml

/-- The deepest nesting of arrays and tables in one value. -/
def maxNesting : Nat := 80

/-- The characters that a number or a time does not go beyond. -/
def endsScalar (c : Char) : Bool :=
  [' ', '\t', '\n', '\r', '#', ',', '=', '[', ']', '\x7b', '\x7d', '"', '\''].contains c

/-- Reads a number, a time or a truth value. A date and a time may have a blank between them. -/
def readScalar? (cs : List Char) : Option (Value × List Char) :=
  let word := cs.takeWhile (!endsScalar ·)
  let rest := cs.dropWhile (!endsScalar ·)
  if word = ['t', 'r', 'u', 'e'] then some (.boolean true, rest)
  else if word = ['f', 'a', 'l', 's', 'e'] then some (.boolean false, rest)
  else
    let long : Option (Value × List Char) :=
      match Scalar.dropDate? word, rest with
      | some [], ' ' :: d :: more =>
        if d.isDigit then
          let time := (d :: more).takeWhile (!endsScalar ·)
          let all := word ++ ' ' :: time
          if Scalar.isMoment all then
            some (.scalar (String.ofList all), (d :: more).dropWhile (!endsScalar ·))
          else none
        else none
      | _, _ => none
    long.or (if Scalar.isScalar word then some (.scalar (String.ofList word), rest) else none)

mutual

/-- Reads a value; `depth` is how many arrays and tables it may open. -/
def readValue? : Nat → Nat → List Char → Option (Value × List Char)
  | 0, _, _ => none
  | fuel + 1, depth, cs =>
    match cs with
    | '[' :: rest =>
      match depth with
      | 0 => none
      | depth + 1 => readItems? fuel depth rest []
    | '\x7b' :: rest =>
      match depth with
      | 0 => none
      | depth + 1 => readPairs? fuel depth rest (.empty .inline)
    | '"' :: _ | '\'' :: _ => (readString? cs).map fun (s, rest) => (.string s, rest)
    | _ => readScalar? cs

/-- Reads the items of an array up to its closing bracket. -/
def readItems? : Nat → Nat → List Char → List Value → Option (Value × List Char)
  | 0, _, _, _ => none
  | fuel + 1, depth, cs, items => do
    match ← skipLines? false cs with
    | ']' :: rest => return (.array items.reverse, rest)
    | rest =>
      let (v, rest) ← readValue? fuel depth rest
      match ← skipLines? false rest with
      | ',' :: rest => readItems? fuel depth rest (v :: items)
      | ']' :: rest => return (.array (v :: items).reverse, rest)
      | _ => none

/-- Reads the entries of a table up to its closing brace. Line breaks and comments may stand
anywhere between them, but not within a key. -/
def readPairs? : Nat → Nat → List Char → Table → Option (Value × List Char)
  | 0, _, _, _ => none
  | fuel + 1, depth, cs, t => do
    match ← skipLines? false cs with
    | '\x7d' :: rest => return (t.toValue, rest)
    | rest =>
      let (path, key, rest) ← readKey? rest
      match ← skipLines? false rest with
      | '=' :: rest =>
        let (v, rest) ← readValue? fuel depth (← skipLines? false rest)
        let t ← t.put true path key v
        match ← skipLines? false rest with
        | ',' :: rest => readPairs? fuel depth rest t
        | '\x7d' :: rest => return (t.toValue, rest)
        | _ => none
      | _ => none

end

/-- A document in progress: its table, and the table that the last header opened. -/
structure Document where
  root : Table
  header : List String

namespace Document

/-- The document before its first line. -/
def empty : Document := ⟨.empty .header, []⟩

/-- Adds an entry to the table that the last header opened. -/
def put (d : Document) (path : List String) (key : String) (v : Value) : Option Document :=
  (d.root.alter false false d.header (Table.put false path key v)).map ({ d with root := · })

/-- Reads a header of a table; the text begins after its opening bracket. -/
def readHeader? (d : Document) (cs : List Char) : Option (Document × List Char) := do
  let (path, key, rest) ← readKey? cs
  match rest with
  | ']' :: rest => return (⟨← d.root.define path key, path ++ [key]⟩, ← endOfLine? rest)
  | _ => none

/-- Reads a header in double brackets; the text begins after the opening ones. -/
def readRowHeader? (d : Document) (cs : List Char) : Option (Document × List Char) := do
  let (path, key, rest) ← readKey? cs
  match rest with
  | ']' :: ']' :: rest => return (⟨← d.root.defineRow path key, path ++ [key]⟩, ← endOfLine? rest)
  | _ => none

/-- Reads a key and its value. -/
def readPair? (d : Document) (cs : List Char) : Option (Document × List Char) := do
  let (path, key, rest) ← readKey? cs
  match rest with
  | '=' :: rest =>
    let (v, rest) ← readValue? (2 * rest.length + 2) maxNesting (skipBlanks rest)
    return (← d.put path key v, ← endOfLine? rest)
  | _ => none

/-- Reads one line, which may go on over line breaks inside a value. -/
def readLine? (d : Document) (cs : List Char) : Option (Document × List Char) :=
  match skipBlanks cs with
  | [] => some (d, [])
  | '[' :: '[' :: rest => d.readRowHeader? rest
  | '[' :: rest => d.readHeader? rest
  | c :: rest =>
    if c = '#' || c = '\n' || c = '\r' then (endOfLine? (c :: rest)).map (d, ·)
    else d.readPair? (c :: rest)

/-- Reads to the end of the text. Every line takes a character, so the length of the text is fuel
enough. -/
def readAll? : Nat → Document → List Char → Option Document
  | _, d, [] => some d
  | 0, _, _ :: _ => none
  | fuel + 1, d, c :: cs => do
    let (d, rest) ← d.readLine? (c :: cs)
    readAll? fuel d rest

end Document

/-- The text without a byte order mark in front. -/
def dropMark (cs : List Char) : List Char :=
  match cs with
  | c :: rest => if c.toNat = 0xFEFF then rest else cs
  | [] => []

/-- Reads a document. -/
def read? (text : String) : Option Entries :=
  let cs := dropMark text.toList
  (Document.empty.readAll? cs.length cs).map (·.root.entries)

end SearchQuery.Toml
