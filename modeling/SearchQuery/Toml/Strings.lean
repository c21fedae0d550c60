import SearchQuery.Text.Hex

/-!
# Strings, keys and blanks in TOML

The pieces of a line. Every reader takes the text after the point it is at and answers what it has
read together with the text that is left, or `none` if the text is not well formed. Inside quotes
and comments, control characters other than the tab are refused.
-/

namespace SearchQuery.Toml

/-- The control characters, which may stand nowhere except for tabs and line breaks. -/
def isControl (c : Char) : Bool := (c.toNat < 0x20 && c != '\t') || c = '\x7f'

/-- Blanks within a line. -/
def isBlank (c : Char) : Bool := c = ' ' || c = '\t'

/-- Drops blanks from the front. -/
def skipBlanks (cs : List Char) : List Char := cs.dropWhile isBlank

/-- Takes a line break off the front. -/
def lineBreak? : List Char → Option (List Char)
  | '\n' :: rest => some rest
  | '\r' :: '\n' :: rest => some rest
  | _ => none

/-- Drops the rest of a comment; the line break after it stays. -/
def skipComment? : List Char → Option (List Char)
  | [] => some []
  | c :: cs =>
    if (lineBreak? (c :: cs)).isSome then some (c :: cs)
    else if isControl c then none
    else skipComment? cs

/-- Drops blanks and a comment up to the end of a line, and the line break if there is one. -/
def endOfLine? (cs : List Char) : Option (List Char) := do
  let rest ←
    match skipBlanks cs with
    | '#' :: comment => skipComment? comment
    | rest => some rest
  if rest.isEmpty then return [] else lineBreak? rest

/-- Drops blanks, line breaks and comments; with `comment`, the text begins inside a comment. -/
def skipLines? (comment : Bool) : List Char → Option (List Char)
  | [] => some []
  | '\n' :: cs => skipLines? false cs
  | '\r' :: '\n' :: cs => skipLines? false cs
  | c :: cs =>
    if comment then if isControl c then none else skipLines? true cs
    else if isBlank c then skipLines? false cs
    else if c = '#' then skipLines? true cs
    else some (c :: cs)

/-! ## Escapes -/

/-- The character whose code point is written in `n` hexadecimal digits. -/
def readCode? (n : Nat) (cs : List Char) : Option (Char × List Char) :=
  if cs.length < n then none
  else do
    let code ← (cs.take n).foldlM (fun v c => (Text.hexValue? c).map (16 * v + ·)) 0
    if code.isValidChar then return (Char.ofNat code, cs.drop n) else none

/-- What an escape stands for; the text begins after the backslash. -/
def readEscape? : List Char → Option (Char × List Char)
  | [] => none
  | c :: cs =>
    match c with
    | 'b' => some ('\x08', cs)
    | 't' => some ('\t', cs)
    | 'n' => some ('\n', cs)
    | 'f' => some ('\x0c', cs)
    | 'r' => some ('\r', cs)
    | 'e' => some ('\x1b', cs)
    | '"' => some ('"', cs)
    | '\\' => some ('\\', cs)
    | 'x' => readCode? 2 cs
    | 'u' => readCode? 4 cs
    | 'U' => readCode? 8 cs
    | _ => none

/-! ## Strings on one line -/

/-- Reads a string with escapes; the text begins after the opening quote. -/
def readBasic? : Nat → List Char → List Char → Option (String × List Char)
  | 0, _, _ => none
  | fuel + 1, cs, taken =>
    match cs with
    | [] => none
    | '"' :: rest => some (String.ofList taken.reverse, rest)
    | '\\' :: rest => do
      let (c, rest) ← readEscape? rest
      readBasic? fuel rest (c :: taken)
    | c :: rest => if isControl c then none else readBasic? fuel rest (c :: taken)

/-- Reads a string without escapes; the text begins after the opening quote. -/
def readLiteral? : List Char → List Char → Option (String × List Char)
  | [], _ => none
  | '\'' :: rest, taken => some (String.ofList taken.reverse, rest)
  | c :: rest, taken => if isControl c then none else readLiteral? rest (c :: taken)

/-! ## Strings over several lines

Line breaks belong to such a string as they are written. -/

/-- Drops a line break right after the opening quotes. -/
def dropFirstBreak (cs : List Char) : List Char := (lineBreak? cs).getD cs

/-- The end of a string over several lines at a row of quotes: with at least three of them the
string ends, and up to two more belong to it. The answer is the quotes that belong to the string
and the text after it. -/
def closing? (quote : Char) (cs : List Char) : Option (List Char × List Char) :=
  let n := (cs.takeWhile (· = quote)).length
  if n < 3 then none
  else
    let own := Nat.min (n - 3) 2
    some (List.replicate own quote, cs.drop (own + 3))

/-- Drops the blanks and line breaks after a backslash at the end of a line. -/
def skipFolded? (cs : List Char) : Option (List Char) := do
  let rest ← lineBreak? (skipBlanks cs)
  return dropAll rest
where
  /-- Drops all blanks and line breaks. -/
  dropAll : List Char → List Char
    | '\r' :: '\n' :: cs => dropAll cs
    | c :: cs => if isBlank c || c = '\n' then dropAll cs else c :: cs
    | [] => []

/-- Reads a string with escapes; the text begins after the opening quotes. -/
def readBasicLines? : Nat → List Char → List Char → Option (String × List Char)
  | 0, _, _ => none
  | fuel + 1, cs, taken =>
    match closing? '"' cs with
    | some (own, rest) => some (String.ofList (taken.reverse ++ own), rest)
    | none =>
      match cs with
      | [] => none
      | '\\' :: rest =>
        match skipFolded? rest with
        | some rest => readBasicLines? fuel rest taken
        | none => do
          let (c, rest) ← readEscape? rest
          readBasicLines? fuel rest (c :: taken)
      | '\n' :: rest => readBasicLines? fuel rest ('\n' :: taken)
      | '\r' :: '\n' :: rest => readBasicLines? fuel rest ('\n' :: '\r' :: taken)
      | c :: rest => if isControl c then none else readBasicLines? fuel rest (c :: taken)

/-- Reads a string without escapes; the text begins after the opening quotes. -/
def readLiteralLines? : Nat → List Char → List Char → Option (String × List Char)
  | 0, _, _ => none
  | fuel + 1, cs, taken =>
    match closing? '\'' cs with
    | some (own, rest) => some (String.ofList (taken.reverse ++ own), rest)
    | none =>
      match cs with
      | [] => none
      | '\n' :: rest => readLiteralLines? fuel rest ('\n' :: taken)
      | '\r' :: '\n' :: rest => readLiteralLines? fuel rest ('\n' :: '\r' :: taken)
      | c :: rest => if isControl c then none else readLiteralLines? fuel rest (c :: taken)

/-- Reads a string of any kind. -/
def readString? (cs : List Char) : Option (String × List Char) :=
  match cs with
  | '"' :: '"' :: '"' :: rest =>
    readBasicLines? (rest.length + 1) (dropFirstBreak rest) []
  | '\'' :: '\'' :: '\'' :: rest =>
    readLiteralLines? (rest.length + 1) (dropFirstBreak rest) []
  | '"' :: rest => readBasic? (rest.length + 1) rest []
  | '\'' :: rest => readLiteral? rest []
  | _ => none

/-! ## Keys -/

/-- The characters of a key without quotes. -/
def isBareKeyChar (c : Char) : Bool := c.isAlphanum || c = '_' || c = '-'

/-- Reads one name of a key, which may be a string on one line. -/
def readName? (cs : List Char) : Option (String × List Char) :=
  match cs with
  | '"' :: '"' :: '"' :: _ | '\'' :: '\'' :: '\'' :: _ => none
  | '"' :: _ | '\'' :: _ => readString? cs
  | _ =>
    let name := cs.takeWhile isBareKeyChar
    if name.isEmpty then none else some (String.ofList name, cs.dropWhile isBareKeyChar)

/-- The most names that a key may have. -/
def maxNames : Nat := 80

/-- Reads at most `n` names of a key, with dots between them; `path` holds the names in front. -/
def readNames? : Nat → List Char → List String → Option (List String × String × List Char)
  | 0, _, _ => none
  | n + 1, cs, path => do
    let (name, rest) ← readName? (skipBlanks cs)
    match skipBlanks rest with
    | '.' :: rest => readNames? n rest (name :: path)
    | rest => return (path.reverse, name, rest)

/-- Reads a key. The answer is the names in front of the last one, the last one, and the text that
is left. -/
def readKey? (cs : List Char) : Option (List String × String × List Char) :=
  readNames? maxNames cs []

end SearchQuery.Toml
