import SearchQuery.Pattern.Basic
import SearchQuery.Pattern.Flags
import SearchQuery.Pattern.PropertyName

/-!
# Escapes in a pattern

A backslash introduces a character by its code point, a class, an anchor, or stands before
punctuation that is meant literally. Blanks and comments may stand inside longer escapes while
they are ignored.
-/

namespace SearchQuery.Pattern

open Text

/-- What a single item of a pattern stands for. -/
inductive Atom where
  /-- A character; `byte` tells that it was written as two hexadecimal digits. -/
  | literal (c : Char) (byte : Bool)
  | set (s : CharSet)
  | anchor (a : Anchor)
  deriving DecidableEq, Repr

namespace Flags

/-- Drops blanks and comments from the front; with `comment`, the text begins inside a comment. -/
def dropBlanks : Bool → List Char → List Char
  | _, [] => []
  | true, c :: cs => dropBlanks (c != '\n') cs
  | false, c :: cs =>
    if isWhiteSpace c then dropBlanks false cs
    else if c = '#' then dropBlanks true cs
    else c :: cs

/-- Drops what is ignored from the front. -/
def skip (f : Flags) (cs : List Char) : List Char :=
  if f.verbose then dropBlanks false cs else cs

/-- The characters up to a closing brace, without what is ignored, and what follows the brace. -/
def untilBrace (f : Flags) : Bool → List Char → List Char → Option (List Char × List Char)
  | _, [], _ => none
  | true, c :: cs, taken => f.untilBrace (c != '\n') cs taken
  | false, c :: cs, taken =>
    if c = '\x7d' then some (taken.reverse, cs)
    else if f.verbose && isWhiteSpace c then f.untilBrace false cs taken
    else if f.verbose && c = '#' then f.untilBrace true cs taken
    else f.untilBrace false cs (c :: taken)

end Flags

namespace Atom

/-- The character of a code point, which must not be a surrogate or too large. -/
def charOfCode? (n : Nat) : Option Char :=
  if n.isValidChar then some (Char.ofNat n) else none

/-- Reads exactly `n` hexadecimal digits. -/
def readHex? (f : Flags) : Nat → Nat → List Char → Option (Nat × List Char)
  | 0, value, cs => some (value, cs)
  | _ + 1, _, [] => none
  | n + 1, value, c :: cs =>
    match hexValue? c with
    | some d => readHex? f n (16 * value + d) (f.skip cs)
    | none => none

/-- The value of hexadecimal digits, of which there must be some. -/
def hexNumber? (digits : List Char) : Option Nat :=
  if digits.isEmpty then none
  else digits.foldlM (fun value c => (hexValue? c).map (16 * value + ·)) 0

/-- Reads a code point: some digits in braces, or exactly `width` digits. -/
def readCode? (f : Flags) (width : Nat) (cs : List Char) : Option (Atom × List Char) :=
  match f.skip cs with
  | '\x7b' :: rest => do
    let (digits, rest) ← f.untilBrace false rest []
    let c ← charOfCode? (← hexNumber? digits)
    return (literal c false, f.skip rest)
  | rest => do
    let (n, rest) ← readHex? f width 0 rest
    return (literal (← charOfCode? n) (width = 2), rest)

/-- Reads the name of a property: one letter, or a name in braces. The answer is the set, whether its
complement is meant, and what follows. -/
def readPropertySet? (f : Flags) (cs : List Char) : Option (CharSet × Bool × List Char) :=
  match f.skip cs with
  | [] => none
  | '\x7b' :: rest => do
    let (name, rest) ← f.untilBrace false rest []
    let (s, negated) ← PropertyName.braced? name
    return (s, negated, rest)
  | c :: rest => if c = '\\' then none else (PropertyName.bare? [c]).map (·, false, rest)

/-- Reads the name of a property after `\p` or, negated, `\P`. Case is folded before the complement
is taken. -/
def readProperty? (f : Flags) (negated : Bool) (cs : List Char) : Option (Atom × List Char) :=
  if f.allScripts then
    (readPropertySet? f cs).map fun (s, negated', rest) =>
      let s := f.foldCase s
      (set (if negated != negated' then .compl s else s), rest)
  else none

/-- The classes of digits, blanks and word characters, by their letters. -/
def classOf? (f : Flags) (letter : Char) : Option CharSet :=
  match letter with
  | 'd' => some (if f.allScripts then .categories [.nd] else .range '0' '9')
  | 's' =>
    some (if f.allScripts then .whiteSpace else .union (.range '\t' '\r') (.single ' '))
  | 'w' =>
    some (if f.allScripts then .wordChar
      else .unions [.range '0' '9', .range 'A' 'Z', .single '_', .range 'a' 'z'])
  | _ => none

/-- A class or, if the letter is a capital, its complement. Without the characters of all scripts
a complement would cut characters apart, and there is none. -/
def classAtom? (f : Flags) (letter : Char) : Option Atom :=
  match classOf? f letter with
  | some s => some (set s)
  | none =>
    if letter.isUpper && f.allScripts then (classOf? f letter.toLower).map (set ·.compl) else none

/-- Punctuation that may stand after a backslash and then means itself. -/
def isEscapable (c : Char) : Bool :=
  c.toNat < 128 && !c.isAlphanum && c != '<' && c != '>'

/-- The control characters that have a letter. -/
def controlOf? : Char → Option Char
  | 'a' => some '\x07'
  | 'f' => some '\x0c'
  | 't' => some '\t'
  | 'n' => some '\n'
  | 'r' => some '\r'
  | 'v' => some '\x0b'
  | _ => none

/-- The word edge of a name in braces after `\b`. -/
def edgeNamed? (name : List Char) : Option WordEdge :=
  match String.ofList name with
  | "start" => some .start
  | "end" => some .stop
  | "start-half" => some .startHalf
  | "end-half" => some .stopHalf
  | _ => none

/-- Reads what may follow `\b`: a brace with the name of an edge. A brace that begins with neither
a letter nor a hyphen is left to be read as a repetition. -/
def readEdge? (f : Flags) (cs : List Char) : Option (WordEdge × List Char) :=
  match cs with
  | '\x7b' :: rest =>
    match f.skip rest with
    | [] => none
    | c :: rest' =>
      if c.isAlpha || c = '-' then do
        let (name, after) ← f.untilBrace false (c :: rest') []
        return (← edgeNamed? name, after)
      else some (.boundary, cs)
  | _ => some (.boundary, cs)

/-- Reads what follows a backslash. -/
def readEscape? (f : Flags) : List Char → Option (Atom × List Char)
  | [] => none
  | c :: cs =>
    match c with
    | 'x' => readCode? f 2 cs
    | 'u' => readCode? f 4 cs
    | 'U' => readCode? f 8 cs
    | 'p' => readProperty? f false cs
    | 'P' => readProperty? f true cs
    | 'A' => some (anchor .textStart, cs)
    | 'z' => some (anchor .textEnd, cs)
    | 'b' => do
      let (edge, rest) ← readEdge? f cs
      return (anchor (.word (!f.allScripts) edge), rest)
    | 'B' => some (anchor (.word (!f.allScripts) .inner), cs)
    | '<' => some (anchor (.word (!f.allScripts) .start), cs)
    | '>' => some (anchor (.word (!f.allScripts) .stop), cs)
    | _ =>
      if isEscapable c then some (literal c false, cs)
      else
        match controlOf? c with
        | some control => some (literal control false, cs)
        | none => (classAtom? f c).map (·, cs)

end Atom

end SearchQuery.Pattern
