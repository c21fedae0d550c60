import SearchQuery.Pattern.Bracket
import SearchQuery.Pattern.Footprint
import SearchQuery.Text.Addition

/-!
# Reading patterns

`Pattern.read?` turns the text of a pattern into the pattern, or answers `none` if the text is not
one. The reader goes through the text from left to right and keeps, for every group that is open,
what has been read of it; a flag set inside a group is in force until the group ends.
-/

namespace SearchQuery.Pattern

open Text

/-- A pattern with the depth of the expression it was written as. Settings of flags are pieces that
match the empty text and cannot be repeated. -/
structure Piece where
  pattern : Pattern
  depth : Nat
  isSetting : Bool

namespace Piece

/-- The depth of an expression with several parts. -/
def depthOver (ps : List Piece) : Nat := 1 + (ps.map (·.depth)).foldl Nat.max 0

/-- The pieces one after the other. -/
def sequence (ps : List Piece) : Piece :=
  match ps with
  | [] => ⟨.empty, 0, false⟩
  | [p] => p
  | _ => ⟨Pattern.sequence (ps.map (·.pattern)), depthOver ps, false⟩

/-- The choice between pieces. -/
def choice (ps : List Piece) : Piece :=
  match ps with
  | [p] => p
  | _ => ⟨Pattern.choice (ps.map (·.pattern)), depthOver ps, false⟩

/-- Copies of a piece. -/
def repeated (p : Piece) (min : Nat) (max : Option Nat) (greedy : Bool) : Piece :=
  ⟨repetition min max greedy p.pattern, 1 + p.depth, false⟩

end Piece

/-- An open group: its number if it captures, the flags to go back to after it, and what stands
before it in the enclosing group. -/
structure Frame where
  index : Option Nat
  flags : Flags
  branches : List Piece
  items : List Piece

/-- The state of reading. Branches and items are kept last one first. -/
structure Reader where
  flags : Flags
  branches : List Piece
  items : List Piece
  outer : List Frame
  groups : Nat
  names : List (List Char)

namespace Reader

/-- The state before anything has been read. -/
def initial : Reader := ⟨.initial, [], [], [], 0, []⟩

/-- Adds a piece to the branch being read. -/
def push (r : Reader) (p : Piece) : Reader := { r with items := p :: r.items }

/-- What has been read of the innermost group. -/
def inner (r : Reader) : Piece :=
  Piece.choice (Piece.sequence r.items.reverse :: r.branches).reverse

/-- Begins the next branch. -/
def branch (r : Reader) : Reader :=
  { r with branches := Piece.sequence r.items.reverse :: r.branches, items := [] }

/-- Opens a group. -/
def openGroup (r : Reader) (index : Option Nat) (flags : Flags) : Reader :=
  { r with
    flags := flags
    branches := []
    items := []
    outer := ⟨index, r.flags, r.branches, r.items⟩ :: r.outer }

/-- Opens a group that captures. -/
def openCapture (r : Reader) : Reader :=
  { r.openGroup (some (r.groups + 1)) r.flags with groups := r.groups + 1 }

/-- Closes the innermost group. -/
def closeGroup? (r : Reader) : Option Reader :=
  match r.outer with
  | [] => none
  | frame :: outer =>
    let p := r.inner
    let pattern :=
      match frame.index with
      | some i => .group i p.pattern
      | none => p.pattern
    some { r with
      flags := frame.flags
      branches := frame.branches
      items := ⟨pattern, 1 + p.depth, false⟩ :: frame.items
      outer := outer }

/-- Repeats the last piece. -/
def repeatLast? (r : Reader) (min : Nat) (max : Option Nat) (greedy : Bool) : Option Reader :=
  match r.items with
  | p :: items =>
    if p.isSetting then none
    else some { r with items := p.repeated min max (greedy != r.flags.swapGreed) :: items }
  | [] => none

end Reader

/-- Reads the digits of a number, and blanks around it. -/
def readDigits (f : Flags) : Nat → List Char → List Char → List Char × List Char
  | 0, cs, digits => (digits.reverse, cs)
  | fuel + 1, cs, digits =>
    match cs with
    | c :: rest => if c.isDigit then readDigits f fuel (f.skip rest) (c :: digits) else (digits.reverse, cs)
    | [] => (digits.reverse, [])

/-- The largest number of copies that can be asked for. -/
def maxCount : Nat := 4294967295

/-- Reads a number of copies, with blanks around it. -/
def readCount? (f : Flags) (cs : List Char) : Option (Nat × List Char) :=
  let (digits, rest) := readDigits f cs.length (cs.dropWhile isWhiteSpace) []
  let n := digits.foldl (fun n c => 10 * n + (c.toNat - 48)) 0
  if digits.isEmpty || maxCount < n then none else some (n, rest.dropWhile isWhiteSpace)

/-- Reads the bounds of a repetition; the text begins after the opening brace. -/
def readBounds? (f : Flags) (cs : List Char) : Option (Nat × Option Nat × List Char) := do
  let (min, rest) ← readCount? f (f.skip cs)
  match rest with
  | '\x7d' :: rest => return (min, some min, rest)
  | ',' :: rest =>
    match f.skip rest with
    | '\x7d' :: rest => return (min, none, rest)
    | rest =>
      let (max, rest) ← readCount? f rest
      match rest with
      | '\x7d' :: rest => if min ≤ max then return (min, some max, rest) else none
      | _ => none
  | _ => none

/-- The mark after a repetition that makes it prefer fewer copies. -/
def readLazy (cs : List Char) : Bool × List Char :=
  match cs with
  | '?' :: rest => (false, rest)
  | _ => (true, cs)

/-- Whether a character may stand in the name of a group. -/
def isNameChar (first : Bool) (c : Char) : Bool :=
  c = '_' || isAlphabeticNow c ||
    (!first && (c = '.' || c = '[' || c = ']' || isNumberNow c))

/-- Reads the name of a group up to the `>` after it. -/
def readName? (cs : List Char) : Option (List Char × List Char) :=
  let name := cs.takeWhile (· != '>')
  match name, cs.dropWhile (· != '>') with
  | c :: more, _ :: rest =>
    if isNameChar true c && more.all (isNameChar false) then some (name, rest) else none
  | _, _ => none

namespace Reader

/-- Opens a group with a name, which no other group may have. -/
def openNamed? (r : Reader) (cs : List Char) : Option (Reader × List Char) := do
  let (name, rest) ← readName? cs
  if r.names.contains name then none
  else return ({ r.openCapture with names := name :: r.names }, rest)

/-- Reads the beginning of a group; the text begins after the opening parenthesis. There are no
conditions on what stands around a point beyond the anchors. -/
def readGroup? (r : Reader) (cs : List Char) : Option (Reader × List Char) :=
  match r.flags.skip cs with
  | '?' :: '=' :: _ | '?' :: '!' :: _ => none
  | '?' :: '<' :: '=' :: _ | '?' :: '<' :: '!' :: _ => none
  | '?' :: 'P' :: '<' :: rest => r.openNamed? rest
  | '?' :: '<' :: rest => r.openNamed? rest
  | '?' :: rest => do
    let (changes, last, rest) ← Flags.read? rest [] false false
    let flags := r.flags.setAll changes
    if last = ':' then return (r.openGroup none flags, rest)
    else if changes.isEmpty then none
    else return ({ r with flags := flags }.push ⟨.empty, 0, true⟩, rest)
  | cs => some (r.openCapture, cs)

/-- Adds what a single item stands for. -/
def pushAtom? (r : Reader) (a : Atom) : Option Reader :=
  match a with
  | .literal c byte =>
    if byte && !r.flags.allScripts && 128 ≤ c.toNat then none
    else some (r.push ⟨.one (r.flags.literalSet c), 0, false⟩)
  | .set s => some (r.push ⟨.one s, 0, false⟩)
  | .anchor a => some (r.push ⟨.anchor a, 0, false⟩)

/-- The anchor of `^`. -/
def caret (f : Flags) : Anchor :=
  if f.multiLine then if f.returns then .returnLineStart else .lineStart else .textStart

/-- The anchor of `$`. -/
def dollar (f : Flags) : Anchor :=
  if f.multiLine then if f.returns then .returnLineEnd else .lineEnd else .textEnd

/-- Repeats the last piece, with the mark that may follow the sign of repetition. -/
def repeatMarked? (r : Reader) (min : Nat) (max : Option Nat) (cs : List Char) :
    Option (Reader × List Char) :=
  let (greedy, rest) := readLazy cs
  (r.repeatLast? min max greedy).map (·, rest)

/-- Reads the next item, which begins with `c`. -/
def readNext? (r : Reader) (c : Char) (cs : List Char) : Option (Reader × List Char) :=
  match c with
  | '(' => r.readGroup? cs
  | ')' => r.closeGroup?.map (·, cs)
  | '|' => some (r.branch, cs)
  | '[' => do
    let (part, rest) ← Bracket.read? r.flags cs
    return (r.push ⟨.one part.set, part.depth, false⟩, rest)
  | '?' => r.repeatMarked? 0 (some 1) cs
  | '*' => r.repeatMarked? 0 none cs
  | '+' => r.repeatMarked? 1 none cs
  | '\x7b' => do
    let (min, max, rest) ← readBounds? r.flags cs
    r.repeatMarked? min max (r.flags.skip rest)
  | '\\' => do
    let (a, rest) ← Atom.readEscape? r.flags cs
    return (← r.pushAtom? a, rest)
  | '.' => if r.flags.allScripts then (r.pushAtom? (.set r.flags.dotSet)).map (·, cs) else none
  | '^' => (r.pushAtom? (.anchor (caret r.flags))).map (·, cs)
  | '$' => (r.pushAtom? (.anchor (dollar r.flags))).map (·, cs)
  | c => (r.pushAtom? (.literal c false)).map (·, cs)

/-- Reads to the end of the text. Every round takes a character, so the length of the text is fuel
enough. -/
def readAll? : Nat → Reader → List Char → Option Reader
  | 0, r, cs => if (r.flags.skip cs).isEmpty then some r else none
  | fuel + 1, r, cs =>
    match r.flags.skip cs with
    | [] => some r
    | c :: rest => do
      let (r, rest) ← r.readNext? c rest
      readAll? fuel r rest

end Reader

/-- The deepest expression that is read. -/
def maxDepth : Nat := 250

/-- Reads a pattern, which must be neither too deep nor too large. -/
def read? (source : String) : Option Pattern := do
  let cs := source.toList
  let r ← Reader.initial.readAll? cs.length cs
  if !r.outer.isEmpty then none
  else
    let p := r.inner
    if p.depth ≤ maxDepth && p.pattern.fits then return p.pattern else none

end SearchQuery.Pattern
