import SearchQuery.Pattern.Escape

/-!
# Sets in brackets

Between brackets stand characters, ranges, classes and further brackets, whose union is the set. A
`^` after the opening bracket takes the complement. The signs `&&`, `--` and `~~` intersect,
subtract and take the symmetric difference; they bind less than the union and from left to right.

Without the characters of all scripts, a set may hold ASCII characters only, and that is asked of
every bracket and every named class by itself: a complement would cut characters apart, even if an
operation outside it brought it back into ASCII.
-/

namespace SearchQuery.Pattern

open Text

namespace Bracket

/-- A set with the depth of the expression it was written as. -/
structure Part where
  set : CharSet
  depth : Nat

/-- The operations between unions. -/
inductive Op where
  | inter
  | diff
  | symmDiff

/-- The set that an operation makes. Both sides have been closed under case if case is ignored. -/
def Op.apply (op : Op) (s t : CharSet) : CharSet :=
  match op with
  | inter => .inter s t
  | diff => .diff s t
  | symmDiff => .symmDiff s t

/-- An open bracket: whether it takes the complement, the operations waiting for their right side,
and the items of the union being read, the last one first. -/
structure Level where
  negated : Bool
  pending : Option (Op × Part)
  items : List Part

/-- The union of the items. -/
def unionOf (items : List Part) : Part :=
  match items with
  | [] => ⟨.none, 0⟩
  | [p] => p
  | _ => ⟨.unions (items.reverse.map (·.set)), 1 + (items.map (·.depth)).foldl Nat.max 0⟩

/-- The set closed under case if case is ignored, and then its complement if that is meant. -/
def foldAndNegate? (f : Flags) (negated : Bool) (s : CharSet) : Option CharSet :=
  let s := f.foldCase s
  let s := if negated then .compl s else s
  if f.allScripts || s.isAscii then some s else none

namespace Level

/-- Adds an item to the union being read. -/
def push (l : Level) (p : Part) : Level := { l with items := p :: l.items }

/-- The set read so far: the pending operation is applied to the union. -/
def value (f : Flags) (l : Level) : Part :=
  let right := unionOf l.items
  match l.pending with
  | none => right
  | some (op, left) =>
    ⟨op.apply (f.foldCase left.set) (f.foldCase right.set), 1 + Nat.max left.depth right.depth⟩

/-- Begins the right side of an operation. -/
def begin (f : Flags) (l : Level) (op : Op) : Level :=
  { l with pending := some (op, l.value f), items := [] }

/-- The set of the whole bracket. -/
def close? (f : Flags) (l : Level) : Option Part :=
  let v := l.value f
  (foldAndNegate? f l.negated v.set).map (⟨·, 1 + v.depth⟩)

end Level

/-- The classes that are named between `[:` and `:]`. -/
def asciiClass? (name : List Char) : Option CharSet :=
  match String.ofList name with
  | "alnum" => some (.unions [.range '0' '9', .range 'A' 'Z', .range 'a' 'z'])
  | "alpha" => some (.union (.range 'A' 'Z') (.range 'a' 'z'))
  | "ascii" => some (.range '\x00' '\x7f')
  | "blank" => some (.union (.single '\t') (.single ' '))
  | "cntrl" => some (.union (.range '\x00' '\x1f') (.single '\x7f'))
  | "digit" => some (.range '0' '9')
  | "graph" => some (.range '!' '~')
  | "lower" => some (.range 'a' 'z')
  | "print" => some (.range ' ' '~')
  | "punct" =>
    some (.unions [.range '!' '/', .range ':' '@', .range '[' (Char.ofNat 0x60), .range '\x7b' '~'])
  | "space" => some (.union (.range '\t' '\r') (.single ' '))
  | "upper" => some (.range 'A' 'Z')
  | "word" => some (.unions [.range '0' '9', .range 'A' 'Z', .single '_', .range 'a' 'z'])
  | "xdigit" => some (.unions [.range '0' '9', .range 'A' 'F', .range 'a' 'f'])
  | _ => none

/-- Reads a named class; the text begins after its `[`. The answer is its set before case is folded,
whether the complement is meant, and what follows. -/
def readAsciiClass? (cs : List Char) : Option (CharSet × Bool × List Char) :=
  match cs with
  | ':' :: rest =>
    let (negated, rest) :=
      match rest with
      | '^' :: rest => (true, rest)
      | _ => (false, rest)
    let name := rest.takeWhile (· != ':')
    match rest.dropWhile (· != ':') with
    | ':' :: ']' :: after => (asciiClass? name).map (·, negated, after)
    | _ => none
  | _ => none

/-- Takes the hyphens at the beginning of a bracket, which stand for themselves. -/
def leadingHyphens (f : Flags) : Nat → List Char → List Part → List Part × List Char
  | 0, cs, items => (items, cs)
  | n + 1, cs, items =>
    match cs with
    | '-' :: rest => leadingHyphens f n (f.skip rest) (⟨.single '-', 0⟩ :: items)
    | _ => (items, cs)

/-- Reads the beginning of a bracket; the text begins after its `[`. A closing bracket that stands
first stands for itself. -/
def readOpening? (f : Flags) (cs : List Char) : Option (Level × List Char) :=
  let cs := f.skip cs
  let (negated, cs) :=
    match cs with
    | '^' :: rest => (true, f.skip rest)
    | _ => (false, cs)
  let (items, cs) := leadingHyphens f cs.length cs []
  let (items, cs) :=
    match items, cs with
    | [], ']' :: rest => ([Part.mk (.single ']') 0], f.skip rest)
    | _, _ => (items, cs)
  if cs.isEmpty then none else some (⟨negated, none, items⟩, cs)

/-- Reads one item, which is an escape or a character. -/
def readItem? (f : Flags) : List Char → Option (Atom × List Char)
  | [] => none
  | '\\' :: rest => Atom.readEscape? f rest
  | c :: rest => some (.literal c false, rest)

/-- The character after the next one, where blanks are passed over while they are ignored. -/
def peekAfter (f : Flags) : List Char → Option Char
  | [] => none
  | _ :: rest =>
    if f.verbose then
      let seen :=
        match rest.dropWhile isWhiteSpace with
        | '#' :: comment => comment.dropWhile isWhiteSpace
        | other => other
      (seen.head?).or rest.head?
    else rest.head?

/-- The set of a single item; a class is one already, and an anchor is none. -/
def itemSet? (f : Flags) : Atom → Option CharSet
  | .literal c _ => if f.allScripts || c.toNat < 128 then some (.single c) else none
  | .set s => some s
  | .anchor _ => none

/-- Reads an item or a range of two characters. -/
def readRange? (f : Flags) (cs : List Char) : Option (Part × List Char) := do
  let (first, rest) ← readItem? f cs
  let rest := f.skip rest
  match rest with
  | [] => none
  | '-' :: after =>
    if peekAfter f rest = some ']' || peekAfter f rest = some '-' then
      return (⟨← itemSet? f first, 0⟩, rest)
    else
      let (last, rest) ← readItem? f (f.skip after)
      match first, last with
      | .literal a _, .literal b _ =>
        if a ≤ b && (f.allScripts || b.toNat < 128) then return (⟨.range a b, 0⟩, rest) else none
      | _, _ => none
  | _ => return (⟨← itemSet? f first, 0⟩, rest)

/-- Reads up to the bracket that closes the outermost level. Every round takes a character, so the
length of the text is fuel enough. -/
def readLevels? (f : Flags) : Nat → List Level → Level → List Char → Option (Part × List Char)
  | 0, _, _, _ => none
  | fuel + 1, outer, level, cs =>
    match f.skip cs with
    | [] => none
    | '[' :: rest =>
      match readAsciiClass? rest with
      | some (s, negated, rest) => do
        let s ← foldAndNegate? f negated s
        readLevels? f fuel outer (level.push ⟨s, 0⟩) rest
      | none => do
        let (inner, rest) ← readOpening? f rest
        readLevels? f fuel (level :: outer) inner rest
    | ']' :: rest => do
      let p ← level.close? f
      match outer with
      | [] => return (p, rest)
      | parent :: outer => readLevels? f fuel outer (parent.push p) rest
    | '&' :: '&' :: rest => readLevels? f fuel outer (level.begin f .inter) rest
    | '-' :: '-' :: rest => readLevels? f fuel outer (level.begin f .diff) rest
    | '~' :: '~' :: rest => readLevels? f fuel outer (level.begin f .symmDiff) rest
    | cs => do
      let (p, rest) ← readRange? f cs
      readLevels? f fuel outer (level.push p) rest

/-- Reads a set in brackets; the text begins after its `[`. -/
def read? (f : Flags) (cs : List Char) : Option (Part × List Char) := do
  let (level, rest) ← readOpening? f cs
  readLevels? f (cs.length + 1) [] level rest

end Bracket

end SearchQuery.Pattern
