import SearchQuery.Pattern.CharSet

/-!
# Patterns

A pattern describes texts by sets of characters, anchors, sequence, choice, repetition and
numbered groups. Choices are ordered: the first branch is preferred, and a repetition prefers more
copies when it is greedy and fewer when it is not. What a pattern matches is defined in
`SearchQuery.Pattern.Matching`.

Patterns are built in a normal form by `Pattern.sequence`, `Pattern.choice` and
`Pattern.repetition`. In a sequence the first part is never a sequence, and in a choice the first
branch is never a choice, so that each is a list written with `seq` or `alt`; the empty pattern is
no part of a sequence. A choice between single characters is a set, and a beginning that all
branches of a choice share stands once before the choice.
-/

namespace SearchQuery

/-- Conditions on the word characters on the two sides of a point. -/
inductive WordEdge where
  | boundary
  | inner
  | start
  | stop
  | startHalf
  | stopHalf
  deriving DecidableEq, Repr

/-- Conditions on a point of the text, which match without taking a character. -/
inductive Anchor where
  | textStart
  | textEnd
  | lineStart
  | lineEnd
  /-- Line starts and ends where carriage returns count as line breaks too. -/
  | returnLineStart
  | returnLineEnd
  /-- A condition on word characters: those of every script, or of ASCII only. -/
  | word (ascii : Bool) (edge : WordEdge)
  deriving DecidableEq, Repr

/-- Patterns over characters. -/
inductive Pattern where
  | empty
  | one (s : CharSet)
  | anchor (a : Anchor)
  | seq (p q : Pattern)
  | alt (p q : Pattern)
  /-- At least `min` copies, and at most `max` if it is given. -/
  | repeated (min : Nat) (max : Option Nat) (greedy : Bool) (p : Pattern)
  | group (index : Nat) (p : Pattern)
  deriving DecidableEq, Repr

namespace Pattern

/-! ## What the form of a pattern shows -/

/-- Whether the pattern can match nothing but the empty text. -/
def isEmptyOnly : Pattern → Bool
  | empty | anchor _ => true
  | one _ => false
  | seq p q | alt p q => p.isEmptyOnly && q.isEmptyOnly
  | repeated _ _ _ p | group _ p => p.isEmptyOnly

/-- Whether every match of the pattern takes a character, as far as its form shows. -/
def takesChar : Pattern → Bool
  | empty | anchor _ => false
  | one _ => true
  | seq p q => p.takesChar || q.takesChar
  | alt p q => p.takesChar && q.takesChar
  | repeated min _ _ p => min ≠ 0 && p.takesChar
  | group _ p => p.takesChar

/-- The highest group number in the pattern, or zero. -/
def groupCount : Pattern → Nat
  | empty | one _ | anchor _ => 0
  | seq p q | alt p q => Nat.max p.groupCount q.groupCount
  | repeated _ _ _ p => p.groupCount
  | group i p => Nat.max i p.groupCount

/-- The number of parts that the pattern is written with. -/
def size : Pattern → Nat
  | empty | one _ | anchor _ => 1
  | seq p q | alt p q => p.size + q.size + 1
  | repeated _ _ _ p | group _ p => p.size + 1

/-- Whether two patterns are the same up to the description of their sets. -/
def same : Pattern → Pattern → Bool
  | empty, empty => true
  | one s, one t => s.same t
  | anchor a, anchor b => a == b
  | seq p q, seq p' q' | alt p q, alt p' q' => p.same p' && q.same q'
  | repeated m n g p, repeated m' n' g' p' => m == m' && n == n' && g == g' && p.same p'
  | group i p, group j p' => i == j && p.same p'
  | _, _ => false

/-- Whether the pattern is a certain character. -/
def isLiteral : Pattern → Bool
  | one s => s.single?.isSome
  | _ => false

/-! ## Sequences -/

/-- The parts of a sequence. -/
def factors : Pattern → List Pattern
  | empty => []
  | seq p q => p :: q.factors
  | p => [p]

/-- The sequence of some parts, none of which is a sequence. -/
def ofFactors : List Pattern → Pattern
  | [] => empty
  | [p] => p
  | p :: ps => seq p (ofFactors ps)

/-- One pattern after the other. -/
def sequence (ps : List Pattern) : Pattern := ofFactors (ps.flatMap factors)

/-- The parts of a sequence, where characters that follow each other are one part. -/
def units (p : Pattern) : List (List Pattern) :=
  p.factors.splitBy fun p q => p.isLiteral && q.isLiteral

/-- The characters of a text, one after the other. -/
def text (s : String) : Pattern :=
  sequence (s.toList.map fun c => one (.single c))

/-! ## Choices -/

/-- The branches of a choice. -/
def branches : Pattern → List Pattern
  | alt p q => p :: q.branches
  | p => [p]

/-- The choice between some branches, none of which is a choice. -/
def ofBranches : List Pattern → Pattern
  | [] => empty
  | [p] => p
  | p :: ps => alt p (ofBranches ps)

/-- The set of the characters of all branches, if the branches are either all certain characters
or all sets. -/
def unionOfBranches? (ps : List Pattern) : Option CharSet :=
  match ps.mapM (fun | one s => some s | _ => none) with
  | none => none
  | some sets =>
    if sets.all (·.single?.isSome) || sets.all (·.single?.isNone) then some (.unions sets) else none

/-- The parts that two lists have in common at the beginning. -/
def commonStart : List (List Pattern) → List (List Pattern) → List (List Pattern)
  | u :: us, v :: vs =>
    if u.length = v.length && (u.zip v).all (fun (p, q) => p.same q) then u :: commonStart us vs
    else []
  | _, _ => []

/-- What sequences have in common at the beginning, and what is left of each, if there is
something in common and none is a single part. -/
def splitCommonStart? (ps : List Pattern) : Option (List Pattern × List Pattern) :=
  match ps.map units with
  | [] => none
  | us :: rest =>
    if (us :: rest).any (·.length < 2) then none
    else
      match rest.foldl commonStart us with
      | [] => none
      | common =>
        some (common.flatten, (us :: rest).map fun vs => ofFactors (vs.drop common.length).flatten)

/-- A choice in normal form; the fuel bounds how often a common beginning is split off. -/
def choiceWithin : Nat → List Pattern → Pattern
  | 0, ps => ofBranches (ps.flatMap branches)
  | fuel + 1, ps =>
    match ps.flatMap branches with
    | [] => empty
    | [p] => p
    | ps =>
      match unionOfBranches? ps with
      | some s => one s
      | none =>
        match splitCommonStart? ps with
        | some (common, rests) => sequence (common ++ [choiceWithin fuel rests])
        | none => ofBranches ps

/-- A choice between patterns, the first preferred. Splitting off a common beginning makes all
branches smaller, so their size is fuel enough. -/
def choice (ps : List Pattern) : Pattern := choiceWithin ((ps.map size).foldr (· + ·) 1) ps

/-! ## Repetitions -/

/-- Copies of a pattern. Copies of a pattern that matches only the empty text count once, no copies
at all are the empty pattern, and exactly one copy is the pattern itself. -/
def repetition (min : Nat) (max : Option Nat) (greedy : Bool) (p : Pattern) : Pattern :=
  let (min, max) :=
    if p.isEmptyOnly then (Nat.min min 1, some (Nat.min (max.getD 1) 1)) else (min, max)
  match min, max with
  | 0, some 0 => empty
  | 1, some 1 => p
  | min, max => repeated min max greedy p

end Pattern

end SearchQuery
