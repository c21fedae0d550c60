import Std.Data.TreeMap
import SearchQuery.Pattern.Basic
import SearchQuery.Text.Utf8

/-!
# The room that a pattern takes

A pattern is accepted only if the automaton that it describes is not too large, where texts are
taken byte by byte. Two automata are measured, one that reads a text forward and marks groups, and
one that reads it backward. Both are laid out state by state: sequence adds nothing, a choice adds a
branching state and a state where its branches meet, a repetition repeats the states of its body as
often as it asks for, and a set of characters is a tree of byte ranges in which equal parts are
shared as far as a table of recent parts remembers them (`Layout.addTree`, `Layout.addTails`).

`Pattern.fits` decides whether both are within `Layout.limit` bytes. The bytes that they take if
nothing is shared (`ByteForm.weight`) settle that for nearly all patterns without laying anything
out.
-/

namespace SearchQuery

open Text

/-! ## Patterns over bytes -/

/-- A pattern with its sets of characters written out in bytes. -/
inductive ByteForm where
  /-- The empty pattern or an anchor. -/
  | point
  /-- A certain character, by the number of its bytes. -/
  | literal (bs : List Nat)
  /-- A set of ASCII characters, by the number of its ranges. -/
  | ascii (count : Nat)
  /-- A set of characters. -/
  | wide (seqs : List (List Utf8.ByteRange))
  | seq (p q : ByteForm)
  | alt (p q : ByteForm)
  | group (p : ByteForm)
  | repeated (min : Nat) (max : Option Nat) (p : ByteForm)

namespace ByteForm

/-- A set of characters, given by its table. -/
def ofRanges (rs : Ranges) : ByteForm :=
  match rs with
  | [(first, last)] =>
    if first = last then literal (Utf8.bytes first)
    else if last < 128 then ascii 1
    else wide (Utf8.sequences first last)
  | _ =>
    if rs.all (·.2 < 128) then ascii rs.length
    else wide (rs.flatMap fun r => Utf8.sequences r.1 r.2)

/-- The form of a pattern. -/
def ofPattern : Pattern → ByteForm
  | .empty | .anchor _ => point
  | .one s => ofRanges s.ranges
  | .seq p q => seq (ofPattern p) (ofPattern q)
  | .alt p q => alt (ofPattern p) (ofPattern q)
  | .group _ p => group (ofPattern p)
  | .repeated min max _ p => repeated min max (ofPattern p)

/-- The least number of bytes of a match, up to one; nothing if there is a set without members. -/
def leastBytes? : ByteForm → Option Nat
  | point => some 0
  | literal _ | wide _ => some 1
  | ascii count => if count = 0 then none else some 1
  | seq p q => do return Nat.max (← p.leastBytes?) (← q.leastBytes?)
  | alt p q => do return Nat.min (← p.leastBytes?) (← q.leastBytes?)
  | group p => p.leastBytes?
  | repeated min _ p => p.leastBytes?.map fun n => if min = 0 then 0 else n

/-- The bytes of the states of sequences if nothing is shared, each with a branch to it. -/
def sequencesWeight : List (List Utf8.ByteRange) → Nat
  | [] => 0
  | s :: seqs => 40 * s.length + 4 + sequencesWeight seqs

/-- The bytes of the states of a pattern if nothing is shared. The states that tie the parts together
are counted with them, as many as there may be at most. -/
def weight : ByteForm → Nat
  | point => 32
  | literal bs => 80 * bs.length
  | ascii count => 64 + 8 * count
  | wide seqs => 64 + sequencesWeight seqs
  | seq p q => p.weight + q.weight + 10
  | alt p q => p.weight + q.weight + 200
  | group p => p.weight + 100
  | repeated min max p => (Nat.max min (max.getD 0) + 1) * (p.weight + 100) + 200

/-- The bytes of a sequence of certain characters, of which there is at least one. -/
def literal? : ByteForm → Option (List Nat)
  | literal bs => some bs
  | seq p q => do return (← p.literal?) ++ (← q.literal?)
  | _ => none

/-- The branches of a choice, if each is a sequence of certain characters. -/
def literals? : ByteForm → Option (List (List Nat))
  | alt p q => do return (← p.literal?) :: (← q.literals?)
  | p => p.literal?.map ([·])

end ByteForm

/-! ## Laying out an automaton -/

/-- An automaton being laid out, by the number of its states and the bytes that the states take
beyond their own size. -/
structure Layout where
  states : Nat
  bytes : Nat

/-- A transition on a range of bytes to a state. -/
structure Edge where
  range : Utf8.ByteRange
  target : Nat
  deriving DecidableEq

/-- The last parts that have been laid out, by the place that their hash gives them. A part is known
by a list of numbers. -/
structure Recent where
  places : Nat
  parts : Std.TreeMap Nat (List Nat × Nat)

namespace Recent

/-- No parts, with a number of places. -/
def empty (places : Nat) : Recent := ⟨places, ∅⟩

/-- The place of a part: its numbers are stirred into a word of 64 bits one after the other. -/
def place (r : Recent) (key : List Nat) : Nat :=
  (key.foldl (fun h n => (h ^^^ n.toUInt64) * 1099511628211) (14695981039346656037 : UInt64)).toNat %
    r.places

/-- The state of a part, if it is remembered. -/
def find? (r : Recent) (key : List Nat) : Option Nat :=
  match r.parts.get? (r.place key) with
  | some (key', state) => if key' = key then some state else none
  | none => none

/-- Remembers a part instead of the one in its place. -/
def insert (r : Recent) (key : List Nat) (state : Nat) : Recent :=
  { r with parts := r.parts.insert (r.place key) (key, state) }

end Recent

namespace Layout

/-- The most bytes that an automaton may take. -/
def limit : Nat := 10485760

/-- The bytes of a state, of a transition on a range of bytes, and of a branch. -/
def stateBytes : Nat := 32

@[inherit_doc stateBytes]
def edgeBytes : Nat := 8

@[inherit_doc stateBytes]
def branchBytes : Nat := 4

/-- The layout if it is within the limit. -/
def checked (l : Layout) : Option Layout :=
  if l.states * stateBytes + l.bytes ≤ limit then some l else none

/-- Adds states. -/
def add (l : Layout) (states bytes : Nat) : Option Layout :=
  checked ⟨l.states + states, l.bytes + bytes⟩

/-- Adds branches to states that are there. -/
def branch (l : Layout) (count : Nat) : Option Layout := l.add 0 (count * branchBytes)

/-! ### Sets of characters, forward -/

/-- A node of a tree of byte ranges that is not finished: the edges that have a target, the last one
first, and the range that has none yet. -/
structure Node where
  edges : List Edge
  last : Option Utf8.ByteRange

namespace Node

/-- The node with its last range leading to a state. -/
def finish (n : Node) (target : Nat) : Node :=
  match n.last with
  | none => n
  | some r => ⟨⟨r, target⟩ :: n.edges, none⟩

/-- The numbers that a finished node is known by. -/
def key (n : Node) : List Nat :=
  n.edges.reverse.flatMap fun e => [e.range.1, e.range.2, e.target]

end Node

/-- Lays out a finished node, unless an equal one is remembered. -/
def addNode (l : Layout) (recent : Recent) (n : Node) : Option (Nat × Layout × Recent) :=
  let key := n.key
  match recent.find? key with
  | some state => some (state, l, recent)
  | none => do
    let l' ← l.add 1 (n.edges.length * edgeBytes)
    return (l.states, l', recent.insert key l.states)

/-- Lays out the nodes of a path, the deepest first. The last one leads to `target`. -/
def addPath (target : Nat) (l : Layout) (recent : Recent) :
    List Node → Option (Nat × Layout × Recent)
  | [] => some (target, l, recent)
  | n :: rest => do
    let (next, l, recent) ← addPath target l recent rest
    l.addNode recent (n.finish next)

/-- Adds a sequence to a tree, of which the path to the last sequence is not finished. What the new
sequence does not share with that path is laid out. -/
def addSequence (target : Nat) (l : Layout) (recent : Recent) :
    List Node → List Utf8.ByteRange → Option (List Node × Layout × Recent)
  | n :: rest, r :: more =>
    if n.last = some r then do
      let (path, l, recent) ← addSequence target l recent rest more
      return (n :: path, l, recent)
    else do
      let (next, l, recent) ← addPath target l recent rest
      return ({ n.finish next with last := some r } :: more.map (⟨[], some ·⟩), l, recent)
  | path, _ => some (path, l, recent)

/-- Adds sequences to a tree one after the other, and then lays out what is left of it. -/
def addSequences (target : Nat) :
    Layout → Recent → List Node → List (List Utf8.ByteRange) → Option Layout
  | l, recent, path, [] => (addPath target l recent path).map (·.2.1)
  | l, recent, path, s :: rest =>
    match addSequence target l recent path s with
    | none => none
    | some (path, l, recent) => addSequences target l recent path rest

/-- Lays out a set of characters: a tree that shares both beginnings and ends of sequences. -/
def addTree (l : Layout) (seqs : List (List Utf8.ByteRange)) : Option Layout := do
  let l' ← l.add 1 0
  addSequences l.states l' (.empty 10000) [⟨[], none⟩] seqs

/-! ### Sets of characters, backward -/

/-- Lays out a sequence from its first byte on, which is read last. -/
def addTail (l : Layout) (recent : Recent) : Nat → List Utf8.ByteRange → Option (Layout × Recent)
  | _, [] => some (l, recent)
  | from_, r :: rest =>
    let key := [from_, r.1, r.2]
    match recent.find? key with
    | some state => addTail l recent state rest
    | none =>
      match l.add 1 0 with
      | none => none
      | some l' => addTail l' (recent.insert key l.states) l.states rest

/-- Lays out sequences, each of which is a branch. -/
def addTailsFrom (meet : Nat) : Layout → Recent → List (List Utf8.ByteRange) → Option Layout
  | l, _, [] => some l
  | l, recent, s :: rest =>
    match addTail l recent meet s with
    | none => none
    | some (l, recent) =>
      match l.branch 1 with
      | none => none
      | some l => addTailsFrom meet l recent rest

/-- Lays out a set of characters for reading backward: the sequences share their beginnings only. -/
def addTails (l : Layout) (seqs : List (List Utf8.ByteRange)) : Option Layout := do
  let l' ← l.add 2 0
  addTailsFrom (l.states + 1) l' (.empty 1000) seqs

/-! ### Choices between words -/

/-- The parts into which words that are used up cut a list of words. Between two parts a word ends;
a word that ends where no other goes on counts once. -/
def cutAtEnds : List (List Nat) → List (List (List Nat)) → List (List Nat) → List (List (List Nat))
  | [], parts, part => (part.reverse :: parts).reverse
  | [] :: rest, parts, part =>
    if part.isEmpty && !parts.isEmpty && parts.all (·.isEmpty) then cutAtEnds rest parts part
    else cutAtEnds rest (part.reverse :: parts) []
  | w :: rest, parts, part => cutAtEnds rest parts (w :: part)

/-- Words by their first letters, each with what follows it. -/
abbrev Groups := List (Nat × List (List Nat))

/-- Puts what follows a first letter to the group of that letter. -/
def Groups.put (b : Nat) (rest : List Nat) : Groups → Groups
  | [] => [(b, [rest])]
  | g :: groups => if g.1 = b then (b, g.2 ++ [rest]) :: groups else g :: put b rest groups

/-- Puts a word to its group, unless it is used up. -/
def Groups.add (groups : Groups) : List Nat → Groups
  | [] => groups
  | b :: rest => groups.put b rest

/-- The words by their first letters, in the order of first use. -/
def byFirst (ws : List (List Nat)) : Groups := ws.foldl Groups.add []

/-- Lays out the state that some groups begin at. -/
def addStart (l : Layout) (groups : Groups) : Option Layout :=
  match groups.length with
  | 0 => some l
  | 1 => l.add 1 0
  | n => l.add 1 (n * edgeBytes)

/-- Lays out the tree of some words, of which the longest is shorter than the fuel. -/
def addWordsWithin : Nat → Layout → List (List Nat) → Option Layout
  | 0, l, _ => some l
  | fuel + 1, l, ws => do
    let parts := (cutAtEnds ws [] []).map byFirst
    let l ← (parts.flatten.filter fun g => g.2.any (!·.isEmpty)).foldlM
      (fun l g => addWordsWithin fuel l g.2) l
    let l ← parts.foldlM addStart l
    l.add 1 (((parts.filter (!·.isEmpty)).length + (parts.length - 1)) * branchBytes)

/-- Lays out a choice between words. -/
def addWords (l : Layout) (ws : List (List Nat)) : Option Layout := do
  addWordsWithin ((ws.map List.length).foldl Nat.max 0 + 1) (← l.add 1 0) ws

/-! ### Patterns -/

/-- A part that has been laid out, and whether it ends in a branching state, to which whatever
follows adds a branch. -/
structure Part where
  layout : Layout
  branching : Bool

/-- Adds the branch from the end of a part to what follows. -/
def join (l : Layout) (branching : Bool) : Option Layout := if branching then l.branch 1 else some l

/-- Lays out a number of copies, of which `previous` tells whether the one before branches. -/
def addCopies (body : Layout → Option Part) : Nat → Bool → Layout → Option Part
  | 0, previous, l => some ⟨l, previous⟩
  | n + 1, previous, l =>
    match l.join previous with
    | none => none
    | some l =>
      match body l with
      | none => none
      | some p => addCopies body n p.branching p.layout

/-- Lays out exactly `n` copies. -/
def addExactly (body : Layout → Option Part) (n : Nat) (l : Layout) : Option Part :=
  if n = 0 then (l.add 1 0).map (⟨·, false⟩) else addCopies body n false l

/-- Lays out at most `n` further copies, each after a branch that leads to the end. -/
def addOptional (body : Layout → Option Part) : Nat → Bool → Layout → Option Part
  | 0, previous, l => some ⟨l, previous⟩
  | n + 1, previous, l =>
    match l.add 1 (2 * branchBytes) with
    | none => none
    | some l =>
      match l.join previous with
      | none => none
      | some l =>
        match body l with
        | none => none
        | some p => addOptional body n p.branching p.layout

/-- Lays out any number of copies of a body, which `takes` tells to take a byte. -/
def addLoop (body : Layout → Option Part) (takes : Bool) (l : Layout) : Option Part := do
  if takes then
    let p ← body (← l.add 1 branchBytes)
    return ⟨← p.layout.join p.branching, true⟩
  else
    let p ← body l
    return ⟨← (← p.layout.join p.branching).add 3 (4 * branchBytes), false⟩

/-- Lays out a repetition. -/
def addRepetition (body : Layout → Option Part) (takes : Bool) (min : Nat) (max : Option Nat)
    (l : Layout) : Option Part :=
  match min, max with
  | 0, none => addLoop body takes l
  | 0, some 1 => do
    let p ← body (← l.add 1 0)
    return ⟨← (← p.layout.join p.branching).add 1 (2 * branchBytes), false⟩
  | min, none => do
    let p ← addCopies body min false l
    return ⟨← (← p.layout.join p.branching).add 1 branchBytes, true⟩
  | min, some max =>
    if min = max then addExactly body min l
    else do
      let p ← addExactly body min l
      let p ← addOptional body (max - min) p.branching (← p.layout.add 1 0)
      return ⟨← p.layout.join p.branching, false⟩

/-- The place of a branch in a choice. The branching state and the state where branches meet are
laid out after the second branch. -/
inductive Place where
  | alone
  | second
  | later

/-- Ties a branch to its choice. -/
def tie (place : Place) (p : Part) : Option Part :=
  match place with
  | .alone => some p
  | .second => do return ⟨← (← p.layout.join p.branching).add 2 branchBytes, false⟩
  | .later => do return ⟨← (← p.layout.join p.branching).branch 1, false⟩

/-- Lays out a pattern. -/
def addForm (backward : Bool) : ByteForm → Place → Layout → Option Part
  | .alt p q, place, l =>
    match place, (ByteForm.alt p q).literals? with
    | .alone, some ws => do
      return ⟨← l.addWords (if backward then ws.map List.reverse else ws), false⟩
    | .alone, none => do
      let first ← addForm backward p .alone l
      let second ← addForm backward q .second first.layout
      return ⟨← (← second.layout.join first.branching).branch 1, false⟩
    | place, _ => do
      let first ← tie place (← addForm backward p .alone l)
      addForm backward q .later first.layout
  | .point, place, l => do tie place ⟨← l.add 1 0, false⟩
  | .literal bs, place, l => do tie place ⟨← l.add bs.length 0, false⟩
  | .ascii count, place, l => do tie place ⟨← l.add 2 (count * edgeBytes), false⟩
  | .wide seqs, place, l => do
    tie place ⟨← if backward then l.addTails seqs else l.addTree seqs, false⟩
  | .seq p q, place, l => do
    if backward then
      let second ← addForm backward q .alone l
      let first ← addForm backward p .alone (← second.layout.join second.branching)
      tie place first
    else
      let first ← addForm backward p .alone l
      let second ← addForm backward q .alone (← first.layout.join first.branching)
      tie place second
  | .group p, place, l => do
    if backward then tie place (← addForm backward p .alone l)
    else
      let inner ← addForm backward p .alone (← l.add 1 0)
      tie place ⟨← (← inner.layout.join inner.branching).add 1 0, false⟩
  | .repeated min max p, place, l => do
    let takes := p.leastBytes?.any (· ≠ 0)
    tie place (← addRepetition (addForm backward p .alone) takes min max l)

end Layout

/-! ## The limit -/

namespace Pattern

/-- Whether every match begins at the beginning of the text, as far as the form shows. -/
def beginsAtStart : Pattern → Bool
  | anchor a => a == .textStart
  | empty | one _ => false
  | seq p q => p.beginsAtStart || (p.isEmptyOnly && q.beginsAtStart)
  | alt p q => p.beginsAtStart && q.beginsAtStart
  | group _ p => p.beginsAtStart
  | repeated min _ _ p => min ≠ 0 && p.beginsAtStart

/-- Whether every match ends at the end of the text, as far as the form shows. -/
def endsAtEnd : Pattern → Bool
  | anchor a => a == .textEnd
  | empty | one _ => false
  | seq p q => q.endsAtEnd || (q.isEmptyOnly && p.endsAtEnd)
  | alt p q => p.endsAtEnd && q.endsAtEnd
  | group _ p => p.endsAtEnd
  | repeated min _ _ p => min ≠ 0 && p.endsAtEnd

/-- Lays out the automaton of a pattern. A match that need not begin where reading begins is led in
by a loop over all bytes. Forward, the whole match is a group. -/
def layout? (p : Pattern) (form : ByteForm) (backward : Bool) : Option Layout := do
  let fixed := if backward then p.endsAtEnd else p.beginsAtStart
  let l ← if fixed then Layout.add ⟨0, 0⟩ 1 0 else Layout.add ⟨0, 0⟩ 3 16
  let part ← Layout.addForm backward (if backward then form else .group form) .alone l
  (← part.layout.join part.branching).add 1 0

/-- The most bytes of the states before and after the match in an automaton. -/
def frameBytes : Nat := 148

/-- Whether the automata of a pattern are within the limit. They are not laid out if they are even
when nothing is shared. -/
def fits (p : Pattern) : Bool :=
  let form := ByteForm.ofPattern p
  (ByteForm.group form).weight + frameBytes ≤ Layout.limit ||
    (p.layout? form false).isSome && (p.layout? form true).isSome

end Pattern

end SearchQuery
