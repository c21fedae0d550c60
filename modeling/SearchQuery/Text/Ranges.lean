import SearchQuery.Text.Hex

/-!
# Ranges of code points

A set of code points is tabulated as inclusive ranges in increasing order with a gap between each
two neighbours, so that every set has one table and tables can be compared. The set operations keep
that order: union is a merge followed by `coalesce`, and the others come from union and complement.

The surrogates stand for no character. Complements leave them out at the ends of a range, so that a
range always begins and ends with a character.
-/

namespace SearchQuery.Text

/-- Inclusive ranges of code points, in increasing order. -/
abbrev Ranges := List (Nat × Nat)

namespace Ranges

/-- The last code point. -/
def maxCode : Nat := 0x10FFFF

/-- Whether a code point lies in one of the ranges. -/
def containsCode : Ranges → Nat → Bool
  | [], _ => false
  | (first, last) :: rest, n => if n < first then false else n ≤ last || containsCode rest n

/-- Whether a character lies in one of the ranges. -/
def contains (rs : Ranges) (c : Char) : Bool := rs.containsCode c.toNat

/-! ## Set operations -/

/-- Joins ranges that overlap or touch; `first` and `last` bound the range before the others. -/
def coalesceFrom (first last : Nat) : Ranges → Ranges
  | [] => [(first, last)]
  | (a, b) :: rest =>
    if a ≤ last + 1 then coalesceFrom first (Nat.max last b) rest
    else (first, last) :: coalesceFrom a b rest

/-- Joins ranges that overlap or touch, if they begin in increasing order. -/
def coalesce : Ranges → Ranges
  | [] => []
  | (a, b) :: rest => coalesceFrom a b rest

/-- Puts a range in its place among others, where `rest` merges what comes after it. -/
def mergeRange (r : Nat × Nat) (rest : Ranges → Ranges) : Ranges → Ranges
  | [] => r :: rest []
  | s :: ss => if r.1 ≤ s.1 then r :: rest (s :: ss) else s :: mergeRange r rest ss

/-- The code points in one of two sets. -/
def union (rs ss : Ranges) : Ranges := coalesce (rs.foldr mergeRange id ss)

/-- The code points in one of several sets. -/
def unions : List Ranges → Ranges
  | [] => []
  | rs :: rest => rest.foldl union rs

/-- The character after a code point: the surrogates are passed over. -/
def after (n : Nat) : Nat := if n = 0xD7FF then 0xE000 else n + 1

/-- The character before a code point: the surrogates are passed over. -/
def before (n : Nat) : Nat := if n = 0xE000 then 0xD7FF else n - 1

/-- The characters from `next` on that are in none of the ranges. -/
def complFrom (next : Nat) : Ranges → Ranges
  | [] => if next ≤ maxCode then [(next, maxCode)] else []
  | (a, b) :: rest =>
    if next < a then (next, before a) :: complFrom (after b) rest else complFrom (after b) rest

/-- The characters that are not in a set. -/
def compl (rs : Ranges) : Ranges := complFrom 0 rs

/-- The characters of the first set that are not in the second. -/
def diff (rs ss : Ranges) : Ranges := compl (union (compl rs) ss)

/-- The characters in both of two sets. -/
def inter (rs ss : Ranges) : Ranges := diff rs (compl ss)

/-- The characters in exactly one of two sets. -/
def symmDiff (rs ss : Ranges) : Ranges := union (diff rs ss) (diff ss rs)

/-- The set of some code points in any order. -/
def ofCodes (ns : List Nat) : Ranges :=
  coalesce ((ns.mergeSort (fun m n => decide (m ≤ n))).map fun n => (n, n))

/-! ## Tables as text

A table is written in hexadecimal numbers with blanks between its items. An item is one code point,
a range `first-last`, or every second code point `first:last` of a range. -/

/-- The items of a table in the making: `start` is the number before the sign `-` or `:`, of which
`step` tells the distance of code points, and `value` is the number being read. -/
structure Item where
  start : Option Nat
  step : Nat
  value : Nat

namespace Item

/-- Nothing has been read. -/
def blank : Item := ⟨none, 1, 0⟩

/-- The ranges that an item stands for. -/
def ranges (i : Item) : Ranges :=
  match i.start with
  | none => [(i.value, i.value)]
  | some a =>
    if i.step = 1 then [(a, i.value)]
    else (List.range ((i.value - a) / i.step + 1)).map fun k => (a + k * i.step, a + k * i.step)

end Item

/-- Reads the items of a table. -/
def readItems : Item → List Char → Ranges
  | i, [] => i.ranges
  | i, c :: cs =>
    if c = ' ' then i.ranges ++ readItems .blank cs
    else if c = '-' then readItems ⟨some i.value, 1, 0⟩ cs
    else if c = ':' then readItems ⟨some i.value, 2, 0⟩ cs
    else readItems { i with value := 16 * i.value + (hexValue? c).getD 0 } cs

/-- The ranges that the lines of a table list. -/
def ofLines (lines : List String) : Ranges :=
  lines.flatMap fun line => readItems .blank line.toList

end Ranges

end SearchQuery.Text
