import SearchQuery.Text.CaseFold
import SearchQuery.Text.Property

/-!
# Sets of characters

A pattern matches single characters against sets. A set is kept as the expression that describes
it. `contains` decides membership by evaluating the expression at a character, which turns each
operation into its Boolean; `ranges` tabulates the set, so that two descriptions of one set can be
told to be the same.
-/

namespace SearchQuery

open Text

/-- Set expressions over characters. -/
inductive CharSet where
  | none
  | range (first last : Char)
  /-- The characters of some general categories. -/
  | categories (cs : List Category)
  | whiteSpace
  | wordChar
  /-- The characters of a table. -/
  | among (rs : Ranges)
  | compl (s : CharSet)
  | union (s t : CharSet)
  | inter (s t : CharSet)
  | diff (s t : CharSet)
  | symmDiff (s t : CharSet)
  /-- The case variants of the members. -/
  | anyCase (s : CharSet)
  /-- The members and, of the letters `A` to `Z`, their other case. -/
  | anyAsciiCase (s : CharSet)
  deriving DecidableEq, Repr

namespace CharSet

/-- The other case of a letter `A` to `Z`; every other character is its own. -/
def swapAsciiCase (c : Char) : Char :=
  if 'a' ≤ c ∧ c ≤ 'z' then Char.ofNat (c.toNat - 32)
  else if 'A' ≤ c ∧ c ≤ 'Z' then Char.ofNat (c.toNat + 32)
  else c

/-- Membership. -/
def contains : CharSet → Char → Bool
  | none, _ => false
  | range first last, c => first ≤ c && c ≤ last
  | categories cs, c => cs.contains (Category.of c)
  | whiteSpace, c => isWhiteSpace c
  | wordChar, c => isWordChar c
  | among rs, c => rs.contains c
  | compl s, c => !s.contains c
  | union s t, c => s.contains c || t.contains c
  | inter s t, c => s.contains c && t.contains c
  | diff s t, c => s.contains c && !t.contains c
  | symmDiff s t, c => s.contains c != t.contains c
  | anyCase s, c => (caseVariants c).any s.contains
  | anyAsciiCase s, c => s.contains c || s.contains (swapAsciiCase c)

/-- The table of the members. -/
def ranges : CharSet → Ranges
  | none => []
  | range first last => if first ≤ last then [(first.toNat, last.toNat)] else []
  | categories cs => categoryRanges cs
  | whiteSpace => PropertyTable.whiteSpace
  | wordChar => PropertySet.wordChar
  | among rs => rs
  | compl s => s.ranges.compl
  | union s t => s.ranges.union t.ranges
  | inter s t => s.ranges.inter t.ranges
  | diff s t => s.ranges.diff t.ranges
  | symmDiff s t => s.ranges.symmDiff t.ranges
  | anyCase s => s.ranges.closeCase
  | anyAsciiCase s => s.ranges.closeAsciiCase

/-- The set of one character. -/
def single (c : Char) : CharSet := range c c

/-- All characters. -/
def all : CharSet := compl none

/-- The union of several sets. -/
def unions (ss : List CharSet) : CharSet :=
  match ss with
  | [] => none
  | s :: rest => rest.foldl union s

/-- Letters and numbers, in the categories of these names. -/
def letter : CharSet := categories [.lu, .ll, .lt, .lm, .lo]

@[inherit_doc letter]
def number : CharSet := categories [.nd, .nl, .no]

/-- Whether two expressions describe the same set. -/
def same (s t : CharSet) : Bool := s == t || s.ranges == t.ranges

/-- The only member, if there is exactly one. -/
def single? (s : CharSet) : Option Nat :=
  match s.ranges with
  | [(first, last)] => if first = last then some first else Option.none
  | _ => Option.none

/-- Whether all members are ASCII characters. -/
def isAscii (s : CharSet) : Bool := s.ranges.all (·.2 < 128)

end CharSet

end SearchQuery
