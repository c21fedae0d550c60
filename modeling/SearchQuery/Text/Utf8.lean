/-!
# Ranges of characters as bytes

A character is one to four bytes in UTF-8. A range of characters is cut into sequences of byte
ranges: a text of bytes is the code of a character of the range exactly if each of its bytes lies
in the byte range at its place in one of the sequences. The sequences come in increasing order.
-/

namespace SearchQuery.Text.Utf8

/-- The bytes of a code point. -/
def bytes (n : Nat) : List Nat :=
  if n < 0x80 then [n]
  else if n < 0x800 then [0xC0 + n / 64, 0x80 + n % 64]
  else if n < 0x10000 then [0xE0 + n / 4096, 0x80 + n / 64 % 64, 0x80 + n % 64]
  else [0xF0 + n / 262144, 0x80 + n / 4096 % 64, 0x80 + n / 64 % 64, 0x80 + n % 64]

/-- An inclusive range of bytes. -/
abbrev ByteRange := Nat × Nat

/-- Where a range from `s` to `e` has to be cut so that the last `bits` bits of each part are either
free or belong to a single start: the last code point before the cut. -/
def alignedCut? (s e bits : Nat) : Option Nat :=
  let unit := Nat.pow 2 bits
  if s / unit = e / unit then none
  else if s % unit ≠ 0 then some (s / unit * unit + (unit - 1))
  else if e % unit ≠ unit - 1 then some (e / unit * unit - 1)
  else none

/-- Where a range has to be cut first: the last code point before the cut, and the first one after
it. Cuts come at the surrogates, where the number of bytes changes, and where a byte would not run
through all its values. -/
def cut? (s e : Nat) : Option (Nat × Nat) :=
  if s < 0xE000 ∧ 0xD7FF < e then some (0xD7FF, 0xE000)
  else
    match [0x7F, 0x7FF, 0xFFFF].find? fun m => s ≤ m && m < e with
    | some m => some (m, m + 1)
    | none =>
      if e ≤ 0x7F then none
      else ([6, 12, 18].findSome? (alignedCut? s e)).map fun m => (m, m + 1)

/-- The sequences of a range, by cutting it at most `fuel` times in depth. -/
def sequencesWithin : Nat → Nat → Nat → List (List ByteRange)
  | 0, _, _ => []
  | fuel + 1, s, e =>
    if e < s then []
    else
      match cut? s e with
      | some (m, next) => sequencesWithin fuel s m ++ sequencesWithin fuel next e
      | none => [(bytes s).zip (bytes e)]

/-- The sequences of the code points from `s` to `e`. There are fewer than 32 places to cut. -/
def sequences (s e : Nat) : List (List ByteRange) := sequencesWithin 32 s e

end SearchQuery.Text.Utf8
