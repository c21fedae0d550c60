/-!
# Numbers and times in TOML

Which texts are integers, floating-point numbers, dates and times. Their values do not matter
here.
-/

namespace SearchQuery.Toml.Scalar

/-- Digits with single underscores between them; `after` tells whether a digit stands in front. -/
def isGrouped (isDigit : Char → Bool) (after : Bool) : List Char → Bool
  | [] => after
  | c :: cs =>
    if isDigit c then isGrouped isDigit true cs
    else c = '_' && after && isGrouped isDigit false cs

/-- Decimal digits without a superfluous zero in front. -/
def isPlain (cs : List Char) : Bool :=
  isGrouped Char.isDigit false cs && (cs.head? != some '0' || cs.length = 1)

/-- The text without a sign in front. -/
def dropSign (cs : List Char) : List Char :=
  match cs with
  | '+' :: rest | '-' :: rest => rest
  | _ => cs

/-- Hexadecimal digits. -/
def isHexDigit (c : Char) : Bool :=
  c.isDigit || ('a' ≤ c && c ≤ 'f') || ('A' ≤ c && c ≤ 'F')

/-- Integers: decimal with a sign, or hexadecimal, octal or binary without one. -/
def isInteger (cs : List Char) : Bool :=
  match cs with
  | '0' :: 'x' :: rest => isGrouped isHexDigit false rest
  | '0' :: 'o' :: rest => isGrouped (fun c => '0' ≤ c && c ≤ '7') false rest
  | '0' :: 'b' :: rest => isGrouped (fun c => c = '0' || c = '1') false rest
  | _ => isPlain (dropSign cs)

/-- An exponent. -/
def isExponent (cs : List Char) : Bool :=
  match cs with
  | 'e' :: rest | 'E' :: rest => isGrouped Char.isDigit false (dropSign rest)
  | _ => false

/-- Whether a character may stand among decimal digits. -/
def isDigitOrUnderscore (c : Char) : Bool := c.isDigit || c = '_'

/-- Floating-point numbers: with a fraction, an exponent or both, or one of the special ones. -/
def isFloat (cs : List Char) : Bool :=
  let cs := dropSign cs
  if cs = ['i', 'n', 'f'] || cs = ['n', 'a', 'n'] then true
  else
    let whole := cs.takeWhile isDigitOrUnderscore
    isPlain whole &&
      match cs.dropWhile isDigitOrUnderscore with
      | '.' :: rest =>
        isGrouped Char.isDigit false (rest.takeWhile isDigitOrUnderscore) &&
          let tail := rest.dropWhile isDigitOrUnderscore
          (tail.isEmpty || isExponent tail)
      | tail => isExponent tail

/-- The value of two digits. -/
def twoDigits? (a b : Char) : Option Nat :=
  if a.isDigit && b.isDigit then some (10 * (a.toNat - 48) + (b.toNat - 48)) else none

/-- The days of a month. -/
def daysIn (year month : Nat) : Nat :=
  if month = 2 then
    if year % 4 = 0 && (year % 100 != 0 || year % 400 = 0) then 29 else 28
  else if [4, 6, 9, 11].contains month then 30
  else 31

/-- Reads a date. -/
def dropDate? (cs : List Char) : Option (List Char) :=
  match cs with
  | a :: b :: c :: d :: '-' :: e :: f :: '-' :: g :: h :: rest => do
    let year := 100 * (← twoDigits? a b) + (← twoDigits? c d)
    let month ← twoDigits? e f
    let day ← twoDigits? g h
    if 1 ≤ month ∧ month ≤ 12 ∧ 1 ≤ day ∧ day ≤ daysIn year month then return rest else none
  | _ => none

/-- Reads the fraction of a second, if there is one. -/
def dropFraction? (cs : List Char) : Option (List Char) :=
  match cs with
  | '.' :: rest => if (rest.head?).any Char.isDigit then some (rest.dropWhile Char.isDigit) else none
  | _ => some cs

/-- Reads a time of day; its seconds may be left out. -/
def dropTime? (cs : List Char) : Option (List Char) :=
  match cs with
  | a :: b :: ':' :: c :: d :: rest => do
    let hour ← twoDigits? a b
    let minute ← twoDigits? c d
    if hour ≤ 23 ∧ minute ≤ 59 then
      match rest with
      | ':' :: e :: f :: rest =>
        if (← twoDigits? e f) ≤ 60 then dropFraction? rest else none
      | _ => return rest
    else none
  | _ => none

/-- Whether the text is an offset from universal time, or empty. -/
def isOffset (cs : List Char) : Bool :=
  match cs with
  | [] | ['Z'] | ['z'] => true
  | [sign, a, b, ':', c, d] =>
    (sign = '+' || sign = '-') && (twoDigits? a b).any (· ≤ 23) && (twoDigits? c d).any (· ≤ 59)
  | _ => false

/-- Dates, times of day, and both with or without an offset. -/
def isMoment (cs : List Char) : Bool :=
  match dropDate? cs with
  | some [] => true
  | some (sep :: rest) =>
    (sep = 'T' || sep = 't' || sep = ' ') && (dropTime? rest).any isOffset
  | none => (dropTime? cs).any List.isEmpty

/-- Whether a text is a number or a time. -/
def isScalar (cs : List Char) : Bool := isInteger cs || isFloat cs || isMoment cs

end SearchQuery.Toml.Scalar
