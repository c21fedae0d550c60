import SearchQuery.Text.Hex
import SearchQuery.Toml.Scalar
import SearchQuery.Toml.Value

/-!
# The size of numbers in TOML

A document may write numbers of any size, but not every number can be held: an integer takes at
most 128 bits, with a sign or without one, and a floating-point number must not be rounded to
infinity. `Value.fits` tells whether all numbers of a value can be held.
-/

namespace SearchQuery.Toml

namespace Scalar

/-- The number that digits stand for. Underscores between them do not count. -/
def digitsValue (base : Nat) (cs : List Char) : Nat :=
  cs.foldl (fun n c => ((Text.hexValue? c).map (base * n + ·)).getD n) 0

/-- Whether an integer takes at most 128 bits, with a sign or without one. -/
def integerFits (cs : List Char) : Bool :=
  match cs with
  | '0' :: 'x' :: rest => digitsValue 16 rest < Nat.pow 2 128
  | '0' :: 'o' :: rest => digitsValue 8 rest < Nat.pow 2 128
  | '0' :: 'b' :: rest => digitsValue 2 rest < Nat.pow 2 128
  | '-' :: rest => digitsValue 10 rest ≤ Nat.pow 2 127
  | _ => digitsValue 10 (dropSign cs) < Nat.pow 2 128

/-- The least number that is rounded to infinity: it lies halfway between the largest
floating-point number, `2 ^ 1024 - 2 ^ 971`, and `2 ^ 1024`. -/
def roundedToInfinity : Nat := Nat.pow 2 1024 - Nat.pow 2 970

/-- How many decimal digits `roundedToInfinity` has. -/
def infinityDigits : Int := 309

/-- Whether digits times a power of ten are rounded to a finite number. The first digit is not
zero, so their count decides, unless it is that of `roundedToInfinity`. -/
def isFinite (digits : List Char) (exponent : Int) : Bool :=
  let length := digits.length + exponent
  if digits.isEmpty || length < infinityDigits then true
  else if infinityDigits < length then false
  else
    digitsValue 10 digits * Nat.pow 10 exponent.toNat <
      roundedToInfinity * Nat.pow 10 (-exponent).toNat

/-- The number in an exponent, zero if there is none. -/
def exponentValue (cs : List Char) : Int :=
  match cs.drop 1 with
  | '-' :: rest => -(digitsValue 10 rest : Int)
  | rest => digitsValue 10 (dropSign rest)

/-- Whether a floating-point number is infinite only if it says so. -/
def floatFits (cs : List Char) : Bool :=
  let cs := dropSign cs
  let whole := cs.takeWhile isDigitOrUnderscore
  let rest := cs.dropWhile isDigitOrUnderscore
  let (fraction, tail) :=
    match rest with
    | '.' :: rest => (rest.takeWhile isDigitOrUnderscore, rest.dropWhile isDigitOrUnderscore)
    | _ => ([], rest)
  let digits := (whole ++ fraction).filter Char.isDigit
  whole.isEmpty ||
    isFinite (digits.dropWhile (· = '0'))
      (exponentValue tail - (fraction.filter Char.isDigit).length)

/-- Whether a number can be held. Times always can. -/
def fits (cs : List Char) : Bool :=
  if isInteger cs then integerFits cs else !isFloat cs || floatFits cs

end Scalar

mutual

/-- Whether all numbers of a value can be held. -/
def Value.fits : Value → Bool
  | .string _ => true
  | .boolean _ => true
  | .scalar text => Scalar.fits text.toList
  | .array items => itemsFit items
  | .table _ entries => entriesFit entries
  | .rows rows => rowsFit rows

/-- Whether all numbers of an array can be held. -/
def itemsFit : List Value → Bool
  | [] => true
  | v :: items => v.fits && itemsFit items

/-- Whether all numbers of a table can be held. -/
def entriesFit : List (String × Value) → Bool
  | [] => true
  | (_, v) :: entries => v.fits && entriesFit entries

/-- Whether all numbers of the tables under headers in double brackets can be held. -/
def rowsFit : List (List (String × Value)) → Bool
  | [] => true
  | entries :: rows => entriesFit entries && rowsFit rows

end

end SearchQuery.Toml
