/-!
# General categories

Every character has exactly one general category. The classes that patterns and words are made of
(letters, numbers, marks, …) are unions of categories, told apart by the first letter of the name.
-/

namespace SearchQuery.Text

/-- The thirty general categories, under their standard two-letter names. -/
inductive Category where
  | lu | ll | lt | lm | lo
  | mn | mc | me
  | nd | nl | no
  | pc | pd | ps | pe | pi | pf | po
  | sm | sc | sk | so
  | zs | zl | zp
  | cc | cf | cs | co | cn
  deriving DecidableEq, Repr

namespace Category

/-- Letters of any case. -/
def isLetter : Category → Bool
  | lu | ll | lt | lm | lo => true
  | _ => false

/-- Combining marks. -/
def isMark : Category → Bool
  | mn | mc | me => true
  | _ => false

/-- Digits, letter numbers and other numbers. -/
def isNumber : Category → Bool
  | nd | nl | no => true
  | _ => false

/-- Separators. -/
def isSeparator : Category → Bool
  | zs | zl | zp => true
  | _ => false

/-- Controls, format characters, surrogates, private use and unassigned code points. -/
def isOther : Category → Bool
  | cc | cf | cs | co | cn => true
  | _ => false

end Category

end SearchQuery.Text
