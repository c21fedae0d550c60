import SearchQuery.Pattern.CharSet

/-!
# Flags of a pattern

Flags change how the rest of a pattern, up to the end of the enclosing group, is read.
`Flags.read?` reads the letters between `(?` and the `:` or `)` that ends them.
-/

namespace SearchQuery.Pattern

open Text

/-- The flags, by what they switch on. -/
inductive Flag where
  /-- `i`: letters match in either case. -/
  | ignoreCase
  /-- `m`: `^` and `$` match at line breaks too. -/
  | multiLine
  /-- `s`: a dot matches a line break too. -/
  | dotAll
  /-- `U`: repetitions are greedy when marked by `?`, and else not. -/
  | swapGreed
  /-- `u`: classes and case are those of all scripts. -/
  | allScripts
  /-- `R`: carriage returns break lines too. -/
  | returns
  /-- `x`: blanks and comments in the pattern are ignored. -/
  | verbose
  deriving DecidableEq, Repr

/-- The flag of a letter. -/
def Flag.ofLetter? : Char → Option Flag
  | 'i' => some ignoreCase
  | 'm' => some multiLine
  | 's' => some dotAll
  | 'U' => some swapGreed
  | 'u' => some allScripts
  | 'R' => some returns
  | 'x' => some verbose
  | _ => none

/-- The state of every flag. -/
structure Flags where
  ignoreCase : Bool
  multiLine : Bool
  dotAll : Bool
  swapGreed : Bool
  allScripts : Bool
  returns : Bool
  verbose : Bool
  deriving DecidableEq, Repr

namespace Flags

/-- The flags at the beginning of a pattern. -/
def initial : Flags := ⟨false, false, false, false, true, false, false⟩

/-- Switches one flag. -/
def set (f : Flags) (flag : Flag) (on : Bool) : Flags :=
  match flag with
  | .ignoreCase => { f with ignoreCase := on }
  | .multiLine => { f with multiLine := on }
  | .dotAll => { f with dotAll := on }
  | .swapGreed => { f with swapGreed := on }
  | .allScripts => { f with allScripts := on }
  | .returns => { f with returns := on }
  | .verbose => { f with verbose := on }

/-- Switches flags one after the other. -/
def setAll (f : Flags) (changes : List (Flag × Bool)) : Flags :=
  changes.foldl (fun f c => f.set c.1 c.2) f

/-- The set that a literal character matches. -/
def literalSet (f : Flags) (c : Char) : CharSet :=
  if f.ignoreCase then
    if f.allScripts then .unions ((caseVariants c).map .single)
    else .unions [.single c, .single (CharSet.swapAsciiCase c)]
  else .single c

/-- The set closed under case variants, if case is ignored. -/
def foldCase (f : Flags) (s : CharSet) : CharSet :=
  if f.ignoreCase then if f.allScripts then .anyCase s else .anyAsciiCase s else s

/-- The set that a dot matches. -/
def dotSet (f : Flags) : CharSet :=
  if f.dotAll then .all
  else if f.returns then .compl (.union (.single '\n') (.single '\r'))
  else .compl (.single '\n')

/-- Reads flags up to the `:` or `)` after them. The answer is the changes, that last character
and what follows it. A flag or the sign `-` may stand only once, and the sign not last. -/
def read? : List Char → List (Flag × Bool) → Bool → Bool →
    Option (List (Flag × Bool) × Char × List Char)
  | [], _, _, _ => none
  | c :: cs, changes, negated, dangling =>
    if c = ':' || c = ')' then if dangling then none else some (changes.reverse, c, cs)
    else if c = '-' then if negated then none else read? cs changes true true
    else
      match Flag.ofLetter? c with
      | none => none
      | some flag =>
        if changes.any (·.1 == flag) then none
        else read? cs ((flag, !negated) :: changes) negated false

end Flags

end SearchQuery.Pattern
