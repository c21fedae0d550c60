/-!
# Paths

A path is the text that names a file. Paths are put together and taken apart as texts, and compared
by their components: doubled and trailing slashes and single dots do not matter, double dots do.
-/

namespace SearchQuery

/-- A path, as it is written. -/
structure Path where
  text : String
  deriving DecidableEq, Repr

namespace Path

/-- Cuts a text at every slash. -/
def segments : List Char → List (List Char)
  | [] => [[]]
  | c :: cs =>
    if c = '/' then [] :: segments cs
    else
      match segments cs with
      | [] => [[c]]
      | s :: rest => (c :: s) :: rest

/-- Puts segments together with slashes between them. -/
def join : List (List Char) → List Char
  | [] => []
  | [s] => s
  | s :: rest => s ++ '/' :: join rest

/-- The beginning of a path: a slash, a single dot for the current directory, or nothing. The
answer is this beginning and the text after it. -/
def splitStart (cs : List Char) : List Char × List Char :=
  match cs with
  | '/' :: rest => (['/'], rest)
  | ['.'] => (['.'], [])
  | '.' :: '/' :: rest => (['.'], '/' :: rest)
  | _ => ([], cs)

/-- Whether a segment stays where it is. -/
def isIdle (s : List Char) : Bool := s = [] || s = ['.']

/-- What a path is compared by: its beginning and the names on the way. -/
def components (p : Path) : List Char × List (List Char) :=
  let (start, body) := splitStart p.text.toList
  (start, (segments body).filter (!isIdle ·))

/-- Whether two paths have the same components. -/
def sameAs (p q : Path) : Bool := p.components = q.components

/-- The segments without idle ones at the end. -/
def trimEnd (ss : List (List Char)) : List (List Char) := (ss.reverse.dropWhile isIdle).reverse

/-- The path without its last component. The beginning alone has no parent, except for a single
dot, whose parent is the empty path. -/
def parent? (p : Path) : Option Path :=
  let (start, body) := splitStart p.text.toList
  match trimEnd (segments body) with
  | [] => if start = ['.'] then some ⟨""⟩ else none
  | ss => some ⟨String.ofList (start ++ join (trimEnd ss.dropLast))⟩

/-- The path of a file in a directory. -/
def child (p : Path) (name : String) : Path :=
  if p.text.isEmpty then ⟨name⟩
  else if p.text.endsWith "/" then ⟨p.text ++ name⟩
  else ⟨p.text ++ "/" ++ name⟩

/-- The path, its parent, the parent's parent and so on, at most `n` of them. -/
def ancestorsWithin : Nat → Path → List Path
  | 0, _ => []
  | n + 1, p =>
    match p.parent? with
    | some q => p :: ancestorsWithin n q
    | none => [p]

/-- The path and all its ancestors, itself first. A parent is shorter, so the length bounds their
number. -/
def ancestors (p : Path) : List Path := p.ancestorsWithin (p.text.length + 2)

end Path

end SearchQuery
