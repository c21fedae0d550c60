import SearchQuery.Path

/-!
# File trees

The files that a program can see, as a value: what stands at every place, and the directory from
which relative paths are followed.
-/

namespace SearchQuery

/-- What a file holds: text, or bytes that are not the encoding of a text. -/
inductive Contents where
  | text (s : String)
  | binary (bytes : ByteArray)

namespace Contents

/-- The contents that bytes make. -/
def ofBytes (bytes : ByteArray) : Contents :=
  match String.fromUTF8? bytes with
  | some s => text s
  | none => binary bytes

end Contents

/-- What stands at a place. -/
inductive Entry where
  | file (contents : Contents)
  | directory

/-- A place: the names on the way down from the top. -/
abbrev Place := List String

/-- Why a file could not be read or written. -/
inductive FileError where
  | missing
  | notDirectory
  | isDirectory
  | notText
  | nameTooLong
  | zeroInName
  deriving DecidableEq, Repr

/-- The wording of a file error. -/
def FileError.message : FileError → String
  | missing => "No such file or directory (os error 2)"
  | notDirectory => "Not a directory (os error 20)"
  | isDirectory => "Is a directory (os error 21)"
  | notText => "stream did not contain valid UTF-8"
  | nameTooLong => "File name too long (os error 36)"
  | zeroInName => "file name contained an unexpected NUL byte"

/-- The most bytes that one name on the way may have. -/
def maxNameBytes : Nat := 255

/-- The most bytes that a path may have. -/
def maxPathBytes : Nat := 4095

/-- A file tree. -/
structure FileTree where
  /-- What stands where; the first entry of a place counts. -/
  entries : List (Place × Entry)
  /-- Where relative paths begin. -/
  base : Place

namespace FileTree

/-- What stands at a place. The top is a directory. -/
def entry? (t : FileTree) (place : Place) : Option Entry :=
  if place.isEmpty then some .directory else (t.entries.find? (·.1 = place)).map (·.2)

/-- Follows segments of a path from a place. Every step has to start from a directory, and no name
may be too long. -/
def walk (t : FileTree) : Place → List (List Char) → Except FileError Place
  | place, [] => .ok place
  | place, s :: rest =>
    match t.entry? place with
    | none => .error .missing
    | some (.file _) => .error .notDirectory
    | some .directory =>
      if Path.isIdle s then t.walk place rest
      else if s = ['.', '.'] then t.walk place.dropLast rest
      else
        let name := String.ofList s
        if maxNameBytes < name.utf8ByteSize then .error .nameTooLong
        else t.walk (place ++ [name]) rest

/-- The place that a path leads to, whether or not something stands there. -/
def locate (t : FileTree) (p : Path) : Except FileError Place :=
  if p.text.toList.contains '\x00' then .error .zeroInName
  else if maxPathBytes < p.text.utf8ByteSize then .error .nameTooLong
  else
    match p.text.toList with
    | [] => .error .missing
    | '/' :: rest => t.walk [] (Path.segments rest)
    | cs => t.walk t.base (Path.segments cs)

/-- What a path leads to. -/
def find (t : FileTree) (p : Path) : Except FileError Entry := do
  let place ← t.locate p
  match t.entry? place with
  | some e => return e
  | none => throw .missing

/-- Whether a path leads to something. -/
def exists? (t : FileTree) (p : Path) : Bool := (t.find p).toOption.isSome

/-- Whether a path leads to a file. -/
def isFile (t : FileTree) (p : Path) : Bool :=
  match t.find p with
  | .ok (.file _) => true
  | _ => false

/-- The text of the file that a path leads to. -/
def readText (t : FileTree) (p : Path) : Except FileError String :=
  match t.find p with
  | .ok (.file (.text s)) => .ok s
  | .ok (.file (.binary _)) => .error .notText
  | .ok .directory => .error .isDirectory
  | .error e => .error e

/-- Puts an entry at a place. -/
def insert (t : FileTree) (place : Place) (e : Entry) : FileTree :=
  { t with entries := (place, e) :: t.entries.filter (·.1 ≠ place) }

/-- Writes a text to the file that a path leads to; the directory it stands in has to exist. -/
def writeText (t : FileTree) (p : Path) (s : String) : Except FileError FileTree := do
  let place ← t.locate p
  match t.entry? place with
  | some .directory => throw .isDirectory
  | _ => return t.insert place (.file (.text s))

end FileTree

end SearchQuery
