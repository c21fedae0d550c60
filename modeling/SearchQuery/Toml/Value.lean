/-!
# TOML values

The values of a configuration file. Numbers and times are kept as they are written, since nothing
here computes with them. A table remembers how it came to be, because that decides whether later
lines may add to it.
-/

namespace SearchQuery.Toml

/-- How a table came to be. -/
inductive Origin where
  /-- By a header of its own; the document itself counts as such. -/
  | header
  /-- By standing in front of another name in a header. -/
  | parent
  /-- By standing in front of another name in a key. -/
  | dotted
  /-- By braces. -/
  | inline
  /-- By a dotted key between braces. -/
  | inlineDotted
  deriving DecidableEq, Repr

namespace Origin

/-- Whether the table has been mentioned but not defined. -/
def isImplicit : Origin → Bool
  | parent | dotted | inlineDotted => true
  | header | inline => false

/-- Whether the table came to be by a dotted key. -/
def isDotted : Origin → Bool
  | dotted | inlineDotted => true
  | _ => false

/-- Whether the table stands between braces. -/
def isInline : Origin → Bool
  | inline | inlineDotted => true
  | _ => false

end Origin

/-- TOML values. -/
inductive Value where
  | string (s : String)
  | boolean (b : Bool)
  /-- A number or a time. -/
  | scalar (text : String)
  | array (items : List Value)
  | table (origin : Origin) (entries : List (String × Value))
  /-- The tables under headers in double brackets. -/
  | rows (rows : List (List (String × Value)))
  deriving Repr

/-- The entries of a table, in the order in which they were added. -/
abbrev Entries := List (String × Value)

/-- A table: its entries and how it came to be. -/
structure Table where
  origin : Origin
  entries : Entries
  deriving Repr

namespace Table

/-- A table without entries. -/
def empty (origin : Origin) : Table := ⟨origin, []⟩

/-- The value of a key. -/
def get? (t : Table) (key : String) : Option Value := t.entries.lookup key

/-- Adds an entry under a new key. -/
def add (t : Table) (key : String) (v : Value) : Table :=
  { t with entries := t.entries ++ [(key, v)] }

/-- Replaces the value of a key. -/
def set (t : Table) (key : String) (v : Value) : Table :=
  { t with entries := t.entries.map fun e => if e.1 = key then (key, v) else e }

/-- The table as a value. -/
def toValue (t : Table) : Value := .table t.origin t.entries

/-- Goes down a path of tables and changes the table at its end. Tables that are missing are
created. The path may not go through a table between braces, and a dotted key may not go through a
table that has been defined; through tables in double brackets it goes into the last one. -/
def alter (dotted inline : Bool) : List String → (Table → Option Table) → Table → Option Table
  | [], change, t => change t
  | key :: path, change, t =>
    match t.get? key with
    | none =>
      let origin : Origin :=
        if inline then .inlineDotted else if dotted then .dotted else .parent
      (alter dotted inline path change (empty origin)).map fun u => t.add key u.toValue
    | some (.table origin entries) =>
      if (origin.isInline && !inline) || (dotted && !origin.isImplicit) then none
      else (alter dotted inline path change ⟨origin, entries⟩).map fun u => t.set key u.toValue
    | some (.rows rows) =>
      match rows.getLast? with
      | none => none
      | some last =>
        (alter dotted inline path change ⟨.header, last⟩).map fun u =>
          t.set key (.rows (rows.dropLast ++ [u.entries]))
    | some _ => none

/-- Adds an entry under a key with a path in front of it. The key must be new, and a table that
came to be by dotted keys is added to by dotted keys only. -/
def put (inline : Bool) (path : List String) (key : String) (v : Value) (t : Table) :
    Option Table :=
  let add (parent : Table) : Option Table :=
    if parent.origin.isDotted = path.isEmpty || (parent.get? key).isSome then none
    else some (parent.add key v)
  t.alter true inline path add

/-- Defines a table by a header. It must be new, or mentioned only in front of other names. -/
def define (path : List String) (key : String) (t : Table) : Option Table :=
  let add (parent : Table) : Option Table :=
    match parent.get? key with
    | none => some (parent.add key (.table .header []))
    | some (.table .parent entries) => some (parent.set key (.table .header entries))
    | some _ => none
  t.alter false false path add

/-- Adds a table by a header in double brackets. -/
def defineRow (path : List String) (key : String) (t : Table) : Option Table :=
  let add (parent : Table) : Option Table :=
    match parent.get? key with
    | none => some (parent.add key (.rows [[]]))
    | some (.rows rows) => some (parent.set key (.rows (rows ++ [[]])))
    | some _ => none
  t.alter false false path add

end Table

end SearchQuery.Toml
