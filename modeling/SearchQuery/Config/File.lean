import SearchQuery.Toml.Document
import SearchQuery.Toml.Magnitude
import SearchQuery.Toml.Writer

/-!
# Configuration files

A configuration file is a TOML document that lists fields. It may declare itself the root, so that
no file further out is looked at. Other keys at the top are ignored, but their numbers have to be
of a size that can be held; an entry of the list may have no key but the three it knows.
-/

namespace SearchQuery.Config

/-- One entry of the list of fields, as it is written. -/
structure FieldEntry where
  label : String
  token : Option String
  pattern : Option String
  deriving DecidableEq, Repr

/-- A configuration file, as it is written. -/
structure File where
  root : Option Bool
  fields : Option (List FieldEntry)
  deriving DecidableEq, Repr

namespace FieldEntry

/-- Adds what a key says to an entry. -/
def put? (e : FieldEntry) (key : String) (v : Toml.Value) : Option FieldEntry :=
  match key, v with
  | "label", .string s => some { e with label := s }
  | "token", .string s => some { e with token := some s }
  | "pattern", .string s => some { e with pattern := some s }
  | _, _ => none

/-- The entry without a label, a token and a pattern. -/
def empty : FieldEntry := ⟨"", none, none⟩

/-- The entry that a table makes. -/
def ofEntries? (entries : Toml.Entries) : Option FieldEntry :=
  entries.foldlM (fun e kv => e.put? kv.1 kv.2) empty

/-- The entry that a value makes: a table, or its three parts in order. -/
def ofValue? (v : Toml.Value) : Option FieldEntry :=
  match v with
  | .table _ entries => ofEntries? entries
  | .array (.string label :: .string token :: .string pattern :: _) =>
    some ⟨label, some token, some pattern⟩
  | _ => none

end FieldEntry

namespace File

/-- The list of fields that a value makes. -/
def fieldsOf? (v : Toml.Value) : Option (List FieldEntry) :=
  match v with
  | .array items => items.mapM FieldEntry.ofValue?
  | .rows rows => rows.mapM FieldEntry.ofEntries?
  | _ => none

/-- Adds what a key says to a file. -/
def put? (f : File) (key : String) (v : Toml.Value) : Option File :=
  match key, v with
  | "root", .boolean b => some { f with root := some b }
  | "root", _ => none
  | "field", v => (fieldsOf? v).map fun fields => { f with fields := some fields }
  | _, v => if v.fits then some f else none

/-- The file without any keys. -/
def empty : File := ⟨none, none⟩

/-- The file that a document makes. -/
def ofEntries? (entries : Toml.Entries) : Option File :=
  entries.foldlM (fun f kv => f.put? kv.1 kv.2) empty

/-- Reads a configuration file. -/
def read? (text : String) : Option File := (Toml.read? text).bind ofEntries?

/-- Whether the file declares itself the root. -/
def isRoot (f : File) : Bool := f.root = some true

end File

/-- A key with a string, as a line. -/
def writePair (key value : String) : String := key ++ " = " ++ Toml.writeString value ++ "\n"

/-- An entry of the list of fields, under its header. -/
def FieldEntry.write (e : FieldEntry) : String :=
  "[[field]]\n" ++ writePair "label" e.label ++
    ((e.token.map (writePair "token")).getD "") ++ ((e.pattern.map (writePair "pattern")).getD "")

/-- A list of fields as a configuration file. -/
def writeFields (es : List FieldEntry) : String :=
  if es.isEmpty then "field = []\n" else "\n".intercalate (es.map FieldEntry.write)

end SearchQuery.Config
