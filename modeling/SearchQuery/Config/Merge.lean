import SearchQuery.Config.File
import SearchQuery.FileTree
import SearchQuery.Parser

/-!
# Merging configuration files

Files are merged in order of precedence, the closest first. A label that a closer file defines
hides the same label further out; within one file it may be defined once only. Every field that
counts is checked and its pattern is read.
-/

namespace SearchQuery

namespace Config

/-- What can be wrong with an entry of the list of fields. -/
inductive EntryProblem where
  | blankLabel
  | builtinLabel
  | repeatedLabel
  | bothPatterns
  | noPattern
  deriving DecidableEq, Repr

/-- The wording of a problem with an entry. -/
def EntryProblem.message : EntryProblem → String
  | blankLabel => "label must not be empty"
  | builtinLabel => "label is a built-in token kind"
  | repeatedLabel => "label is defined twice"
  | bothPatterns => "set only one of 'token' or 'pattern'"
  | noPattern => "one of 'token' or 'pattern' is required"

/-- Why a label cannot name a field, if it cannot. -/
def labelProblem? (label : String) : Option EntryProblem :=
  if label.toList.all Text.isWhiteSpace then some .blankLabel
  else if (Kind.builtin? label).isSome then some .builtinLabel
  else none

/-- The pattern of a field, as it is written. -/
inductive Source where
  /-- The token alone. -/
  | token (text : String)
  /-- Two groups, the token and the rest. -/
  | pattern (text : String)
  deriving DecidableEq, Repr

/-- A field that has been checked. -/
structure Field where
  label : String
  source : Source
  /-- The file that defines the field. -/
  path : Path
  isGlobal : Bool
  rule : Rule
  deriving DecidableEq, Repr

/-- Why there is no configuration. -/
inductive Error where
  | unreadable (path : Path) (e : FileError)
  | notToml (path : Path)
  | badEntry (path : Path) (label : String) (p : EntryProblem)
  | badRule (path : Path) (e : RuleError)
  deriving DecidableEq, Repr

/-- The wording of an error. -/
def Error.message : Error → String
  | unreadable path e => "failed to read config file " ++ path.text ++ ": " ++ e.message
  | notToml path => "failed to parse config file " ++ path.text ++ ": ..."
  | badEntry path label p =>
    "invalid field '" ++ label ++ "' in " ++ path.text ++ ": " ++ p.message
  | badRule path e => "invalid field pattern in " ++ path.text ++ ": " ++ e.message

/-- The rule that a pattern makes for a label. -/
def Source.rule (label : String) : Source → Except RuleError Rule
  | token text => Rule.ofToken (.field label) text
  | pattern text => Rule.ofPattern (.field label) text

/-- The one pattern of an entry. -/
def FieldEntry.source (e : FieldEntry) : Except EntryProblem Source :=
  match e.token, e.pattern with
  | some t, none => .ok (.token t)
  | none, some p => .ok (.pattern p)
  | some _, some _ => .error .bothPatterns
  | none, none => .error .noPattern

/-- An entry with the pattern given. -/
def Field.entry (f : Field) : FieldEntry :=
  match f.source with
  | .token t => ⟨f.label, some t, none⟩
  | .pattern p => ⟨f.label, none, some p⟩

/-- Checks an entry of a file and reads its pattern. -/
def checkEntry (globalPath path : Path) (e : FieldEntry) : Except Error Field :=
  match labelProblem? e.label with
  | some p => .error (.badEntry path e.label p)
  | none =>
    match e.source with
    | .error p => .error (.badEntry path e.label p)
    | .ok source =>
      match source.rule e.label with
      | .error err => .error (.badRule path err)
      | .ok rule => .ok ⟨e.label, source, path, path.sameAs globalPath, rule⟩

/-- Merges the entries of one file, of which those with the labels `own` have been seen, into the
fields of closer files. -/
def mergeEntries (globalPath path : Path) :
    List FieldEntry → List String → List Field → Except Error (List Field)
  | [], _, fields => .ok fields
  | e :: es, own, fields =>
    if own.contains e.label then .error (.badEntry path e.label .repeatedLabel)
    else if fields.any (·.label == e.label) then
      mergeEntries globalPath path es (e.label :: own) fields
    else
      match checkEntry globalPath path e with
      | .error err => .error err
      | .ok f => mergeEntries globalPath path es (e.label :: own) (fields ++ [f])

/-- The fields of files in order of precedence. -/
def mergeFields (globalPath : Path) :
    List (Path × File) → List Field → Except Error (List Field)
  | [], fields => .ok fields
  | (path, file) :: files, fields =>
    match mergeEntries globalPath path (file.fields.getD []) [] fields with
    | .error err => .error err
    | .ok fields => mergeFields globalPath files fields

end Config

/-- A configuration: the fields in the order of their rules, and the files they come from. -/
structure Config where
  fields : List Config.Field
  sources : List Path
  deriving DecidableEq, Repr

namespace Config

/-- The configuration without any file. -/
def empty : Config := ⟨[], []⟩

/-- Merges files in order of precedence. -/
def merge (globalPath : Path) (files : List (Path × File)) : Except Error Config :=
  (mergeFields globalPath files []).map fun fields => ⟨fields, files.map (·.1)⟩

/-- The rules of the fields. -/
def rules (c : Config) : List Rule := c.fields.map (·.rule)

/-- Adds the rules of the fields to a scanner, after those it has. -/
def register (c : Config) (s : Scanner) : Scanner := c.rules.foldl Scanner.register s

/-- A scanner with the rules of the fields. -/
def scanner (c : Config) : Scanner := c.register .new

/-- The fields as a configuration file. -/
def toToml (c : Config) : String := writeFields (c.fields.map Field.entry)

end Config

end SearchQuery
