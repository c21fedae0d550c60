import SearchQuery.CommandLine.Args
import SearchQuery.Config.Discovery
import SearchQuery.Config.Template
import SearchQuery.Node.Rendering

/-!
# Running commands

A command is run in an environment, the files it can see and the directory it is run in. It either
prints something and may leave other files behind, or it fails with a message and leaves
everything as it was.
-/

namespace SearchQuery.CommandLine

/-- What a command is run in. -/
structure Environment where
  tree : FileTree
  home : Path
  /-- The current directory, unless it is gone. -/
  cwd : Option Path

/-- Why a command fails. -/
inductive Failure where
  | noDirectory
  | config (e : Config.Error)
  | badLabel (label : String) (p : Config.EntryProblem)
  | badRule (e : RuleError)
  | syntaxError (e : SyntaxError)
  | fileExists (path : Path)
  | unwritable (path : Path) (e : FileError)
  deriving DecidableEq, Repr

/-- What a failure is reported as. -/
def Failure.message : Failure → String
  | noDirectory => "error: could not determine current directory: " ++ FileError.missing.message
  | config e => "error: " ++ e.message
  | badLabel label p => "error: invalid field '" ++ label ++ "': " ++ p.message
  | badRule e => "error: " ++ e.message
  | syntaxError e => e.display
  | fileExists path =>
    "error: configuration file already exists: " ++ path.text ++ "\nuse --force to overwrite"
  | unwritable path e => "error: failed to write " ++ path.text ++ ": " ++ e.message

/-! ## Fields -/

/-- The rule of a field given on the command line. -/
def FieldArg.rule (f : FieldArg) : Except Failure Rule :=
  match Config.labelProblem? f.label with
  | some p => .error (.badLabel f.label p)
  | none => (Rule.ofToken (.field f.label) f.token).mapError .badRule

/-- Adds the rules of fields given on the command line to a scanner, after those it has. -/
def registerFields (s : Scanner) : List FieldArg → Except Failure Scanner
  | [] => .ok s
  | f :: fs => do registerFields (s.register (← f.rule)) fs

/-- A scanner for the fields of a configuration and those given on the command line. -/
def scannerFor (c : Config) (fields : FieldArgs) : Except Failure Scanner :=
  registerFields c.scanner fields.fields

/-! ## What commands print -/

/-- Lines, each with a line break after it. -/
def unlines (lines : List String) : String := String.join (lines.map (· ++ "\n"))

/-- A tree in a view. -/
def View.render : View → Node → String
  | query, n => n.print ++ "\n"
  | outline, n => n.outline
  | shape, n => n.shape ++ "\n"

/-- The tree of a query. There is no answer if the query has no end. -/
def showTree (s : Scanner) (query : String) (view : View) : Option (Except Failure String) :=
  match (Parser.ofScanner s).parseText query with
  | some (.ok n, _) => some (.ok (view.render n))
  | some (.error (.malformed e), _) => some (.error (.syntaxError e))
  | some (.error .notReady, _) | none => none

/-- The tokens of a query, and the one at its end. There is no answer if the query has no end. -/
def showTokens (s : Scanner) (query : String) : Option String :=
  (s.tokenize query).map fun (ts, s) => unlines ((ts ++ [s.last]).map Token.line)

/-- Where a field comes from, as a comment. -/
def originLine (f : Config.Field) : String :=
  "# " ++ f.label ++ (if f.isGlobal then " (global) -> " else " (local) -> ") ++ f.path.text

/-- The files of a configuration, as comments. -/
def sourceLines (c : Config) : List String :=
  if c.sources.isEmpty then ["# no config files found"] else c.sources.map ("# " ++ ·.text)

/-- A configuration: where it comes from, as comments, and its fields. -/
def showConfig (c : Config) : String :=
  if c.fields.isEmpty then unlines (sourceLines c ++ ["# no field patterns configured"])
  else unlines (sourceLines c ++ "#" :: c.fields.map originLine ++ [""]) ++ c.toToml

/-! ## Running -/

/-- What a command that succeeds prints, and the files after it. -/
structure Success where
  output : String
  tree : FileTree

/-- Writes a configuration file to start from. A file that is there already is kept, unless it is
to be overwritten. -/
def initialise (t : FileTree) (cwd : Path) (force : Bool) : Except Failure Success :=
  let path := cwd.child Config.fileName
  if t.exists? path && !force then .error (.fileExists path)
  else
    match t.writeText path Config.template with
    | .error e => .error (.unwritable path e)
    | .ok t => .ok ⟨"Created " ++ path.text ++ "\n", t⟩

namespace Environment

/-- The configuration that a command uses, and the directory it is run in. -/
def context (env : Environment) (c : Command) : Except Failure (Path × Config) :=
  match env.cwd with
  | none => .error .noDirectory
  | some cwd =>
    if c.needsConfig then
      ((Config.load env.tree env.home cwd).mapError .config).map ((cwd, ·))
    else .ok (cwd, .empty)

/-- Runs a command in its context. There is no answer if the query has no end. -/
def runIn (env : Environment) (cwd : Path) (config : Config) :
    Command → Option (Except Failure Success)
  | .parse query fields view =>
    match scannerFor config fields with
    | .error e => some (.error e)
    | .ok s => (showTree s query view).map (·.map (⟨·, env.tree⟩))
  | .tokens query fields =>
    match scannerFor config fields with
    | .error e => some (.error e)
    | .ok s => (showTokens s query).map (.ok ⟨·, env.tree⟩)
  | .init force => some (initialise env.tree cwd force)
  | .config => some (.ok ⟨showConfig config, env.tree⟩)

/-- Runs a command. There is no answer if its query has no end. -/
def run (env : Environment) (c : Command) : Option (Except Failure Success) :=
  match env.context c with
  | .error e => some (.error e)
  | .ok (cwd, config) => env.runIn cwd config c

end Environment

/-- What is seen of a run: its exit code, what it prints, and the files after it. The log lines that
`-v` adds to the error stream are not part of it, so that `stderr` is what the command itself
complains of. -/
structure Outcome where
  code : Nat
  stdout : String
  stderr : String
  tree : FileTree

/-- What is seen of a result. A failure leaves the files as they were. -/
def Outcome.ofResult (t : FileTree) : Except Failure Success → Outcome
  | .ok s => ⟨0, s.output, "", s.tree⟩
  | .error e => ⟨1, "", e.message ++ "\n", t⟩

/-- What is seen of a command when it is run. -/
def Environment.outcome (env : Environment) (c : Command) : Option Outcome :=
  (env.run c).map (Outcome.ofResult env.tree)

end SearchQuery.CommandLine
