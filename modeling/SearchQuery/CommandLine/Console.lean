import SearchQuery.CommandLine.Run

/-!
# Commands that print as they go

A command as a script of small effects: it prints a line, complains, writes a file, or stops with an
exit code, and whatever it has printed by then stays printed. Its parts stand in the order in which
they are carried out. `Environment.play` carries a command out; that it comes to what
`Environment.outcome` says is a theorem.

Log lines are not part of a script.
-/

namespace SearchQuery.CommandLine

/-- What has been printed so far, and the files. -/
structure Console where
  stdout : String
  stderr : String
  tree : FileTree

/-- A part of a command. It works on a console, may stop the command with an exit code, and has no
answer if it has no end. -/
abbrev Script := ExceptT Nat (StateT Console Option)

namespace Script

variable {α : Type}

/-- Carries out a script. -/
def play (x : Script α) (k : Console) : Option (Except Nat α × Console) := x.run.run k

/-- Prints a text. -/
def write (text : String) : Script Unit := modify fun k => { k with stdout := k.stdout ++ text }

/-- Prints a line. -/
def say (line : String) : Script Unit := write (line ++ "\n")

/-- Prints lines one after the other. -/
def sayAll (lines : List String) : Script Unit := lines.forM say

/-- Prints a line on the error stream. -/
def complain (line : String) : Script Unit :=
  modify fun k => { k with stderr := k.stderr ++ (line ++ "\n") }

/-- Reports a failure and stops. -/
def fail (e : Failure) : Script α := do
  complain e.message
  throw 1

/-- Goes on with a result, if there is one. -/
def orFail : Except Failure α → Script α
  | .ok a => pure a
  | .error e => fail e

/-- Waits for an answer, which may never come. -/
def await (answer : Option α) : Script α := liftM (m := Option) answer

end Script

open Script

/-- Adds the rules of fields given on the command line to a scanner, after those it has. -/
def addFields (s : Scanner) : List FieldArg → Script Scanner
  | [] => pure s
  | f :: fs => do addFields (s.register (← orFail f.rule)) fs

/-- Prints the tree of a query. -/
def parseScript (config : Config) (query : String) (fields : FieldArgs) (view : View) :
    Script Unit := do
  let s ← addFields config.scanner fields.fields
  match (← await ((Parser.ofScanner s).parseText query)).1 with
  | .ok n => write (view.render n)
  | .error (.malformed e) => fail (.syntaxError e)
  | .error .notReady => await none

/-- Prints the tokens of a query, and the one at its end. -/
def tokensScript (config : Config) (query : String) (fields : FieldArgs) : Script Unit := do
  let s ← addFields config.scanner fields.fields
  let (ts, s) ← await (s.tokenize query)
  sayAll (ts.map Token.line)
  say s.last.line

/-- Writes a configuration file to start from. -/
def initScript (cwd : Path) (force : Bool) : Script Unit := do
  let path := cwd.child Config.fileName
  let tree := (← get).tree
  if tree.exists? path && !force then fail (.fileExists path)
  match tree.writeText path Config.template with
  | .error e => fail (.unwritable path e)
  | .ok tree =>
    modify fun k => { k with tree := tree }
    say ("Created " ++ path.text)

/-- Prints a configuration. -/
def configScript (c : Config) : Script Unit := do
  if c.sources.isEmpty then say "# no config files found"
  sayAll (c.sources.map ("# " ++ ·.text))
  if c.fields.isEmpty then say "# no field patterns configured"
  else
    say "#"
    sayAll (c.fields.map originLine)
    say ""
    write c.toToml

/-- What a command does once its context is known. -/
def commandScript (cwd : Path) (config : Config) : Command → Script Unit
  | .parse query fields view => parseScript config query fields view
  | .tokens query fields => tokensScript config query fields
  | .init force => initScript cwd force
  | .config => configScript config

namespace Environment

/-- Finds out the current directory and the configuration that a command uses. -/
def contextScript (env : Environment) (c : Command) : Script (Path × Config) :=
  match env.cwd with
  | none => fail .noDirectory
  | some cwd => do
    if c.needsConfig then
      let config ← orFail ((Config.load (← get).tree env.home cwd).mapError .config)
      return (cwd, config)
    else return (cwd, .empty)

/-- A command from its beginning to its end. -/
def script (env : Environment) (c : Command) : Script Unit := do
  let (cwd, config) ← env.contextScript c
  commandScript cwd config c

/-- Carries out a command, with nothing printed before it. -/
def play (env : Environment) (c : Command) : Option Outcome :=
  ((env.script c).play ⟨"", "", env.tree⟩).map fun
    | (.ok (), k) => ⟨0, k.stdout, k.stderr, k.tree⟩
    | (.error code, k) => ⟨code, k.stdout, k.stderr, k.tree⟩

end Environment

end SearchQuery.CommandLine
