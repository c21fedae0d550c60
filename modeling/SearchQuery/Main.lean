import SearchQuery.CommandLine.Run

/-!
# The program

The outer layer: it looks at the configuration files around the current directory, runs the
command on what it saw, prints what the command answers, and writes the file that it leaves behind.
-/

namespace SearchQuery.CommandLine

/-- What is printed when a command line cannot be run. -/
def usage : String := unlines [
  "Parse and inspect search queries",
  "",
  "Usage: sift [-v] <COMMAND>",
  "",
  "Commands:",
  "  parse [-f LABEL=PATTERN] [--no-config] [--tree | --shape] <QUERY>",
  "  tokens [-f LABEL=PATTERN] [--no-config] <QUERY>",
  "  init [--force]",
  "  config",
  "  help [COMMAND]"]

/-- What is said of a command line that cannot be run. -/
def UsageError.message : UsageError → String
  | help | noArguments => usage
  | missingSubcommand => "error: a subcommand is required\n\n" ++ usage
  | unknownSubcommand => "error: unrecognized subcommand\n\n" ++ usage
  | unknownArgument => "error: unexpected argument\n\n" ++ usage
  | missingArgument => "error: a required argument was not provided\n\n" ++ usage
  | conflict => "error: an argument cannot be used twice or with another\n\n" ++ usage
  | badField text =>
    "error: invalid field: " ++ ((badField text).cause?.getD "") ++ "\n\n" ++ usage
  | missingValue => "error: a value is required\n\n" ++ usage
  | unwantedValue => "error: unexpected value\n\n" ++ usage

/-- The place that the components of a path lead to from the top. -/
def placeOf (path : Path) : Place := path.components.2.map String.ofList

/-- A tree with a directory at a path and at all its ancestors. -/
def withDirectories (t : FileTree) (path : Path) : FileTree :=
  path.ancestors.foldl (fun t p => t.insert (placeOf p) .directory) t

/-- What stands at the path of a configuration file; what cannot be read counts as a directory if
it exists. -/
def lookAt (path : Path) : IO (Option Entry) := do
  try
    return some (.file (.ofBytes (← IO.FS.readBinFile path.text)))
  catch
    | .noFileOrDirectory .. => return none
    | _ => return some .directory

/-- The configuration files that a command run in a directory can see. -/
def snapshot (home cwd : Path) : IO FileTree := do
  let mut t : FileTree := withDirectories (withDirectories ⟨[], placeOf cwd⟩ home) cwd
  for dir in home :: cwd.ancestors do
    let path := dir.child Config.fileName
    if let some e ← lookAt path then
      t := t.insert (placeOf path) e
  return t

/-- The current directory, unless it is gone. -/
def currentDirectory : IO (Option Path) := do
  try
    return some ⟨(← IO.currentDir).toString⟩
  catch _ => return none

/-- Writes the file that a command leaves behind at a path, if it has changed the file. -/
def writeChanges (before after : FileTree) (path : Path) : IO Unit :=
  match before.readText path, after.readText path with
  | .ok s, .ok s' => if s = s' then pure () else IO.FS.writeFile path.text s'
  | .error _, .ok s' => IO.FS.writeFile path.text s'
  | _, .error _ => pure ()

/-- Prints what is seen of a run. -/
def report (stdout stderr : String) (code : Nat) : IO UInt32 := do
  IO.print stdout
  IO.eprint stderr
  return UInt32.ofNat code

/-- Runs a command and does what it asks for. -/
def execute (c : Command) : IO UInt32 := do
  let cwd ← currentDirectory
  let home : Path := ⟨(← IO.getEnv "HOME").getD "/"⟩
  let tree ← snapshot home (cwd.getD home)
  match Environment.outcome ⟨tree, home, cwd⟩ c with
  | none => report "" "error: the query has no end\n" 1
  | some out =>
    let path := (cwd.getD home).child Config.fileName
    try
      writeChanges tree out.tree path
      report out.stdout out.stderr out.code
    catch e =>
      report "" ("error: failed to write " ++ path.text ++ ": " ++ toString e ++ "\n") 1

end SearchQuery.CommandLine

open SearchQuery.CommandLine in
/-- Reads the command line and runs it. -/
def main (args : List String) : IO UInt32 :=
  match read args with
  | .error .help => report usage "" 0
  | .error e => report "" e.message e.code
  | .ok call => execute call.command
