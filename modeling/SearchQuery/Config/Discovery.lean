import SearchQuery.Config.Merge

/-!
# Finding configuration files

The files that count for a directory are those in it and in the directories around it, the closest
first, up to one that declares itself the root. The global file in the home directory comes last,
unless a root was met or the file is among the others already.
-/

namespace SearchQuery.Config

/-- The name of a configuration file. -/
def fileName : String := ".sift.toml"

/-- The path of the global configuration file. -/
def globalPath (home : Path) : Path := home.child fileName

/-- Whether a path is that of the global configuration file. -/
def isGlobal (home path : Path) : Bool := path.sameAs (globalPath home)

/-- Whether a file can be read and declares itself the root. -/
def isRootFile (t : FileTree) (path : Path) : Bool :=
  match t.readText path with
  | .ok text => ((File.read? text).map File.isRoot).getD false
  | .error _ => false

/-- The configuration files in directories, up to the first that declares itself the root, and
whether there was one. -/
def filesUpToRoot (t : FileTree) : List Path → List Path × Bool
  | [] => ([], false)
  | dir :: dirs =>
    let path := dir.child fileName
    if t.isFile path then
      if isRootFile t path then ([path], true)
      else
        let (paths, root) := filesUpToRoot t dirs
        (path :: paths, root)
    else filesUpToRoot t dirs

/-- The configuration files for a directory in order of precedence. -/
def discover (t : FileTree) (home cwd : Path) : List Path :=
  let (paths, root) := filesUpToRoot t cwd.ancestors
  let glob := globalPath home
  if !root && t.isFile glob && !paths.any glob.sameAs then paths ++ [glob] else paths

/-- Reads one configuration file. -/
def readFile (t : FileTree) (path : Path) : Except Error (Path × File) :=
  match t.readText path with
  | .error e => .error (.unreadable path e)
  | .ok text =>
    match File.read? text with
    | none => .error (.notToml path)
    | some file => .ok (path, file)

/-- The configuration of files in order of precedence. -/
def loadFiles (t : FileTree) (home : Path) (paths : List Path) : Except Error Config := do
  merge (globalPath home) (← paths.mapM (readFile t))

/-- The configuration for a directory. -/
def load (t : FileTree) (home cwd : Path) : Except Error Config :=
  loadFiles t home (discover t home cwd)

end SearchQuery.Config
