/-!
# Command lines

The arguments of the program are options and one subcommand with options of its own. They are read
from left to right, and the first that cannot be read decides the error.

An option that takes a value is checked only when the argument after its value is taken up, so that
an unknown argument behind a bad value is reported before the value.
-/

namespace SearchQuery.CommandLine

/-- A field given on the command line: a label and the pattern of a token. -/
structure FieldArg where
  label : String
  token : String
  deriving DecidableEq, Repr

namespace FieldArg

/-- Cuts a text at the first equals sign. -/
def cutAtEquals (cs : List Char) : Option (List Char × List Char) :=
  match cs.dropWhile (· ≠ '=') with
  | [] => none
  | _ :: token => some (cs.takeWhile (· ≠ '='), token)

/-- Reads `LABEL=TOKEN`; neither part may be empty. -/
def read? (text : String) : Option FieldArg :=
  match cutAtEquals text.toList with
  | some (l :: ls, t :: ts) => some ⟨String.ofList (l :: ls), String.ofList (t :: ts)⟩
  | _ => none

end FieldArg

/-- How a tree is printed. -/
inductive View where
  | query
  | outline
  | shape
  deriving DecidableEq, Repr

/-- Which fields a query may use: those given, and those of configuration files if they are not
to be ignored. -/
structure FieldArgs where
  fields : List FieldArg
  noConfig : Bool
  deriving DecidableEq, Repr

/-- What the program is asked to do. -/
inductive Command where
  /-- Print the tree of a query. -/
  | parse (query : String) (fields : FieldArgs) (view : View)
  /-- List the tokens of a query. -/
  | tokens (query : String) (fields : FieldArgs)
  /-- Write a configuration file to start from. -/
  | init (force : Bool)
  /-- Print the configuration. -/
  | config
  deriving DecidableEq, Repr

/-- Whether a command reads configuration files. -/
def Command.needsConfig : Command → Bool
  | parse _ fields _ => !fields.noConfig
  | tokens _ fields => !fields.noConfig
  | init _ => false
  | config => true

/-- A command line that could be read. -/
structure Invocation where
  /-- How often more output was asked for. It is for the log, which has no place in what a command
  leaves behind (`Outcome`): nothing else depends on it. -/
  verbose : Nat
  command : Command
  deriving DecidableEq, Repr

/-- Why a command line is not run. -/
inductive UsageError where
  /-- Help was asked for. -/
  | help
  | noArguments
  | missingSubcommand
  | unknownSubcommand
  | unknownArgument
  | missingArgument
  | conflict
  /-- The value of a field option has not the form it must have. -/
  | badField (text : String)
  | missingValue
  /-- A value was given to an option that takes none. -/
  | unwantedValue
  deriving DecidableEq, Repr

namespace UsageError

/-- The exit code: asking for help is no error. -/
def code : UsageError → Nat
  | help => 0
  | _ => 2

/-- What is wrong with a value, if the error lies there. -/
def cause? : UsageError → Option String
  | badField text => some ("expected LABEL=PATTERN, got '" ++ text ++ "'")
  | _ => none

end UsageError

/-! ## Words and options -/

/-- What an argument looks like. -/
inductive Word where
  /-- Two dashes, which end the options. -/
  | finish
  | long (name : String) (value : Option String)
  | short (letters : List Char)
  | plain (text : String)
  deriving DecidableEq, Repr

/-- What an argument looks like. A single dash is a plain word. -/
def Word.ofArg (arg : String) : Word :=
  match arg.toList with
  | ['-', '-'] => .finish
  | '-' :: '-' :: cs =>
    match FieldArg.cutAtEquals cs with
    | some (name, value) => .long (String.ofList name) (some (String.ofList value))
    | none => .long (String.ofList cs) none
  | '-' :: c :: cs => .short (c :: cs)
  | _ => .plain arg

/-- The subcommands that do something. -/
inductive Subcommand where
  | parse
  | tokens
  | init
  | config
  deriving DecidableEq, Repr

/-- The options that are set or not. -/
inductive Flag where
  | noConfig
  | tree
  | shape
  | force
  deriving DecidableEq, Repr

/-- The options. -/
inductive Switch where
  | help
  | verbose
  | field
  | flag (f : Flag)
  deriving DecidableEq, Repr

namespace Subcommand

/-- The subcommand of a name. -/
def named? : String → Option Subcommand
  | "parse" => some parse
  | "tokens" => some tokens
  | "init" => some init
  | "config" => some config
  | _ => none

/-- Whether the subcommand is about a query. -/
def hasQuery : Subcommand → Bool
  | parse | tokens => true
  | init | config => false

/-- The flags of the subcommand. -/
def flags : Subcommand → List Flag
  | parse => [.noConfig, .tree, .shape]
  | tokens => [.noConfig]
  | init => [.force]
  | config => []

end Subcommand

/-- The options before a subcommand, or those of one. -/
def switches : Option Subcommand → List Switch
  | none => [.help, .verbose]
  | some sub =>
    [.help, .verbose] ++ (if sub.hasQuery then [.field] else []) ++ sub.flags.map .flag

namespace Switch

/-- The long name of an option. -/
def name : Switch → String
  | help => "help"
  | verbose => "verbose"
  | field => "field"
  | flag .noConfig => "no-config"
  | flag .tree => "tree"
  | flag .shape => "shape"
  | flag .force => "force"

/-- The letter of an option, if it has one. -/
def letter? : Switch → Option Char
  | help => some 'h'
  | verbose => some 'v'
  | field => some 'f'
  | flag _ => none

end Switch

/-- The option of a long name. -/
def switchNamed? (sub : Option Subcommand) (name : String) : Option Switch :=
  (switches sub).find? (·.name == name)

/-- The option of a letter. -/
def switchLettered? (sub : Option Subcommand) (c : Char) : Option Switch :=
  (switches sub).find? (·.letter? == some c)

/-! ## Reading from left to right -/

/-- What has been read so far. -/
structure Progress where
  verbose : Nat
  flags : List Flag
  fields : List FieldArg
  query : Option String
  /-- A field option that is still to be checked, with its value once there is one. -/
  pending : Option (Option String)
  /-- Whether the options have ended. -/
  trailing : Bool
  deriving DecidableEq, Repr

namespace Progress

/-- Nothing has been read. -/
def empty : Progress := ⟨0, [], [], none, none, false⟩

/-- More than this many requests for more output count as this many. -/
def maxVerbose : Nat := 255

/-- Adds a field that is written as a text. -/
def addField (p : Progress) (text : String) : Except UsageError Progress :=
  match FieldArg.read? text with
  | some f => .ok { p with fields := p.fields ++ [f] }
  | none => .error (.badField text)

/-- Checks the field option that is still to be checked. -/
def settle (p : Progress) : Except UsageError Progress :=
  match p.pending with
  | none => .ok p
  | some none => .error .missingValue
  | some (some text) => { p with pending := none }.addField text

/-- Takes up an option without a value attached to it. -/
def takeSwitch (p : Progress) (o : Switch) : Except UsageError Progress := do
  let p ← p.settle
  match o with
  | .help => throw .help
  | .verbose => return { p with verbose := min maxVerbose (p.verbose + 1) }
  | .field => return { p with pending := some none }
  | .flag f => if p.flags.contains f then throw .conflict else return { p with flags := f :: p.flags }

/-- Takes up a field option with its value attached to it. -/
def takeField (p : Progress) (text : String) : Except UsageError Progress := do
  (← p.settle).addField text

/-- Takes up an option that is written with its name. -/
def takeLong (sub : Option Subcommand) (p : Progress) (name : String) (value : Option String) :
    Except UsageError Progress :=
  match switchNamed? sub name, value with
  | none, _ => .error .unknownArgument
  | some o, none => p.takeSwitch o
  | some .field, some text => p.takeField text
  | some _, some _ => .error .unwantedValue

/-- Takes up options that are written as letters. What follows the letter of a field option is its
value; an equals sign between them is left out. -/
def takeShort (sub : Option Subcommand) (p : Progress) : List Char → Except UsageError Progress
  | [] => .ok p
  | c :: cs =>
    match switchLettered? sub c, cs with
    | none, _ => .error .unknownArgument
    | some .field, '=' :: text => p.takeField (String.ofList text)
    | some .field, c :: text => p.takeField (String.ofList (c :: text))
    | some o, cs => do takeShort sub (← p.takeSwitch o) cs

/-- Takes up a plain word: the value that a field option waits for, or else the query. Only one
query may be given. -/
def takePlain (sub : Subcommand) (p : Progress) (text : String) : Except UsageError Progress :=
  if p.pending = some none && !p.trailing then .ok { p with pending := some (some text) }
  else if sub.hasQuery && p.query.isNone then do return { (← p.settle) with query := some text }
  else .error .unknownArgument

/-- Takes up an argument of a subcommand. -/
def take (sub : Subcommand) (p : Progress) (arg : String) : Except UsageError Progress :=
  if p.trailing then p.takePlain sub arg
  else
    match Word.ofArg arg with
    | .finish => .ok { p with trailing := true }
    | .long name value => p.takeLong (some sub) name value
    | .short letters => p.takeShort (some sub) letters
    | .plain text => p.takePlain sub text

/-- How the tree is to be printed. -/
def view (p : Progress) : View :=
  if p.flags.contains .tree then .outline
  else if p.flags.contains .shape then .shape
  else .query

/-- Which fields the query may use. -/
def fieldArgs (p : Progress) : FieldArgs := ⟨p.fields, p.flags.contains .noConfig⟩

/-- The command that has been read, at the end of the arguments. -/
def command (sub : Subcommand) (p : Progress) : Except UsageError Command := do
  let p ← p.settle
  if p.flags.contains .tree && p.flags.contains .shape then throw .conflict
  match sub, p.query with
  | .parse, some query => return .parse query p.fieldArgs p.view
  | .tokens, some query => return .tokens query p.fieldArgs
  | .init, _ => return .init (p.flags.contains .force)
  | .config, _ => return .config
  | _, none => throw .missingArgument

end Progress

/-- The subcommand that gives help. -/
def helpName : String := "help"

/-- Whether a word names a subcommand. -/
def isSubcommandName (text : String) : Bool :=
  text = helpName || (Subcommand.named? text).isSome

/-- The answer to a request for help on what words name: at most one subcommand. -/
def helpOn : List String → UsageError
  | [] => .help
  | [text] => if isSubcommandName text then .help else .unknownSubcommand
  | _ => .unknownSubcommand

/-- Reads the arguments of a subcommand, after `verbose` requests for more output before it. -/
def readSubcommand (verbose : Nat) (sub : Subcommand) (args : List String) :
    Except UsageError Invocation := do
  let p ← args.foldlM (Progress.take sub) .empty
  return ⟨if p.verbose = 0 then verbose else p.verbose, ← p.command sub⟩

/-- Reads arguments up to the subcommand, and hands the rest over to it. -/
def readFrom (p : Progress) : List String → Except UsageError Invocation
  | [] => .error (if p.verbose = 0 then .noArguments else .missingSubcommand)
  | arg :: args =>
    if p.trailing then
      .error (if isSubcommandName arg then .unknownArgument else .unknownSubcommand)
    else if arg = helpName then .error (helpOn args)
    else
      match Subcommand.named? arg, Word.ofArg arg with
      | some sub, _ => readSubcommand p.verbose sub args
      | none, .finish => readFrom { p with trailing := true } args
      | none, .long name value => do readFrom (← p.takeLong none name value) args
      | none, .short letters => do readFrom (← p.takeShort none letters) args
      | none, .plain _ => .error .unknownSubcommand

/-- Reads a command line. -/
def read (args : List String) : Except UsageError Invocation := readFrom .empty args

end SearchQuery.CommandLine
