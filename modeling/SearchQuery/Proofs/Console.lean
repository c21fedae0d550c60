import SearchQuery.CommandLine.Console
import SearchQuery.Proofs.CleanRuns

/-!
# What commands print, and when

A command prints as it goes, so it is not plain that one which fails has printed nothing before. The
lemmas of this module follow each command from its first effect to its last, on a console on which
anything may stand.

* `Console.after` is what a result leaves on a console: a success adds its output and leaves its files,
  a failure adds its message to the error stream and nothing else.
* `play_parseScript`, `play_tokensScript`, `play_initScript` and `play_configScript`: this is all that
  a command leaves. In particular nothing has been printed before a failure (`play_script_error`).
* `Environment.play_eq_outcome`: so a command that is carried out step by step comes to what
  `Environment.outcome` says, and is clean when it ends (`Environment.tidy_of_play`).
-/

namespace SearchQuery.CommandLine

theorem unlines_nil : unlines [] = "" := rfl

theorem unlines_cons (line : String) (lines : List String) :
    unlines (line :: lines) = line ++ "\n" ++ unlines lines := String.join_cons

theorem unlines_append (ls ls' : List String) : unlines (ls ++ ls') = unlines ls ++ unlines ls' := by
  rw [unlines, List.map_append, String.join_append]
  rfl

/-- What a result leaves on a console, and how the command ends. -/
def Console.after (k : Console) : Except Failure Success → Except Nat Unit × Console
  | .ok s => (.ok (), { k with stdout := k.stdout ++ s.output, tree := s.tree })
  | .error e => (.error 1, { k with stderr := k.stderr ++ (e.message ++ "\n") })

/-! ## Effects -/

namespace Script

variable {α β : Type} {x : Script α} {k k' : Console}

theorem play_bind (x : Script α) (f : α → Script β) (k : Console) :
    play (x >>= f) k = (play x k).bind fun
      | (.ok a, k) => play (f a) k
      | (.error code, k) => some (.error code, k) := by
  change (x >>= f).run.run k = _
  rw [ExceptT.run_bind, StateT.run_bind]
  change Option.bind _ _ = Option.bind _ _
  congr 1
  funext ⟨r, k⟩
  cases r <;> rfl

/-- After a part that comes to an end, the next one goes on with what has been printed. -/
theorem play_bind_ok {a : α} (h : play x k = some (.ok a, k')) (f : α → Script β) :
    play (x >>= f) k = play (f a) k' := by
  rw [play_bind, h]
  rfl

theorem play_bind_none (h : play x k = none) (f : α → Script β) : play (x >>= f) k = none := by
  rw [play_bind, h]
  rfl

theorem play_bind_error {code : Nat} (h : play x k = some (.error code, k')) (f : α → Script β) :
    play (x >>= f) k = some (.error code, k') := by
  rw [play_bind, h]
  rfl

theorem play_get (k : Console) : play (get : Script Console) k = some (.ok k, k) := rfl

theorem play_orFail_ok (a : α) (k : Console) : play (orFail (.ok a)) k = some (.ok a, k) := rfl

theorem play_write (text : String) (k : Console) :
    play (write text) k = some (.ok (), { k with stdout := k.stdout ++ text }) := rfl

theorem play_say (line : String) (k : Console) :
    play (say line) k = some (.ok (), { k with stdout := k.stdout ++ (line ++ "\n") }) := rfl

theorem play_await (answer : Option α) (k : Console) :
    play (await answer) k = answer.map fun a => (.ok a, k) := by
  cases answer <;> rfl

theorem play_sayAll (lines : List String) (k : Console) :
    play (sayAll lines) k = some (.ok (), { k with stdout := k.stdout ++ unlines lines }) := by
  induction lines generalizing k with
  | nil =>
    rw [unlines_nil, String.append_empty]
    rfl
  | cons line lines ih =>
    have hsay : sayAll (line :: lines) = say line >>= fun _ => sayAll lines := rfl
    rw [hsay, play_bind_ok (play_say line k), ih, unlines_cons, String.append_assoc]

theorem orFail_bind (x : Except Failure α) (f : α → Except Failure β) :
    orFail (x >>= f) = orFail x >>= fun a => orFail (f a) := by
  cases x with
  | ok a => exact (pure_bind a fun a => orFail (f a)).symm
  | error e => rfl

end Script

open Script

/-- Fields are registered one at a time, and the first that is refused is reported. -/
theorem addFields_eq (s : Scanner) (fs : List FieldArg) :
    addFields s fs = orFail (registerFields s fs) := by
  induction fs generalizing s with
  | nil => rfl
  | cons f fs ih =>
    rw [addFields, registerFields, orFail_bind]
    congr 1
    funext r
    exact ih _

/-! ## The commands -/

section Commands

variable {env : Environment} {k : Console}

theorem play_parseScript (hk : k.tree = env.tree) (cwd : Path) (config : Config) (query : String)
    (fields : FieldArgs) (view : View) :
    play (parseScript config query fields view) k =
      (env.runIn cwd config (.parse query fields view)).map k.after := by
  rw [parseScript, addFields_eq, Environment.runIn, scannerFor]
  cases hs : registerFields config.scanner fields.fields with
  | error e => rfl
  | ok s =>
    rw [play_bind_ok (play_orFail_ok s k)]
    dsimp only
    unfold showTree
    cases hanswer : (Parser.ofScanner s).parseText query with
    | none => exact play_bind_none (by rw [play_await, Option.map_none]) _
    | some answer =>
      obtain ⟨result, p⟩ := answer
      rw [play_bind_ok (play_await ..), ← hk]
      cases result with
      | ok n => rfl
      | error e => cases e <;> rfl

theorem play_tokensScript (hk : k.tree = env.tree) (cwd : Path) (config : Config) (query : String)
    (fields : FieldArgs) :
    play (tokensScript config query fields) k =
      (env.runIn cwd config (.tokens query fields)).map k.after := by
  rw [tokensScript, addFields_eq, Environment.runIn, scannerFor]
  cases hs : registerFields config.scanner fields.fields with
  | error e => rfl
  | ok s =>
    rw [play_bind_ok (play_orFail_ok s k)]
    dsimp only
    unfold showTokens
    cases htokens : s.tokenize query with
    | none => exact play_bind_none (by rw [play_await, Option.map_none]) _
    | some found =>
      obtain ⟨ts, s'⟩ := found
      rw [play_bind_ok (play_await ..), ← hk]
      dsimp only
      rw [play_bind_ok (play_sayAll ..), play_say]
      simp [unlines, Console.after, String.append_assoc]

theorem play_initScript (hk : k.tree = env.tree) (cwd : Path) (config : Config) (force : Bool) :
    play (initScript cwd force) k = (env.runIn cwd config (.init force)).map k.after := by
  rw [initScript, play_bind_ok (play_get k), Environment.runIn, initialise, hk]
  dsimp only
  split
  · rfl
  · cases env.tree.writeText (cwd.child Config.fileName) Config.template with
    | error e => rfl
    | ok t => rfl

/-- The context of a command is found out without a trace, unless it cannot be. -/
theorem play_contextScript (hk : k.tree = env.tree) (c : Command) :
    play (env.contextScript c) k = some
      (match env.context c with
      | .ok found => (.ok found, k)
      | .error e => (.error 1, { k with stderr := k.stderr ++ (e.message ++ "\n") })) := by
  rw [Environment.contextScript, Environment.context]
  cases env.cwd with
  | none => rfl
  | some cwd =>
    dsimp only
    split
    · rw [play_bind_ok (play_get k), ← hk]
      cases Config.load k.tree env.home cwd <;> rfl
    · rfl

/-- The comments on the files of a configuration are printed first. -/
theorem play_sources (c : Config) (next : Script Unit) (k : Console) :
    play (do
      if c.sources.isEmpty then say "# no config files found"
      sayAll (c.sources.map ("# " ++ ·.text))
      next) k = play next { k with stdout := k.stdout ++ unlines (sourceLines c) } := by
  rw [sourceLines]
  cases hsources : c.sources with
  | nil =>
    simp only [List.isEmpty_nil, if_true, List.map_nil]
    rw [play_bind_ok (play_say ..), play_bind_ok (play_sayAll ..)]
    simp [unlines_nil, unlines_cons]
  | cons path paths =>
    simp only [List.isEmpty_cons, Bool.false_eq_true, if_false]
    rw [play_bind_ok (play_sayAll ..)]

theorem play_configScript (hk : k.tree = env.tree) (cwd : Path) (c : Config) :
    play (configScript c) k = (env.runIn cwd c .config).map k.after := by
  rw [configScript, play_sources, Environment.runIn, ← hk, showConfig]
  cases c.fields with
  | nil =>
    simp only [List.isEmpty_nil, if_true]
    rw [play_say, unlines_append, unlines_cons, unlines_nil]
    simp [Console.after, String.append_assoc]
  | cons f fs =>
    simp only [List.isEmpty_cons, Bool.false_eq_true, if_false]
    rw [play_bind_ok (play_say ..), play_bind_ok (play_sayAll ..), play_bind_ok (play_say ..), play_write]
    simp [Console.after, unlines_append, unlines_cons, unlines_nil, String.append_assoc]

/-- Each command, once its context is known. -/
theorem play_commandScript (hk : k.tree = env.tree) (cwd : Path) (config : Config) (c : Command) :
    play (commandScript cwd config c) k = (env.runIn cwd config c).map k.after := by
  cases c with
  | parse query fields view => exact play_parseScript hk ..
  | tokens query fields => exact play_tokensScript hk ..
  | init force => exact play_initScript hk ..
  | config => exact play_configScript hk ..

/-- **A command leaves its result on the console**, and nothing else. -/
theorem play_script (hk : k.tree = env.tree) (c : Command) :
    play (env.script c) k = (env.run c).map k.after := by
  have hcontext := play_contextScript hk c
  rw [Environment.script, Environment.run]
  cases h : env.context c with
  | error e => exact play_bind_error (by rw [hcontext, h]) _
  | ok found =>
    rw [play_bind_ok (by rw [hcontext, h])]
    exact play_commandScript hk ..

/-- **A command that fails has printed nothing but its message**, which is on the error stream, and has
left the files alone. -/
theorem play_script_error (hk : k.tree = env.tree) {c : Command} {code : Nat} {k' : Console}
    (h : play (env.script c) k = some (.error code, k')) :
    code = 1 ∧ ∃ e, env.run c = some (.error e) ∧
      k' = { k with stderr := k.stderr ++ (e.message ++ "\n") } := by
  rw [play_script hk] at h
  obtain ⟨result, hrun, hafter⟩ := Option.map_eq_some_iff.mp h
  cases result with
  | ok s => cases hafter
  | error e =>
    obtain ⟨hcode, rfl⟩ := Prod.mk.inj hafter
    exact ⟨(Except.error.inj hcode).symm, e, hrun, rfl⟩

end Commands

namespace Environment

/-- **Carried out step by step, a command comes to its outcome.** -/
theorem play_eq_outcome (env : Environment) (c : Command) : env.play c = env.outcome c := by
  rw [play, play_script rfl, outcome, Option.map_map]
  congr 1
  funext result
  cases result <;> simp [Console.after, Outcome.ofResult]

/-- **A command that prints as it goes is clean when it ends.** That a failure comes with an empty
output is here a fact about the order of its parts, and not about the form of a result. -/
theorem tidy_of_play {env : Environment} {c : Command} {out : Outcome} (h : env.play c = some out) :
    env.Tidy c out := by
  rw [play_eq_outcome] at h
  exact tidy_of_outcome h

/-- It has no end just if its query brings the scanner to a point where it stands still. -/
theorem play_eq_none_iff {env : Environment} {c : Command} : env.play c = none ↔ env.Endless c := by
  rw [play_eq_outcome]
  exact outcome_eq_none_iff

end Environment

end SearchQuery.CommandLine
