import SearchQuery.Proofs.PrintedConfig
import SearchQuery.Proofs.Reuse
import SearchQuery.Proofs.Termination
import SearchQuery.Proofs.Tiling

/-!
# Commands, run one after the other

A command that comes to an end either succeeds and says so on one stream, or fails and says so on the
other. Only `init` writes, and only the one file.

* `outcome_eq_none_iff`: a command has no end just if its query brings the scanner to a point where it
  stands still. This takes a field of a configuration file with two groups
  (`Environment.Endless.exists_pattern`).
* `outcome_cases`: all that a command can do. From it, `Tidy` is what every single run keeps to
  (`tidy_of_outcome`).
* `Environment.turns`: the runs of commands one after the other. What every run keeps, all of them keep
  (`forall_turns`): the files are those at the beginning, or differ from them in the one file only
  (`Environment.MayLeave`), which is kept if it is there (`tree_eq_of_turns`).
-/

namespace SearchQuery

/-! ## The rules of a command -/

namespace Rule

theorem kind_of_ofPattern {kind : Kind} {source : String} {r : Rule}
    (h : ofPattern kind source = .ok r) : r.kind = kind := by
  unfold ofPattern at h
  split at h
  · cases h
  · split at h
    · obtain rfl := Except.ok.inj h
      rfl
    · cases h

end Rule

namespace Config

theorem isField_of_rule {source : Source} {label : String} {r : Rule}
    (h : source.rule label = .ok r) : r.kind.isField = true := by
  cases source with
  | token text => exact Rule.IsTokenField.isField ⟨label, text, h⟩
  | pattern text =>
    rw [Rule.kind_of_ofPattern h]
    rfl

theorem fields_foldl_register (s : Scanner) (rs : List Rule) :
    (rs.foldl Scanner.register s).fields = s.fields ++ rs := by
  induction rs generalizing s with
  | nil => simp
  | cons r rs ih => simp [ih, Scanner.register]

theorem fields_scanner (c : Config) : c.scanner.fields = c.rules := by
  rw [scanner, register, fields_foldl_register]
  rfl

end Config

namespace CommandLine

open Config

theorem FieldArg.ofToken_of_rule {f : FieldArg} {r : Rule} (h : f.rule = .ok r) :
    Rule.ofToken (.field f.label) f.token = .ok r := by
  unfold FieldArg.rule at h
  split at h
  · cases h
  · cases hof : Rule.ofToken (.field f.label) f.token with
    | error e => simp [hof, Except.mapError] at h
    | ok r' => simpa [hof, Except.mapError] using h

/-- The rules of fields given on the command line, one for each, come after those of the scanner. -/
theorem registerFields_eq_ok {s s' : Scanner} {fs : List FieldArg}
    (h : registerFields s fs = .ok s') :
    ∃ rs, s'.fields = s.fields ++ rs ∧
      List.Forall₂ (fun f r => Rule.ofToken (.field f.label) f.token = .ok r) fs rs := by
  induction fs generalizing s with
  | nil =>
    obtain rfl := Except.ok.inj h
    exact ⟨[], by simp, .nil⟩
  | cons f fs ih =>
    unfold registerFields at h
    cases hrule : f.rule with
    | error e => simp [hrule, bind, Except.bind] at h
    | ok r =>
      simp only [hrule, bind, Except.bind] at h
      obtain ⟨rs, hfields, hrs⟩ := ih h
      exact ⟨r :: rs, by simp [hfields, Scanner.register], .cons (FieldArg.ofToken_of_rule hrule) hrs⟩

theorem isTokenField_of_mem {fs : List FieldArg} {rs : List Rule}
    (h : List.Forall₂ (fun f r => Rule.ofToken (.field f.label) f.token = .ok r) fs rs) :
    ∀ r ∈ rs, r.IsTokenField := by
  induction h with
  | nil => simp
  | cons hrule _ ih => exact List.forall_mem_cons.mpr ⟨⟨_, _, hrule⟩, ih⟩

/-- A rule of a command is that of a field of the configuration, or is made from a pattern for the
token alone. -/
theorem mem_fields_scannerFor {c : Config} {fields : FieldArgs} {s : Scanner}
    (h : scannerFor c fields = .ok s) {r : Rule} (hr : r ∈ s.fields) :
    (∃ f ∈ c.fields, f.rule = r) ∨ r.IsTokenField := by
  obtain ⟨rs, hfields, hrs⟩ := registerFields_eq_ok h
  rw [hfields, fields_scanner] at hr
  rcases List.mem_append.mp hr with hmem | hmem
  · exact .inl (List.mem_map.mp hmem)
  · exact .inr (isTokenField_of_mem hrs r hmem)

namespace Environment

variable {env : Environment} {c : Command} {out : Outcome} {cwd : Path} {config : Config}

theorem context_eq_ok (h : env.context c = .ok (cwd, config)) :
    env.cwd = some cwd ∧ (load env.tree env.home cwd = .ok config ∨ config = .empty) := by
  unfold context at h
  cases hcwd : env.cwd with
  | none => simp [hcwd] at h
  | some dir =>
    simp only [hcwd] at h
    split at h
    · cases hload : load env.tree env.home dir with
      | error e => simp [hload, Except.mapError, Except.map] at h
      | ok c' =>
        obtain ⟨rfl, rfl⟩ : dir = cwd ∧ c' = config := by
          simpa [hload, Except.mapError, Except.map] using h
        exact ⟨rfl, .inl hload⟩
    · obtain ⟨rfl, rfl⟩ := Prod.mk.inj (Except.ok.inj h)
      exact ⟨rfl, .inr rfl⟩

/-- The pattern of every field in the context of a command makes its rule. -/
theorem rule_of_context (h : env.context c = .ok (cwd, config)) {f : Field} (hf : f ∈ config.fields) :
    f.source.rule f.label = .ok f.rule := by
  rcases (context_eq_ok h).2 with hload | rfl
  · obtain ⟨files, -, hmerge, -⟩ := load_eq_ok hload
    exact (checked_of_merge hmerge f hf).2
  · cases hf

/-! ## Commands without end -/

/-- A command is run with this scanner, and fields given on the command line. -/
def Scans (env : Environment) (c : Command) (fields : FieldArgs) (s : Scanner) : Prop :=
  ∃ cwd config, env.context c = .ok (cwd, config) ∧ scannerFor config fields = .ok s

/-- The query of a command brings its scanner to a point where it stands still: when its tokens are
listed, any point on the way; when it is parsed, one that the grammar lets it come to. -/
inductive Endless (env : Environment) : Command → Prop
  | parse {query : String} {fields : FieldArgs} {view : View} {s s' : Scanner}
      {state : Grammar.State} (hs : env.Scans (.parse query fields view) fields s)
      (hfeeds : Parser.Feeds (s.read query) .initial s' state) (hrest : s'.rest ≠ [])
      (hstalls : s'.Stalls) : Endless env (.parse query fields view)
  | tokens {query : String} {fields : FieldArgs} {s s' : Scanner}
      (hs : env.Scans (.tokens query fields) fields s) (hpasses : (s.read query).Passes s')
      (hrest : s'.rest ≠ []) (hstalls : s'.Stalls) : Endless env (.tokens query fields)

theorem Scans.isField {fields : FieldArgs} {s : Scanner} (h : env.Scans c fields s) {r : Rule}
    (hr : r ∈ s.fields) : r.kind.isField = true := by
  obtain ⟨cwd, config, hcontext, hs⟩ := h
  rcases mem_fields_scannerFor hs hr with ⟨f, hf, rfl⟩ | htoken
  · exact isField_of_rule (rule_of_context hcontext hf)
  · exact htoken.isField

/-- The token at which a command stands still is a field. -/
theorem Scans.lexeme_of_stalls {fields : FieldArgs} {s s' : Scanner} (h : env.Scans c fields s)
    (hfields : s'.fields = s.fields) (hstalls : s'.Stalls) :
    s'.lexeme.kind ≠ .finish ∧ (Grammar.leaf? s'.scan.1).isSome := by
  obtain ⟨r, hchosen, hr⟩ := hstalls
  have hmem : r ∈ s.fields := hfields ▸ Scanner.mem_fields_of_restarts hchosen hr
  obtain ⟨-, -, -, hkind⟩ := Scanner.lexeme?_eq_some (Scanner.lexeme?_of_chosen? hchosen)
  have hfield := h.isField hmem
  rw [← hkind] at hfield
  rw [Scanner.scan_fst]
  cases hk : s'.lexeme.kind with
  | field label => simp [Grammar.leaf?]
  | _ => simp [hk, Kind.isField] at hfield

theorem showTree_eq_none_iff {s : Scanner} {query : String} {view : View} :
    showTree s query view = none ↔ (Parser.ofScanner s).parseText query = none := by
  unfold showTree
  cases h : (Parser.ofScanner s).parseText query with
  | none => simp
  | some answer =>
    obtain ⟨result, p⟩ := answer
    have hready : result ≠ .error .notReady := (Parser.parse_of_ready rfl h).1
    cases result with
    | ok n => simp
    | error e =>
      cases e with
      | notReady => exact absurd rfl hready
      | malformed e => simp

theorem run_of_context (h : env.context c = .ok (cwd, config)) :
    env.run c = env.runIn cwd config c := by
  simp [run, h]

/-- **A command has no end just if its query brings the scanner to a point where it stands still.** -/
theorem outcome_eq_none_iff : env.outcome c = none ↔ env.Endless c := by
  rw [outcome, Option.map_eq_none_iff]
  constructor
  · intro h
    cases hcontext : env.context c with
    | error e => simp [run, hcontext] at h
    | ok found =>
      obtain ⟨cwd, config⟩ := found
      rw [run_of_context hcontext] at h
      cases c with
      | parse query fields view =>
        cases hs : scannerFor config fields with
        | error e => simp [runIn, hs] at h
        | ok s =>
          have hnone : (Parser.ofScanner s).parseText query = none := by
            simpa [runIn, hs, showTree_eq_none_iff] using h
          obtain ⟨s', state, hfeeds, hrest, hstalls, -⟩ := (Parser.parseText_eq_none_iff _ _).mp hnone
          exact .parse ⟨cwd, config, hcontext, hs⟩ hfeeds hrest hstalls
      | tokens query fields =>
        cases hs : scannerFor config fields with
        | error e => simp [runIn, hs] at h
        | ok s =>
          have hnone : s.tokenize query = none := by
            simpa [runIn, hs, showTokens] using h
          obtain ⟨s', hpasses, hrest, hstalls, -⟩ := (s.tokenize_eq_none_iff query).mp hnone
          exact .tokens ⟨cwd, config, hcontext, hs⟩ hpasses hrest hstalls
      | init force => simp [runIn] at h
      | config => simp [runIn] at h
  · rintro (⟨hscans, hfeeds, hrest, hstalls⟩ | ⟨hscans, hpasses, hrest, hstalls⟩)
    · rename_i query fields view s s' state
      have hleaf := (hscans.lexeme_of_stalls hfeeds.reaches.fields_eq hstalls).2
      have hnone : (Parser.ofScanner s).parseText query = none :=
        (Parser.parseText_eq_none_iff _ _).mpr ⟨s', state, hfeeds, hrest, hstalls, .inr hleaf⟩
      obtain ⟨cwd, config, hcontext, hs⟩ := hscans
      rw [run_of_context hcontext]
      simp [runIn, hs, showTree_eq_none_iff.mpr hnone]
    · rename_i query fields s s'
      have hkind := (hscans.lexeme_of_stalls hpasses.reaches.fields_eq hstalls).1
      have hnone : s.tokenize query = none :=
        (s.tokenize_eq_none_iff query).mpr ⟨s', hpasses, hrest, hstalls, hkind⟩
      obtain ⟨cwd, config, hcontext, hs⟩ := hscans
      rw [run_of_context hcontext]
      simp [runIn, hs, showTokens, hnone]

/-- The scanner of a command stands still only by a field of a configuration file that is given by a
pattern with two groups. -/
theorem Scans.exists_pattern {fields : FieldArgs} {s s' : Scanner} (h : env.Scans c fields s)
    (hfields : s'.fields = s.fields) (hstalls : s'.Stalls) :
    ∃ cwd config, env.cwd = some cwd ∧ load env.tree env.home cwd = .ok config ∧
      ∃ f ∈ config.fields, (∃ text, f.source = .pattern text) ∧ ∃ rest, f.rule.restarts rest = true := by
  obtain ⟨cwd, config, hcontext, hs⟩ := h
  obtain ⟨r, hr, hrestarts⟩ := Scanner.exists_restarts_of_stalls hstalls
  rw [hfields] at hr
  rcases mem_fields_scannerFor hs hr with ⟨f, hf, rfl⟩ | ⟨label, token, htoken⟩
  · obtain ⟨hcwd, hload | rfl⟩ := context_eq_ok hcontext
    · refine ⟨cwd, config, hcwd, hload, f, hf, ?_, _, hrestarts⟩
      have hrule := rule_of_context hcontext hf
      cases hsource : f.source with
      | pattern text => exact ⟨text, rfl⟩
      | token text =>
        rw [hsource] at hrule
        simp [Rule.restarts_of_ofToken hrule] at hrestarts
    · cases hf
  · simp [Rule.restarts_of_ofToken htoken] at hrestarts

theorem Endless.exists_pattern (h : env.Endless c) :
    ∃ cwd config, env.cwd = some cwd ∧ load env.tree env.home cwd = .ok config ∧
      ∃ f ∈ config.fields, (∃ text, f.source = .pattern text) ∧
        ∃ rest, f.rule.restarts rest = true := by
  cases h with
  | parse hs hfeeds hrest hstalls => exact hs.exists_pattern hfeeds.reaches.fields_eq hstalls
  | tokens hs hpasses hrest hstalls => exact hs.exists_pattern hpasses.reaches.fields_eq hstalls

end Environment

/-! ## What is printed -/

theorem append_newline_ne_empty (s : String) : s ++ "\n" ≠ "" := by
  intro h
  have hlen := congrArg String.length h
  simp at hlen

theorem unlines_ne_empty {lines : List String} (h : lines ≠ []) : unlines lines ≠ "" := by
  obtain ⟨line, rest, rfl⟩ := List.exists_cons_of_ne_nil h
  intro hempty
  have hlist := congrArg String.toList hempty
  rw [toList_unlines_cons] at hlist
  simp at hlist

theorem outline_ne_empty (n : Node) : n.outline ≠ "" := by
  have hlines : n.outline =
      unlines ((n.preorder 0).map fun x => Node.indent x.1 ++ x.2.heading) := by
    rw [Node.outline, unlines, List.map_map]
    rfl
  rw [hlines]
  apply unlines_ne_empty
  cases n <;> simp [Node.preorder]

theorem render_ne_empty (view : View) (n : Node) : view.render n ≠ "" := by
  cases view with
  | query => exact append_newline_ne_empty _
  | outline => exact outline_ne_empty n
  | shape => exact append_newline_ne_empty _

theorem showConfig_ne_empty (c : Config) : showConfig c ≠ "" := by
  obtain ⟨line, rest, hcons⟩ := List.exists_cons_of_ne_nil (headLines_ne_nil c)
  intro hempty
  have hlist := congrArg String.toList hempty
  rw [showConfig_eq, hcons, String.toList_append, toList_unlines_cons] at hlist
  simp at hlist

/-! ## What commands do -/

namespace Environment

variable {env : Environment} {c : Command} {out : Outcome} {cwd : Path} {config : Config}

/-- The one change that a command makes to files: the configuration file in the current directory is
written, at this place. -/
structure Writes (env : Environment) (dir : Path) (place : SearchQuery.Place) (t : FileTree) :
    Prop where
  here : env.cwd = some dir
  leads : env.tree.locate (dir.child fileName) = .ok place
  written : env.tree.WrittenAt place template t

theorem initialise_eq_ok {t : FileTree} {dir : Path} {force : Bool} {result : Success}
    (h : initialise t dir force = .ok result) :
    (t.exists? (dir.child fileName) = true → force = true) ∧ result.output ≠ "" ∧
      ∃ place, t.locate (dir.child fileName) = .ok place ∧ t.WrittenAt place template result.tree := by
  unfold initialise at h
  simp only at h
  split at h
  · cases h
  · next hallowed =>
    refine ⟨fun hexists => by simpa [hexists] using hallowed, ?_⟩
    cases hwrite : t.writeText (dir.child fileName) template with
    | error e => simp [hwrite] at h
    | ok t' =>
      simp only [hwrite] at h
      obtain rfl := Except.ok.inj h
      obtain ⟨place, hlocate, hwritten⟩ := FileTree.writeText_eq_ok hwrite
      exact ⟨append_newline_ne_empty _, place, hlocate, hwritten⟩

theorem showTree_eq_ok {s : Scanner} {query text : String} {view : View}
    (h : showTree s query view = some (.ok text)) : ∃ n, text = view.render n := by
  unfold showTree at h
  split at h
  · next n _ _ => exact ⟨n, by simpa using h.symm⟩
  · cases h
  · cases h
  · cases h

/-- What a command that succeeds has done. -/
theorem run_eq_ok {result : Success} (h : env.run c = some (.ok result)) :
    result.output ≠ "" ∧
      ((∀ force, c ≠ .init force) ∧ result.tree = env.tree ∨
        ∃ force dir place, c = .init force ∧
          (env.tree.exists? (dir.child fileName) = true → force = true) ∧
          env.Writes dir place result.tree) := by
  cases hcontext : env.context c with
  | error e => simp [run, hcontext] at h
  | ok found =>
    obtain ⟨cwd, config⟩ := found
    rw [run_of_context hcontext] at h
    cases c with
    | parse query fields view =>
      cases hs : scannerFor config fields with
      | error e => simp [runIn, hs] at h
      | ok s =>
        simp only [runIn, hs] at h
        obtain ⟨answer, hanswer, hresult⟩ := Option.map_eq_some_iff.mp h
        cases answer with
        | error e => cases hresult
        | ok text =>
          obtain rfl := Except.ok.inj hresult
          obtain ⟨n, rfl⟩ := showTree_eq_ok hanswer
          exact ⟨render_ne_empty view n, .inl ⟨by simp, rfl⟩⟩
    | tokens query fields =>
      cases hs : scannerFor config fields with
      | error e => simp [runIn, hs] at h
      | ok s =>
        simp only [runIn, hs] at h
        obtain ⟨text, htext, hresult⟩ := Option.map_eq_some_iff.mp h
        obtain rfl := Except.ok.inj hresult
        obtain ⟨⟨ts, s'⟩, -, rfl⟩ := Option.map_eq_some_iff.mp htext
        exact ⟨unlines_ne_empty (by simp), .inl ⟨by simp, rfl⟩⟩
    | init force =>
      obtain ⟨hforce, houtput, place, hlocate, hwritten⟩ := initialise_eq_ok (Option.some.inj h)
      exact ⟨houtput, .inr ⟨force, cwd, place, rfl, hforce,
        (context_eq_ok hcontext).1, hlocate, hwritten⟩⟩
    | config =>
      obtain rfl := Except.ok.inj (Option.some.inj h)
      exact ⟨showConfig_ne_empty config, .inl ⟨by simp, rfl⟩⟩

/-- **All that a command can do.** It fails, and then it only says so. Or it succeeds: then it only
prints something, or it is `init` and has written the configuration file, which was not there before
or may be overwritten. -/
theorem outcome_cases (h : env.outcome c = some out) :
    (out.code = 1 ∧ out.stdout = "" ∧ out.stderr ≠ "" ∧ out.tree = env.tree) ∨
    (out.code = 0 ∧ out.stderr = "" ∧ out.stdout ≠ "" ∧
      ((∀ force, c ≠ .init force) ∧ out.tree = env.tree ∨
        ∃ force dir place, c = .init force ∧
          (env.tree.exists? (dir.child fileName) = true → force = true) ∧
          env.Writes dir place out.tree)) := by
  obtain ⟨result, hrun, rfl⟩ := Option.map_eq_some_iff.mp h
  cases result with
  | error e => exact .inl ⟨rfl, rfl, append_newline_ne_empty _, rfl⟩
  | ok result =>
    obtain ⟨houtput, heffect⟩ := run_eq_ok hrun
    exact .inr ⟨rfl, rfl, houtput, heffect⟩

/-- What every run keeps to that comes to an end. -/
structure Tidy (env : Environment) (c : Command) (out : Outcome) : Prop where
  /-- It succeeds and prints something, or it fails and complains. -/
  streams : out.code = 0 ∧ out.stderr = "" ∧ out.stdout ≠ "" ∨
    out.code = 1 ∧ out.stdout = "" ∧ out.stderr ≠ ""
  /-- A command other than `init`, and one that fails, leaves all files as they were. -/
  unchanged : (∀ force, c ≠ .init force) ∨ out.code = 1 → out.tree = env.tree
  /-- `init` writes the configuration file in the current directory, and that only. -/
  written : ∀ force, c = .init force → out.code = 0 →
    ∃ dir place, env.Writes dir place out.tree ∧
      out.tree.readText (dir.child fileName) = .ok template
  /-- A file that may not be overwritten is kept, whatever it is. -/
  kept : c = .init false → ∀ dir, env.cwd = some dir →
    env.tree.exists? (dir.child fileName) = true → out.tree = env.tree

theorem tidy_of_outcome (h : env.outcome c = some out) : env.Tidy c out := by
  obtain ⟨hcode, hstdout, hstderr, htree⟩ | ⟨hcode, hstderr, hstdout, heffect⟩ := outcome_cases h
  · refine ⟨.inr ⟨hcode, hstdout, hstderr⟩, fun _ => htree, fun _ _ hzero => ?_, fun _ _ _ _ => htree⟩
    rw [hcode] at hzero
    cases hzero
  · have hstreams : out.code = 0 ∧ out.stderr = "" ∧ out.stdout ≠ "" := ⟨hcode, hstderr, hstdout⟩
    obtain ⟨hother, htree⟩ | ⟨force, dir, place, rfl, hforce, hwrites⟩ := heffect
    · exact ⟨.inl hstreams, fun _ => htree, fun force hinit => absurd hinit (hother force),
        fun _ _ _ _ => htree⟩
    · refine ⟨.inl hstreams, ?_, fun _ _ _ => ⟨dir, place, hwrites, ?_⟩, ?_⟩
      · rintro (hother | hone)
        · exact absurd rfl (hother force)
        · rw [hcode] at hone
          cases hone
      · exact hwrites.written.readText_eq hwrites.leads
      · intro hinit dir' hdir' hexists
        obtain rfl : dir = dir' := Option.some.inj (hwrites.here.symm.trans hdir')
        rw [hforce hexists] at hinit
        cases hinit

/-! ## Commands one after the other -/

/-- The environment of the next command: a run changes files only. -/
def after (env : Environment) (out : Outcome) : Environment := { env with tree := out.tree }

end Environment

/-- A command, and what it is run in. -/
structure Turn where
  env : Environment
  command : Command

namespace Environment

variable {env : Environment} {c : Command} {cs : List Command} {out : Outcome}

/-- The runs of commands, each in the files that the one before it leaves behind. After a run without
end there is none. -/
def turns (env : Environment) : List Command → List Turn
  | [] => []
  | c :: cs =>
    ⟨env, c⟩ ::
      match env.outcome c with
      | none => []
      | some out => (env.after out).turns cs

/-- What holds at the beginning and is kept by every command holds before each of the runs. -/
theorem forall_turns {P : Environment → Prop} (h : P env)
    (hstep : ∀ env, ∀ c ∈ cs, ∀ out, P env → env.outcome c = some out → P (env.after out)) :
    ∀ r ∈ env.turns cs, P r.env := by
  induction cs generalizing env with
  | nil => simp [turns]
  | cons c cs ih =>
    intro r hr
    rcases List.mem_cons.mp hr with rfl | hmem
    · exact h
    · cases hout : env.outcome c with
      | none => simp [hout] at hmem
      | some out =>
        rw [hout] at hmem
        exact ih (hstep env c (List.mem_cons_self ..) out h hout)
          (fun env' c' hc' => hstep env' c' (List.mem_cons_of_mem c hc')) r hmem

/-- If every run comes to an end, all commands are run. -/
theorem map_command_turns (h : ∀ r ∈ env.turns cs, r.env.outcome r.command ≠ none) :
    (env.turns cs).map (·.command) = cs := by
  induction cs generalizing env with
  | nil => rfl
  | cons c cs ih =>
    obtain ⟨out, hout⟩ := Option.ne_none_iff_exists'.mp (h ⟨env, c⟩ (List.mem_cons_self ..))
    have hturns : env.turns (c :: cs) = ⟨env, c⟩ :: (env.after out).turns cs := by
      rw [turns, hout]
    rw [hturns] at h ⊢
    rw [List.map_cons, ih fun r hr => h r (List.mem_cons_of_mem _ hr)]

/-- What commands may leave behind, however many: the files as they were, or the configuration file
in the current directory written. -/
def MayLeave (env : Environment) (t : FileTree) : Prop :=
  t = env.tree ∨ ∃ dir place, env.Writes dir place t

/-- **One more command changes nothing else.** -/
theorem mayLeave_step {env' : Environment} (hcwd : env'.cwd = env.cwd) (h : env.MayLeave env'.tree)
    (hout : env'.outcome c = some out) : env.MayLeave out.tree := by
  obtain ⟨-, -, -, htree⟩ | ⟨-, -, -, ⟨-, htree⟩ | ⟨-, dir, place, -, -, hwrites⟩⟩ := outcome_cases hout
  · rwa [htree]
  · rwa [htree]
  · have hdir : env.cwd = some dir := hcwd ▸ hwrites.here
    rcases h with htree | ⟨dir₀, place₀, hwrites₀⟩
    · exact .inr ⟨dir, place, hdir, htree ▸ hwrites.leads, htree ▸ hwrites.written⟩
    · -- The file was written before, so that its path still leads to the same place.
      obtain rfl : dir₀ = dir := Option.some.inj (hwrites₀.here.symm.trans hdir)
      have hplace : Except.ok place₀ = Except.ok place :=
        (hwrites₀.written.locate_iff.mpr hwrites₀.leads).symm.trans hwrites.leads
      obtain rfl := Except.ok.inj hplace
      exact .inr ⟨dir₀, place₀, hdir, hwrites₀.leads, hwrites₀.written.trans hwrites.written⟩

theorem mayLeave_of_turns (env : Environment) (cs : List Command) :
    ∀ r ∈ env.turns cs, r.env.home = env.home ∧ r.env.cwd = env.cwd ∧ env.MayLeave r.env.tree := by
  refine forall_turns (P := fun e => e.home = env.home ∧ e.cwd = env.cwd ∧ env.MayLeave e.tree)
    ⟨rfl, rfl, .inl rfl⟩ ?_
  rintro env' c - out ⟨hhome, hcwd, hleave⟩ hout
  exact ⟨hhome, hcwd, mayLeave_step hcwd hleave hout⟩

/-- A configuration file that is there stays as it is, and so do all files, until a command is told to
overwrite it. -/
theorem tree_eq_of_turns (hthere : ∀ dir, env.cwd = some dir →
    env.tree.exists? (dir.child fileName) = true) (hforce : .init true ∉ cs) :
    ∀ r ∈ env.turns cs, r.env.tree = env.tree := by
  have hkept : ∀ r ∈ env.turns cs, r.env.cwd = env.cwd ∧ r.env.tree = env.tree := by
    refine forall_turns (P := fun e => e.cwd = env.cwd ∧ e.tree = env.tree) ⟨rfl, rfl⟩ ?_
    rintro env' c hc out ⟨hcwd, htree⟩ hout
    refine ⟨hcwd, ?_⟩
    obtain ⟨-, -, -, hsame⟩ | ⟨-, -, -, ⟨-, hsame⟩ | ⟨force, dir, _, rfl, hallowed, hwrites⟩⟩ :=
      outcome_cases hout
    · exact hsame.trans htree
    · exact hsame.trans htree
    · rw [htree] at hallowed
      obtain rfl := hallowed (hthere dir (hcwd ▸ hwrites.here))
      exact absurd hc hforce
  exact fun r hr => (hkept r hr).2

/-- **Every run ends cleanly if it ends, and only `init` writes.** Commands are run one after the
other. A run has no end just if its query brings the scanner to a point where it stands still, for
which a configuration file must have a field given by a pattern with two groups, the second of which
begins where the first does. Any other run is tidy: it prints or complains, and files are as they were
unless it is an `init` that succeeds, which writes the configuration file in the current directory
and never one that is there, unless it is told to. If all runs end, all commands are run. The files
before each of them differ from those at the beginning in this one file at most, and do not differ at
all if it is there and no command is told to overwrite it.

The error stream is taken without the log lines that `-v` adds to it, which are not part of an
`Outcome`: a run with `-v` that succeeds may have some, so that it is clean but for them. -/
theorem runs_end_cleanly (env : Environment) (cs : List Command) :
    (∀ r ∈ env.turns cs,
      (r.env.outcome r.command = none ↔ r.env.Endless r.command) ∧
      (∀ out, r.env.outcome r.command = some out → r.env.Tidy r.command out) ∧
      r.env.home = env.home ∧ r.env.cwd = env.cwd ∧ env.MayLeave r.env.tree) ∧
    ((∀ r ∈ env.turns cs, ¬ r.env.Endless r.command) → (env.turns cs).map (·.command) = cs) ∧
    ((∀ dir, env.cwd = some dir → env.tree.exists? (dir.child fileName) = true) → .init true ∉ cs →
      ∀ r ∈ env.turns cs, r.env.tree = env.tree) ∧
    ∀ (e : Environment) (c : Command), e.Endless c →
      ∃ dir config, e.cwd = some dir ∧ load e.tree e.home dir = .ok config ∧
        ∃ f ∈ config.fields, (∃ text, f.source = .pattern text) ∧
          ∃ rest, f.rule.restarts rest = true := by
  refine ⟨fun r hr => ?_, fun h => ?_, tree_eq_of_turns, fun e c => Endless.exists_pattern⟩
  · exact ⟨outcome_eq_none_iff, fun out => tidy_of_outcome, mayLeave_of_turns env cs r hr⟩
  · exact map_command_turns fun r hr hnone => h r hr (outcome_eq_none_iff.mp hnone)

/-- A field with one group inside the other: neither command comes to an end. -/
theorem nested_groups_never_end :
    let tree : FileTree := ⟨[([".sift.toml"],
      .file (.text "[[field]]\nlabel = \"X\"\npattern = \"((a))\"\n"))], []⟩
    let env : Environment := ⟨tree, ⟨"/h"⟩, some ⟨"/"⟩⟩
    read ["tokens", "a"] = .ok ⟨0, .tokens "a" ⟨[], false⟩⟩ ∧
      env.outcome (.tokens "a" ⟨[], false⟩) = none ∧
      env.outcome (.parse "a" ⟨[], false⟩ .query) = none := by
  intro tree env
  exact ⟨by decide +kernel, Option.isNone_iff_eq_none.mp (by decide +kernel),
    Option.isNone_iff_eq_none.mp (by decide +kernel)⟩

end Environment

end CommandLine

end SearchQuery
