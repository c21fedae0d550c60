import SearchQuery.Proofs.CleanRuns
import SearchQuery.Proofs.Merging

/-!
# Fields on the command line and in a file

A field may be given on the command line, as `LABEL=TOKEN`, or in a configuration file. Two loops
take care of it: one adds rules to a scanner and stops at the first bad field, the other merges entries
and keeps an eye on labels that come twice.

* `FieldArg.read?_join`: a label without an equals sign and a token are read back from the argument
  that they make.
* `registerFields_eq`: the first loop checks all fields in order and registers what comes of them, as
  the second one does with entries that have different labels (`merge_asFile`).
* `alike_rule`: a field and its entry pass the same checks and make the same rule, or they fail for the
  same reason (`SameReason`); and so do the lists (`mapM_alike`).
* `fields_as_file`: fields with different labels make the same scanner on the command line as in a
  file, or neither makes one, for the same reason at the same field. They come after the fields of a
  configuration.
-/

namespace SearchQuery

open Config

namespace CommandLine

/-! ## Arguments -/

namespace FieldArg

theorem cutAtEquals_append {cs : List Char} (h : '=' ∉ cs) (rest : List Char) :
    cutAtEquals (cs ++ '=' :: rest) = some (cs, rest) := by
  have hcs : ∀ c ∈ cs, decide (c ≠ '=') = true := by
    intro c hc
    refine decide_eq_true ?_
    rintro rfl
    exact h hc
  unfold cutAtEquals
  rw [List.dropWhile_append_of_pos hcs, List.takeWhile_append_of_pos hcs]
  simp

/-- **A field is read back from the argument that it makes**, also if its token has an equals sign
in it. -/
theorem read?_join {f : FieldArg} (hlabel : f.label ≠ "") (hfree : '=' ∉ f.label.toList)
    (htoken : f.token ≠ "") : read? (f.label ++ "=" ++ f.token) = some f := by
  have hchars : (f.label ++ "=" ++ f.token).toList = f.label.toList ++ '=' :: f.token.toList := by
    rw [String.toList_append, String.toList_append, List.append_assoc]
    rfl
  obtain ⟨l, ls, hl⟩ := List.exists_cons_of_ne_nil (show f.label.toList ≠ [] by simpa using hlabel)
  obtain ⟨c, cs, hc⟩ := List.exists_cons_of_ne_nil (show f.token.toList ≠ [] by simpa using htoken)
  rw [read?, hchars, cutAtEquals_append hfree, hl, hc]
  simp only
  rw [← hl, ← hc, String.ofList_toList, String.ofList_toList]

/-- The field as an entry of a configuration file. -/
def entry (f : FieldArg) : FieldEntry := ⟨f.label, some f.token, none⟩

end FieldArg

/-- Fields are added in order, if all of them make rules. -/
theorem registerFields_eq (s : Scanner) (fs : List FieldArg) :
    registerFields s fs = (fs.mapM FieldArg.rule).map (·.foldl Scanner.register s) := by
  induction fs generalizing s with
  | nil => rfl
  | cons f fs ih =>
    rw [registerFields, List.mapM_cons]
    cases f.rule with
    | error e => rfl
    | ok r =>
      simp only [bind, Except.bind]
      rw [ih]
      cases fs.mapM FieldArg.rule with
      | error e => rfl
      | ok rs => rfl

/-! ## The same checks -/

/-- A failure on the command line and an error of a file tell of the same fault of a field: its label
is not allowed, or its token makes no rule. -/
inductive SameReason (path : Path) (f : FieldArg) : Failure → Config.Error → Prop
  | label {p : EntryProblem} (h : labelProblem? f.label = some p) :
      SameReason path f (.badLabel f.label p) (.badEntry path f.label p)
  | pattern {e : RuleError} (hlabel : labelProblem? f.label = none)
      (h : Rule.ofToken (.field f.label) f.token = .error e) :
      SameReason path f (.badRule e) (.badRule path e)

/-- **A field and its entry pass the same checks**, and make the same rule. -/
theorem alike_rule (globalPath path : Path) (f : FieldArg) :
    (∃ field, f.rule = .ok field.rule ∧ checkEntry globalPath path f.entry = .ok field) ∨
      ∃ failure err, f.rule = .error failure ∧ checkEntry globalPath path f.entry = .error err ∧
        SameReason path f failure err := by
  have hsource : f.entry.source = .ok (.token f.token) := rfl
  cases hlabel : labelProblem? f.label with
  | some p =>
    refine .inr ⟨_, _, ?_, ?_, .label hlabel⟩
    · rw [FieldArg.rule, hlabel]
    · rw [checkEntry, show labelProblem? f.entry.label = some p from hlabel]
      rfl
  | none =>
    have hentry : labelProblem? f.entry.label = none := hlabel
    cases hrule : Rule.ofToken (.field f.label) f.token with
    | error e =>
      have hmake : (Source.token f.token).rule f.entry.label = .error e := hrule
      refine .inr ⟨_, _, ?_, ?_, .pattern hlabel hrule⟩
      · rw [FieldArg.rule, hlabel, hrule]
        rfl
      · simp only [checkEntry, hentry, hsource, hmake]
    | ok r =>
      have hmake : (Source.token f.token).rule f.entry.label = .ok r := hrule
      refine .inl ⟨⟨f.label, .token f.token, path, path.sameAs globalPath, r⟩, ?_, ?_⟩
      · rw [FieldArg.rule, hlabel, hrule]
        rfl
      · simp only [checkEntry, hentry, hsource, hmake]
        rfl

/-- Lists of fields: all of them pass, or the first that does not is the same. -/
theorem mapM_alike (globalPath path : Path) (fs : List FieldArg) :
    (∃ fields, fs.mapM FieldArg.rule = .ok (fields.map (·.rule)) ∧
      (fs.map FieldArg.entry).mapM (checkEntry globalPath path) = .ok fields) ∨
    ∃ before f after failure err, fs = before ++ f :: after ∧ (∀ g ∈ before, ∃ r, g.rule = .ok r) ∧
      fs.mapM FieldArg.rule = .error failure ∧
      (fs.map FieldArg.entry).mapM (checkEntry globalPath path) = .error err ∧
      SameReason path f failure err := by
  induction fs with
  | nil => exact .inl ⟨[], rfl, rfl⟩
  | cons f fs ih =>
    rw [List.map_cons, List.mapM_cons, List.mapM_cons]
    rcases alike_rule globalPath path f with ⟨field, hrule, hcheck⟩ | ⟨failure, err, hrule, hcheck, hsame⟩
    · rw [hrule, hcheck]
      rcases ih with ⟨fields, hrules, hchecks⟩ |
        ⟨before, f', after, failure, err, rfl, hbefore, hrules, hchecks, hsame⟩
      · rw [hrules, hchecks]
        exact .inl ⟨field :: fields, rfl, rfl⟩
      · rw [hrules, hchecks]
        refine .inr ⟨f :: before, f', after, failure, err, rfl, ?_, rfl, rfl, hsame⟩
        exact List.forall_mem_cons.mpr ⟨⟨_, hrule⟩, hbefore⟩
    · rw [hrule, hcheck]
      exact .inr ⟨[], f, fs, failure, err, rfl, by simp, rfl, rfl, hsame⟩

/-! ## The same scanners -/

/-- A configuration file with these fields. -/
def asFile (root : Option Bool) (fs : List FieldArg) : File := ⟨root, some (fs.map FieldArg.entry)⟩

/-- Where no label comes twice, the configuration of such a file has the fields of its entries. -/
theorem merge_asFile {fs : List FieldArg} (hnodup : (fs.map (·.label)).Nodup)
    (globalPath path : Path) (root : Option Bool) :
    merge globalPath [(path, asFile root fs)] =
      ((fs.map FieldArg.entry).mapM (checkEntry globalPath path)).map (⟨·, [path]⟩) := by
  have hlabels : ((fs.map FieldArg.entry).map (·.label)).Nodup := by
    rw [List.map_map]
    exact hnodup
  have hentries : (asFile root fs).fields.getD [] = fs.map FieldArg.entry := rfl
  rw [merge, mergeFields, hentries, mergeEntries_of_nodup hlabels (by simp) (by simp)]
  cases (fs.map FieldArg.entry).mapM (checkEntry globalPath path) with
  | error err => rfl
  | ok fields => rfl

theorem scannerFor_eq (c : Config) (fields : FieldArgs) :
    scannerFor c fields =
      (fields.fields.mapM FieldArg.rule).map fun rs => (c.rules ++ rs).foldl Scanner.register .new := by
  rw [scannerFor, registerFields_eq]
  simp only [List.foldl_append]
  rfl

/-- **Fields mean the same on the command line and in a file.** Take fields with different labels, each
with a label that is not empty and has no equals sign in it, and with a token. Each one is read back
from its argument. Without any configuration, they make a scanner just if a configuration file with
the same fields in the same order can be merged, and then it is the scanner of this configuration, so
that every query has the same tokens and the same tree. Otherwise both fail at the same field, the
first that is bad, for the same reason. With a configuration, their rules are tried in order after
those of its fields. -/
theorem fields_as_file {fs : List FieldArg} (hnodup : (fs.map (·.label)).Nodup)
    (hfs : ∀ f ∈ fs, f.label ≠ "" ∧ '=' ∉ f.label.toList ∧ f.token ≠ "") (noConfig : Bool)
    (globalPath path : Path) (root : Option Bool) :
    (∀ f ∈ fs, FieldArg.read? (f.label ++ "=" ++ f.token) = some f) ∧
    ((∃ s c, scannerFor .empty ⟨fs, noConfig⟩ = .ok s ∧
        merge globalPath [(path, asFile root fs)] = .ok c ∧ s.rules = c.scanner.rules ∧
        ∀ query, s.tokenize query = c.scanner.tokenize query ∧
          (Parser.ofScanner s).parseText query = (Parser.ofScanner c.scanner).parseText query) ∨
      ∃ before f after failure err, fs = before ++ f :: after ∧
        (∀ g ∈ before, ∃ r, g.rule = .ok r) ∧
        scannerFor .empty ⟨fs, noConfig⟩ = .error failure ∧
        merge globalPath [(path, asFile root fs)] = .error err ∧ SameReason path f failure err) ∧
    ∀ c s, scannerFor c ⟨fs, noConfig⟩ = .ok s →
      ∃ rs, List.Forall₂ (fun f r => Rule.ofToken (.field f.label) f.token = .ok r) fs rs ∧
        s.rules = Rule.structural ++ (c.rules ++ rs) ++ Rule.generic := by
  refine ⟨fun f hf => ?_, ?_, fun c s hs => ?_⟩
  · obtain ⟨hlabel, hfree, htoken⟩ := hfs f hf
    exact FieldArg.read?_join hlabel hfree htoken
  · rw [scannerFor_eq, merge_asFile hnodup]
    rcases mapM_alike globalPath path fs with ⟨fields, hrules, hchecks⟩ |
      ⟨before, f, after, failure, err, hsplit, hbefore, hrules, hchecks, hsame⟩
    · rw [hrules, hchecks]
      exact .inl ⟨_, _, rfl, rfl, rfl, fun query => ⟨rfl, rfl⟩⟩
    · rw [hrules, hchecks]
      exact .inr ⟨before, f, after, failure, err, hsplit, hbefore, rfl, rfl, hsame⟩
  · obtain ⟨rs, hfields, hrs⟩ := registerFields_eq_ok hs
    refine ⟨rs, hrs, ?_⟩
    rw [Scanner.rules, hfields, fields_scanner]

/-- Two fields, one of which has a token with an equals sign in it. -/
theorem fields_as_file_trip :
    let fs : List FieldArg := [⟨"TRIP", "trip:[0-9]+"⟩, ⟨"EQ", "a=b"⟩]
    FieldArg.read? ("EQ" ++ "=" ++ "a=b") = some ⟨"EQ", "a=b"⟩ ∧
      ∃ s c, scannerFor .empty ⟨fs, false⟩ = .ok s ∧
        merge ⟨"/.sift.toml"⟩ [(⟨"/p/.sift.toml"⟩, asFile none fs)] = .ok c ∧
        s.rules = c.scanner.rules := by
  intro fs
  have hnodup : (fs.map (·.label)).Nodup := by decide +kernel
  have hfs : ∀ f ∈ fs, f.label ≠ "" ∧ '=' ∉ f.label.toList ∧ f.token ≠ "" := by decide +kernel
  have hok : (scannerFor .empty ⟨fs, false⟩).isOk = true := by decide +kernel
  obtain ⟨hread, hboth, -⟩ :=
    fields_as_file hnodup hfs false ⟨"/.sift.toml"⟩ ⟨"/p/.sift.toml"⟩ none
  refine ⟨hread ⟨"EQ", "a=b"⟩ (by simp [fs]), ?_⟩
  rcases hboth with ⟨s, c, hs, hc, hrules, -⟩ | ⟨-, -, -, failure, -, -, -, hfailure, -⟩
  · exact ⟨s, c, hs, hc, hrules⟩
  · simp [hfailure, Except.isOk, Except.toBool] at hok

/-- A bad pattern in the middle is reported, and not the blank label behind it. -/
example : (scannerFor .empty ⟨[⟨"A", "a"⟩, ⟨"B", "("⟩, ⟨" ", "c"⟩], false⟩).map (·.fields.length) =
    .error (.badRule (.notAPattern "B")) := by
  decide +kernel

end CommandLine

end SearchQuery
