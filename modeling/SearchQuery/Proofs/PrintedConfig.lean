import SearchQuery.CommandLine.Run
import SearchQuery.Proofs.Discovery
import SearchQuery.Proofs.Snapshot

/-!
# A configuration as it is printed

What is printed of a configuration begins with comments, in which paths and labels stand as they are,
and goes on with the fields as a configuration file. The comments say nothing to a reader of the whole
as long as no path and no label has a control character in it.

* A comment without control characters is passed over, and one with a control character other than a
  line feed is refused (`readLine?_comment`, `readLine?_comment_of_not_plain`); so is a block of
  comments (`readAll?_unlines`, `readAll?_unlines_of_not_plain`).
* All fields come from a file that is named in the comments (`path_mem_sources`), and every such name
  ends as a configuration file does, so that a line of comments never ends in a carriage return.
* `config_output_reads_back`: what is printed is read back as the fields of the configuration if all
  paths and labels are plain. If one is not, and none has a line feed, it cannot be read at all. After
  a line feed the rest of a label is no comment any more (`line_feed_ends_comment`).
-/

namespace SearchQuery

/-! ## Comments -/

namespace Toml

/-- A text without control characters, save for tabs. -/
def Plain (cs : List Char) : Prop := ∀ c ∈ cs, isControl c = false

instance (cs : List Char) : Decidable (Plain cs) :=
  List.decidableBAll (fun c => isControl c = false) cs

theorem plain_nil : Plain [] := fun _ hc => absurd hc List.not_mem_nil

theorem plain_append_iff {cs cs' : List Char} : Plain (cs ++ cs') ↔ Plain cs ∧ Plain cs' :=
  List.forall_mem_append

theorem lineBreak?_of_not_control {c : Char} (h : isControl c = false) (cs : List Char) :
    lineBreak? (c :: cs) = none := by
  rw [lineBreak?]
  · rintro rest heq
    obtain rfl := (List.cons.inj heq).1
    simp [isControl] at h
  · rintro rest heq
    obtain rfl := (List.cons.inj heq).1
    simp [isControl] at h

theorem skipComment?_of_not_control {c : Char} (h : isControl c = false) (cs : List Char) :
    skipComment? (c :: cs) = skipComment? cs := by
  rw [skipComment?, lineBreak?_of_not_control h]
  simp [h]

theorem skipComment?_of_plain {cs : List Char} (h : Plain cs) (rest : List Char) :
    skipComment? (cs ++ '\n' :: rest) = some ('\n' :: rest) := by
  induction cs with
  | nil => rfl
  | cons c cs ih =>
    rw [List.cons_append, skipComment?_of_not_control (h c (List.mem_cons_self ..))]
    exact ih fun d hd => h d (List.mem_cons_of_mem c hd)

/-- A control character ends a comment with an error, unless it is part of a line break. -/
theorem skipComment?_of_not_plain {cs : List Char} (hline : '\n' ∉ cs)
    (hlast : cs.getLast? ≠ some '\r') (h : ¬ Plain cs) (rest : List Char) :
    skipComment? (cs ++ '\n' :: rest) = none := by
  induction cs with
  | nil => exact absurd plain_nil h
  | cons c cs ih =>
    rw [List.mem_cons, not_or] at hline
    obtain ⟨hc, hline⟩ := hline
    cases hcontrol : isControl c with
    | false =>
      have hcs : ¬ Plain cs := by
        intro hplain
        refine h fun d hd => ?_
        rcases List.mem_cons.mp hd with rfl | hmem
        · exact hcontrol
        · exact hplain d hmem
      have hne : cs ≠ [] := by
        rintro rfl
        exact hcs plain_nil
      rw [List.cons_append, skipComment?_of_not_control hcontrol]
      refine ih hline ?_ hcs
      obtain ⟨d, cs, rfl⟩ := List.exists_cons_of_ne_nil hne
      rwa [List.getLast?_cons_cons] at hlast
    | true =>
      -- A carriage return is no line break here: neither the comment nor the character after it
      -- begins with a line feed.
      have hbreak : lineBreak? (c :: (cs ++ '\n' :: rest)) = none := by
        rw [lineBreak?]
        · rintro rest' heq
          exact hc (List.cons.inj heq).1.symm
        · rintro rest' heq
          obtain ⟨rfl, hrest⟩ := List.cons.inj heq
          cases cs with
          | nil => exact hlast rfl
          | cons d cs =>
            refine hline ?_
            rw [(List.cons.inj hrest).1]
            exact List.mem_cons_self ..
      rw [List.cons_append, skipComment?, hbreak]
      simp [hcontrol]

namespace Document

variable {d : Document} {cs rest : List Char}

theorem readLine?_comment (h : Plain cs) :
    d.readLine? ('#' :: cs ++ '\n' :: rest) = some (d, rest) := by
  have hline : d.readLine? ('#' :: cs ++ '\n' :: rest) =
      (endOfLine? ('#' :: (cs ++ '\n' :: rest))).map (d, ·) := rfl
  have hend : endOfLine? ('#' :: (cs ++ '\n' :: rest)) =
      (skipComment? (cs ++ '\n' :: rest)).bind
        fun rest => if rest.isEmpty then some [] else lineBreak? rest := rfl
  rw [hline, hend, skipComment?_of_plain h]
  rfl

theorem readLine?_comment_of_not_plain (hline : '\n' ∉ cs) (hlast : cs.getLast? ≠ some '\r')
    (h : ¬ Plain cs) : d.readLine? ('#' :: cs ++ '\n' :: rest) = none := by
  have hread : d.readLine? ('#' :: cs ++ '\n' :: rest) =
      (endOfLine? ('#' :: (cs ++ '\n' :: rest))).map (d, ·) := rfl
  have hend : endOfLine? ('#' :: (cs ++ '\n' :: rest)) =
      (skipComment? (cs ++ '\n' :: rest)).bind
        fun rest => if rest.isEmpty then some [] else lineBreak? rest := rfl
  rw [hread, hend, skipComment?_of_not_plain hline hlast h]
  rfl

end Document

end Toml

namespace CommandLine

open Toml Config

/-! ## Blocks of comments -/

/-- A line that is empty or a comment. -/
def IsComment (line : String) : Prop := line = "" ∨ ∃ cs, line.toList = '#' :: cs

/-- A line with no other line in it, and which does not end in half a line break. -/
def IsLine (line : String) : Prop := '\n' ∉ line.toList ∧ line.toList.getLast? ≠ some '\r'

theorem toList_unlines_cons (line : String) (lines : List String) :
    (unlines (line :: lines)).toList = line.toList ++ '\n' :: (unlines lines).toList := by
  rw [unlines, List.map_cons, String.join_cons, String.toList_append, String.toList_append,
    List.append_assoc]
  rfl

theorem readLine?_line {d : Document} {line : String} (hcomment : IsComment line)
    (hplain : Plain line.toList) (rest : List Char) :
    d.readLine? (line.toList ++ '\n' :: rest) = some (d, rest) := by
  rcases hcomment with rfl | ⟨cs, hcs⟩
  · rfl
  · rw [hcs] at hplain ⊢
    exact Document.readLine?_comment fun c hc => hplain c (List.mem_cons_of_mem '#' hc)

/-- A text that begins with a comment has no byte order mark. -/
theorem dropMark_unlines {lines : List String} (hne : lines ≠ [])
    (hcomment : ∀ line ∈ lines, IsComment line) (rest : List Char) :
    dropMark ((unlines lines).toList ++ rest) = (unlines lines).toList ++ rest := by
  obtain ⟨line, lines, rfl⟩ := List.exists_cons_of_ne_nil hne
  rw [toList_unlines_cons]
  rcases hcomment line (List.mem_cons_self ..) with rfl | ⟨cs, hcs⟩
  · rfl
  · rw [hcs]
    rfl

/-- **Comments are passed over.** -/
theorem readAll?_unlines {d : Document} {lines : List String} (hcomment : ∀ line ∈ lines, IsComment line)
    (hplain : ∀ line ∈ lines, Plain line.toList) {rest : List Char} {n : Nat}
    (hn : ((unlines lines).toList ++ rest).length ≤ n) :
    ∃ m, rest.length ≤ m ∧ d.readAll? n ((unlines lines).toList ++ rest) = d.readAll? m rest := by
  induction lines generalizing n with
  | nil => exact ⟨n, hn, rfl⟩
  | cons line lines ih =>
    have hread := readLine?_line (d := d) (hcomment line (List.mem_cons_self ..))
      (hplain line (List.mem_cons_self ..)) ((unlines lines).toList ++ rest)
    have htext : (unlines (line :: lines)).toList ++ rest =
        (line.toList ++ ['\n']) ++ ((unlines lines).toList ++ rest) := by
      rw [toList_unlines_cons]
      simp only [List.append_assoc, List.cons_append, List.nil_append]
    rw [htext] at hn ⊢
    rw [← List.singleton_append, ← List.append_assoc] at hread
    obtain ⟨m, hm, heq⟩ := readAll?_line (by simp) hread hn
    obtain ⟨k, hk, heq'⟩ := ih (fun l hl => hcomment l (List.mem_cons_of_mem line hl))
      (fun l hl => hplain l (List.mem_cons_of_mem line hl)) hm
    exact ⟨k, hk, heq.trans heq'⟩

/-- **Comments with a control character are refused.** -/
theorem readAll?_unlines_of_not_plain {d : Document} {lines : List String}
    (hcomment : ∀ line ∈ lines, IsComment line) (hline : ∀ line ∈ lines, IsLine line)
    (h : ∃ line ∈ lines, ¬ Plain line.toList) (rest : List Char) (n : Nat) :
    d.readAll? n ((unlines lines).toList ++ rest) = none := by
  induction lines generalizing n with
  | nil =>
    obtain ⟨line, hmem, -⟩ := h
    cases hmem
  | cons line lines ih =>
    rw [toList_unlines_cons, List.append_assoc, List.cons_append]
    -- There is always a character to read, so the next round is one of `readLine?`.
    obtain ⟨c, cs, hcs⟩ : ∃ c cs, line.toList ++ '\n' :: ((unlines lines).toList ++ rest) = c :: cs :=
      List.exists_cons_of_ne_nil (by simp)
    cases n with
    | zero => rw [hcs, Document.readAll?]
    | succ n =>
      rw [hcs, Document.readAll?, ← hcs]
      by_cases hplain : Plain line.toList
      · have hrest : ∃ l ∈ lines, ¬ Plain l.toList := by
          obtain ⟨l, hl, hnot⟩ := h
          rcases List.mem_cons.mp hl with rfl | hmem
          · exact absurd hplain hnot
          · exact ⟨l, hmem, hnot⟩
        rw [readLine?_line (hcomment line (List.mem_cons_self ..)) hplain]
        exact ih (fun l hl => hcomment l (List.mem_cons_of_mem line hl))
          (fun l hl => hline l (List.mem_cons_of_mem line hl)) hrest n
      · obtain ⟨hfeed, hlast⟩ := hline line (List.mem_cons_self ..)
        rcases hcomment line (List.mem_cons_self ..) with rfl | ⟨text, htext⟩
        · exact absurd plain_nil hplain
        · rw [htext] at hplain hfeed hlast ⊢
          have htextPlain : ¬ Plain text := by
            intro hp
            refine hplain fun c hc => ?_
            rcases List.mem_cons.mp hc with rfl | hmem
            · decide
            · exact hp c hmem
          have htextLast : text.getLast? ≠ some '\r' := by
            cases text with
            | nil => simp
            | cons c text => rwa [List.getLast?_cons_cons] at hlast
          rw [Document.readLine?_comment_of_not_plain
            (fun hmem => hfeed (List.mem_cons_of_mem '#' hmem)) htextLast htextPlain]
          rfl

end CommandLine

/-! ## Where fields come from -/

namespace Config

/-- Every field comes from one of the sources. -/
theorem path_mem_sources {globalPath : Path} {files : List (Path × File)} {c : Config}
    (h : merge globalPath files = .ok c) {f : Field} (hf : f ∈ c.fields) : f.path ∈ c.sources := by
  obtain ⟨file, hfind, -⟩ := field_is_nearest h hf
  obtain ⟨-, rfl⟩ := merge_eq_ok_iff.mp h
  exact List.mem_map_of_mem (List.mem_of_find?_eq_some hfind)

/-- The file that the fields of a configuration make. -/
def fieldsFile (c : Config) : File :=
  ⟨none, if c.fields.isEmpty then none else some (c.fields.map Field.entry)⟩

/-- What holds of the texts of a configuration that are printed in comments. -/
structure Comments (P : List Char → Prop) (c : Config) : Prop where
  source : ∀ p ∈ c.sources, P p.text.toList
  label : ∀ f ∈ c.fields, P f.label.toList

theorem comments_iff {P : List Char → Prop} {c : Config} :
    c.Comments P ↔ (∀ p ∈ c.sources, P p.text.toList) ∧ ∀ f ∈ c.fields, P f.label.toList :=
  ⟨fun h => ⟨h.source, h.label⟩, fun h => ⟨h.1, h.2⟩⟩

instance (P : List Char → Prop) [DecidablePred P] (c : Config) : Decidable (c.Comments P) :=
  decidable_of_iff _ comments_iff.symm

end Config

/-! ## What is printed -/

namespace CommandLine

open Toml Config

/-- The lines that are printed before the fields. -/
def headLines (c : Config) : List String :=
  if c.fields.isEmpty then sourceLines c ++ ["# no field patterns configured"]
  else sourceLines c ++ "#" :: c.fields.map originLine ++ [""]

theorem showConfig_eq (c : Config) :
    showConfig c = unlines (headLines c) ++ if c.fields.isEmpty then "" else c.toToml := by
  unfold showConfig headLines
  split
  · exact String.append_empty.symm
  · rfl

/-- A line before the fields: one that is the same for all, the name of a source, or where a field
comes from. -/
theorem mem_headLines {c : Config} {line : String} (h : line ∈ headLines c) :
    line ∈ ["# no config files found", "# no field patterns configured", "#", ""] ∨
      (∃ p ∈ c.sources, line = "# " ++ p.text) ∨ ∃ f ∈ c.fields, line = originLine f := by
  have hsource : ∀ l ∈ sourceLines c, l = "# no config files found" ∨
      ∃ p ∈ c.sources, l = "# " ++ p.text := by
    intro l hl
    unfold sourceLines at hl
    split at hl
    · exact .inl (List.mem_singleton.mp hl)
    · obtain ⟨p, hp, rfl⟩ := List.mem_map.mp hl
      exact .inr ⟨p, hp, rfl⟩
  unfold headLines at h
  split at h
  · rcases List.mem_append.mp h with hmem | hmem
    · rcases hsource line hmem with rfl | hp
      · exact .inl (by simp)
      · exact .inr (.inl hp)
    · rw [List.mem_singleton.mp hmem]
      exact .inl (by simp)
  · rcases List.mem_append.mp h with hmem | hmem
    · rcases List.mem_append.mp hmem with hmem | hmem
      · rcases hsource line hmem with rfl | hp
        · exact .inl (by simp)
        · exact .inr (.inl hp)
      · rcases List.mem_cons.mp hmem with rfl | hmem
        · exact .inl (by simp)
        · obtain ⟨f, hf, rfl⟩ := List.mem_map.mp hmem
          exact .inr (.inr ⟨f, hf, rfl⟩)
    · rw [List.mem_singleton.mp hmem]
      exact .inl (by simp)

theorem source_mem_headLines {c : Config} {p : Path} (h : p ∈ c.sources) :
    "# " ++ p.text ∈ headLines c := by
  have hsource : "# " ++ p.text ∈ sourceLines c := by
    unfold sourceLines
    rw [if_neg (by simpa using List.ne_nil_of_mem h)]
    exact List.mem_map.mpr ⟨p, h, rfl⟩
  unfold headLines
  split
  · exact List.mem_append_left _ hsource
  · exact List.mem_append_left _ (List.mem_append_left _ hsource)

theorem originLine_mem_headLines {c : Config} {f : Field} (h : f ∈ c.fields) :
    originLine f ∈ headLines c := by
  unfold headLines
  rw [if_neg (by simpa using List.ne_nil_of_mem h)]
  refine List.mem_append_left _ (List.mem_append_right _ (List.mem_cons_of_mem _ ?_))
  exact List.mem_map.mpr ⟨f, h, rfl⟩

/-- What is said of the scope of a field. -/
def scopeText (f : Field) : String := if f.isGlobal then " (global) -> " else " (local) -> "

theorem toList_originLine (f : Field) : (originLine f).toList =
    ['#', ' '] ++ (f.label.toList ++ ((scopeText f).toList ++ f.path.text.toList)) := by
  simp only [originLine, String.toList_append, List.append_assoc, scopeText]
  rfl

theorem toList_sourceLine (p : Path) : ("# " ++ p.text).toList = ['#', ' '] ++ p.text.toList :=
  String.toList_append

theorem isComment_of_mem_headLines {c : Config} {line : String} (h : line ∈ headLines c) :
    IsComment line := by
  rcases mem_headLines h with hmem | ⟨p, -, rfl⟩ | ⟨f, -, rfl⟩
  · simp only [List.mem_cons, List.not_mem_nil, or_false] at hmem
    rcases hmem with rfl | rfl | rfl | rfl
    · exact .inr ⟨_, rfl⟩
    · exact .inr ⟨_, rfl⟩
    · exact .inr ⟨_, rfl⟩
    · exact .inl rfl
  · exact .inr ⟨_, toList_sourceLine p⟩
  · exact .inr ⟨_, toList_originLine f⟩

/-- The texts between paths and labels are plain, so a block of comments is plain just if these
are. -/
theorem plain_headLines_iff {c : Config} (hpath : ∀ f ∈ c.fields, f.path ∈ c.sources) :
    (∀ line ∈ headLines c, Plain line.toList) ↔ c.Comments Plain := by
  have hscope (f : Field) : Plain (scopeText f).toList := by
    unfold scopeText
    split
    · decide
    · decide
  constructor
  · intro h
    refine ⟨fun p hp => ?_, fun f hf => ?_⟩
    · have hline := h _ (source_mem_headLines hp)
      rw [toList_sourceLine, plain_append_iff] at hline
      exact hline.2
    · have hline := h _ (originLine_mem_headLines hf)
      rw [toList_originLine, plain_append_iff, plain_append_iff] at hline
      exact hline.2.1
  · intro h line hline
    rcases mem_headLines hline with hmem | ⟨p, hp, rfl⟩ | ⟨f, hf, rfl⟩
    · simp only [List.mem_cons, List.not_mem_nil, or_false] at hmem
      rcases hmem with rfl | rfl | rfl | rfl <;> decide
    · rw [toList_sourceLine]
      exact plain_append_iff.mpr ⟨(by decide : Plain ['#', ' ']), h.source p hp⟩
    · rw [toList_originLine]
      refine plain_append_iff.mpr ⟨(by decide : Plain ['#', ' ']), ?_⟩
      refine plain_append_iff.mpr ⟨h.label f hf, plain_append_iff.mpr ⟨hscope f, ?_⟩⟩
      exact h.source _ (hpath f hf)

/-- The path of a configuration file does not end in half a line break. -/
theorem getLast?_text_child (dir : Path) : (dir.child fileName).text.toList.getLast? = some 'l' := by
  obtain ⟨front, hfront⟩ := dir.exists_text_child fileName
  have hname : fileName.toList.getLast? = some 'l' := by decide
  rw [hfront, String.toList_append, List.getLast?_append, hname]
  rfl

theorem isLine_of_mem_headLines {c : Config} (hpath : ∀ f ∈ c.fields, f.path ∈ c.sources)
    (hname : ∀ p ∈ c.sources, ∃ dir : Path, p = dir.child fileName)
    (h : c.Comments ('\n' ∉ ·)) {line : String} (hline : line ∈ headLines c) : IsLine line := by
  have hlast : ∀ p ∈ c.sources, p.text.toList.getLast? = some 'l' := by
    intro p hp
    obtain ⟨dir, rfl⟩ := hname p hp
    exact getLast?_text_child dir
  have hscope (f : Field) : '\n' ∉ (scopeText f).toList := by
    unfold scopeText
    split
    · decide
    · decide
  rcases mem_headLines hline with hmem | ⟨p, hp, rfl⟩ | ⟨f, hf, rfl⟩
  · simp only [List.mem_cons, List.not_mem_nil, or_false] at hmem
    unfold IsLine
    rcases hmem with rfl | rfl | rfl | rfl <;> decide
  · rw [IsLine, toList_sourceLine]
    refine ⟨by simpa using h.source p hp, ?_⟩
    rw [List.getLast?_append, hlast p hp]
    simp
  · rw [IsLine, toList_originLine]
    refine ⟨by simpa using ⟨h.label f hf, hscope f, h.source _ (hpath f hf)⟩, ?_⟩
    rw [List.getLast?_append, List.getLast?_append, List.getLast?_append, hlast _ (hpath f hf)]
    simp

theorem headLines_ne_nil (c : Config) : headLines c ≠ [] := by
  unfold headLines
  split <;> simp

/-- The fields after the comments. -/
theorem readAll?_fields (c : Config) {n : Nat}
    (hn : (if c.fields.isEmpty then "" else c.toToml).toList.length ≤ n) :
    (Document.empty.readAll? n (if c.fields.isEmpty then "" else c.toToml).toList).bind
      (fun d => File.ofEntries? d.root.entries) = some c.fieldsFile := by
  unfold fieldsFile
  cases hfields : c.fields with
  | nil =>
    cases n <;> rfl
  | cons f fs =>
    have hempty : Document.empty.root.defineRow [] "field" =
        some (Document.ofRows "field" ([] ++ [[]])).root := rfl
    have htext : c.toToml = "\n".intercalate ((f.entry :: fs.map Field.entry).map FieldEntry.write) := by
      unfold toToml writeFields
      rw [hfields, List.map_cons, if_neg (by simp)]
    simp only [hfields, List.isEmpty_cons, Bool.false_eq_true, if_false, htext] at hn ⊢
    rw [readAll?_writeAll f.entry (fs.map Field.entry) hempty hn, List.nil_append, Option.bind_some,
      File.ofEntries?_ofRows, List.map_cons]

theorem read?_showConfig_of_plain {c : Config} (hpath : ∀ f ∈ c.fields, f.path ∈ c.sources)
    (h : c.Comments Plain) : File.read? (showConfig c) = some c.fieldsFile := by
  have hplain := (plain_headLines_iff hpath).mpr h
  rw [showConfig_eq, File.read?, Toml.read?, String.toList_append,
    dropMark_unlines (headLines_ne_nil c) fun _ => isComment_of_mem_headLines]
  obtain ⟨m, hm, heq⟩ := readAll?_unlines (d := .empty) (fun _ => isComment_of_mem_headLines) hplain
    (Nat.le_refl ((unlines (headLines c)).toList ++
      (if c.fields.isEmpty then "" else c.toToml).toList).length)
  rw [heq, Option.bind_map]
  exact readAll?_fields c hm

theorem read?_showConfig_of_not_plain {c : Config} (hpath : ∀ f ∈ c.fields, f.path ∈ c.sources)
    (hname : ∀ p ∈ c.sources, ∃ dir : Path, p = dir.child fileName) (hline : c.Comments ('\n' ∉ ·))
    (h : ¬ c.Comments Plain) : File.read? (showConfig c) = none := by
  have hplain : ∃ line ∈ headLines c, ¬ Plain line.toList := by
    by_contra hnone
    refine h ((plain_headLines_iff hpath).mp fun line hmem => ?_)
    by_contra hnot
    exact hnone ⟨line, hmem, hnot⟩
  rw [showConfig_eq, File.read?, Toml.read?, String.toList_append,
    dropMark_unlines (headLines_ne_nil c) fun _ => isComment_of_mem_headLines,
    readAll?_unlines_of_not_plain (fun _ => isComment_of_mem_headLines)
      (fun _ => isLine_of_mem_headLines hpath hname hline) hplain]
  rfl

theorem outcome_config {t : FileTree} {home cwd : Path} {c : Config} (h : load t home cwd = .ok c) :
    Environment.outcome ⟨t, home, some cwd⟩ .config = some ⟨0, showConfig c, "", t⟩ := by
  simp [Environment.outcome, Environment.run, Environment.context, Command.needsConfig, h,
    Except.mapError, Except.map, Environment.runIn, Outcome.ofResult]

/-- **What is printed of a configuration reads back as its fields, as long as nothing in the comments
ends them.** Whenever there is a configuration, printing it succeeds. If no path and no label in it
has a control character, the whole of what is printed is read as a file with exactly its fields, none
if it has none, and without a root. If one has a control character, but none has a line feed, what is
printed cannot be read. -/
theorem config_output_reads_back {t : FileTree} {home cwd : Path} {c : Config}
    (h : load t home cwd = .ok c) :
    ∃ out, Environment.outcome ⟨t, home, some cwd⟩ .config = some out ∧ out.code = 0 ∧
      (c.Comments Plain → File.read? out.stdout = some c.fieldsFile) ∧
      (c.Comments ('\n' ∉ ·) → ¬ c.Comments Plain → File.read? out.stdout = none) := by
  obtain ⟨files, -, hmerge, hsources⟩ := load_eq_ok h
  have hpath : ∀ f ∈ c.fields, f.path ∈ c.sources := fun f => path_mem_sources hmerge
  have hname : ∀ p ∈ c.sources, ∃ dir : Path, p = dir.child fileName := by
    intro p hp
    rw [hsources] at hp
    exact (mem_discover hp).2
  exact ⟨_, outcome_config h, rfl, read?_showConfig_of_plain hpath,
    read?_showConfig_of_not_plain hpath hname⟩

/-- A directory with a configuration file of one field, whose label is written as given. -/
def labelTree (label : String) : FileTree :=
  ⟨[(["p"], .directory), (["p", ".sift.toml"],
    .file (.text ("[[field]]\nlabel = \"" ++ label ++ "\"\ntoken = \"t\"\n")))], []⟩

/-- A label that is plain, and one with a control character. -/
theorem config_output_reads_back_trip :
    (∃ c out, load (labelTree "TRIP") ⟨"/"⟩ ⟨"/p"⟩ = .ok c ∧ c.Comments Plain ∧
      Environment.outcome ⟨labelTree "TRIP", ⟨"/"⟩, some ⟨"/p"⟩⟩ .config = some out ∧ out.code = 0 ∧
      File.read? out.stdout = some c.fieldsFile) ∧
    ∃ c out, load (labelTree "A\\u0001") ⟨"/"⟩ ⟨"/p"⟩ = .ok c ∧
      Environment.outcome ⟨labelTree "A\\u0001", ⟨"/"⟩, some ⟨"/p"⟩⟩ .config = some out ∧
      File.read? out.stdout = none := by
  have hplain : (load (labelTree "TRIP") ⟨"/"⟩ ⟨"/p"⟩).toOption.any
      (fun c => decide (c.Comments Plain)) = true := by
    decide +kernel
  have hcontrol : (load (labelTree "A\\u0001") ⟨"/"⟩ ⟨"/p"⟩).toOption.any
      (fun c => decide (c.Comments ('\n' ∉ ·) ∧ ¬ c.Comments Plain)) = true := by
    decide +kernel
  constructor
  · cases hc : load (labelTree "TRIP") ⟨"/"⟩ ⟨"/p"⟩ with
    | error e => simp [hc, Except.toOption] at hplain
    | ok c =>
      have hcomments : c.Comments Plain := by simpa [hc, Except.toOption] using hplain
      obtain ⟨out, hout, hcode, hread, -⟩ := config_output_reads_back hc
      exact ⟨c, out, rfl, hcomments, hout, hcode, hread hcomments⟩
  · cases hc : load (labelTree "A\\u0001") ⟨"/"⟩ ⟨"/p"⟩ with
    | error e => simp [hc, Except.toOption] at hcontrol
    | ok c =>
      have hcomments : c.Comments ('\n' ∉ ·) ∧ ¬ c.Comments Plain := by
        simpa [hc, Except.toOption] using hcontrol
      obtain ⟨out, hout, -, -, hread⟩ := config_output_reads_back hc
      exact ⟨c, out, rfl, hout, hread hcomments.1 hcomments.2⟩

/-- After a line feed in a label, the rest of the label is no comment: what is printed cannot be read,
or says something that the configuration does not. -/
theorem line_feed_ends_comment :
    (∃ c out, load (labelTree "A\\nB") ⟨"/"⟩ ⟨"/p"⟩ = .ok c ∧
      Environment.outcome ⟨labelTree "A\\nB", ⟨"/"⟩, some ⟨"/p"⟩⟩ .config = some out ∧
      File.read? out.stdout = none) ∧
    ∃ c out, load (labelTree "A\\nroot = true #") ⟨"/"⟩ ⟨"/p"⟩ = .ok c ∧
      Environment.outcome ⟨labelTree "A\\nroot = true #", ⟨"/"⟩, some ⟨"/p"⟩⟩ .config = some out ∧
      (File.read? out.stdout).map File.isRoot = some true := by
  have hrefused : (load (labelTree "A\\nB") ⟨"/"⟩ ⟨"/p"⟩).toOption.map
      (fun c => File.read? (showConfig c)) = some none := by
    decide +kernel
  have hroot : (load (labelTree "A\\nroot = true #") ⟨"/"⟩ ⟨"/p"⟩).toOption.map
      (fun c => (File.read? (showConfig c)).map File.isRoot) = some (some true) := by
    decide +kernel
  constructor
  · cases hc : load (labelTree "A\\nB") ⟨"/"⟩ ⟨"/p"⟩ with
    | error e => simp [hc, Except.toOption] at hrefused
    | ok c => exact ⟨c, _, rfl, outcome_config hc, by simpa [hc, Except.toOption] using hrefused⟩
  · cases hc : load (labelTree "A\\nroot = true #") ⟨"/"⟩ ⟨"/p"⟩ with
    | error e => simp [hc, Except.toOption] at hroot
    | ok c => exact ⟨c, _, rfl, outcome_config hc, by simpa [hc, Except.toOption] using hroot⟩

end CommandLine

end SearchQuery
