import SearchQuery.Proofs.Merging
import SearchQuery.Proofs.TomlStrings

/-!
# A configuration written as a file

The fields of a configuration are written as a configuration file of their own. This file says the
same as all the files that the configuration was merged from.

* Every list of entries is read back as it was written (`File.read?_writeFields`). A line of the text
  is read at a time, and what has been read so far are the rows of one table
  (`Document.ofRows`, `readAll?_write`).
* Fields that have been checked pass all checks again in one file (`mergeEntries_map_entry`).
* `toToml_snapshot`: the file is read as the fields of the configuration, and merging it gives their
  rules and the same text again.
-/

namespace SearchQuery

/-! ## Lines of a document -/

namespace Toml

theorem exists_writeString_eq_cons (s : String) :
    ∃ q cs, (writeString s).toList = q :: cs ∧ (q = '"' ∨ q = '\'') := by
  rw [writeString, String.toList_ofList]
  cases formOf s.toList with
  | basic => exact ⟨'"', _, rfl, .inl rfl⟩
  | literal => exact ⟨'\'', _, rfl, .inr rfl⟩
  | basicLines => exact ⟨'"', _, rfl, .inl rfl⟩
  | literalLines => exact ⟨'\'', _, rfl, .inr rfl⟩

/-- A written string is read as a value. -/
theorem readValue?_writeString (n depth : Nat) (s : String) (rest : List Char) :
    readValue? (n + 1) depth (skipBlanks (' ' :: (writeString s).toList ++ '\n' :: rest)) =
      some (.string s, '\n' :: rest) := by
  have hread := readString?_writeString s rest
  obtain ⟨q, cs, hcs, hq⟩ := exists_writeString_eq_cons s
  rw [hcs, List.cons_append] at hread
  rw [hcs, List.cons_append, List.cons_append, skipBlanks,
    List.dropWhile_cons_of_pos (by decide)]
  rcases hq with rfl | rfl
  · rw [List.dropWhile_cons_of_neg (by decide), readValue?, hread]
    rfl
  · rw [List.dropWhile_cons_of_neg (by decide), readValue?, hread]
    rfl

namespace Document

/-- The document that holds the rows of one list, and is in the last of them. -/
def ofRows (key : String) (rows : List Entries) : Document :=
  ⟨⟨.header, [(key, .rows rows)]⟩, [key]⟩

variable {key name : String} {rows : List Entries} {row : Entries}

theorem put_ofRows (h : row.lookup name = none) (v : Value) :
    (ofRows key (rows ++ [row])).put [] name v = some (ofRows key (rows ++ [row ++ [(name, v)]])) := by
  have hput : Table.put false [] name v ⟨.header, row⟩ = some ⟨.header, row ++ [(name, v)]⟩ := by
    simp [Table.put, Table.alter, Table.get?, Table.add, h, Origin.isDotted]
  simp [put, ofRows, Table.alter, Table.get?, Table.set, hput]

theorem defineRow_ofRows :
    (ofRows key rows).root.defineRow [] key = some (ofRows key (rows ++ [[]])).root := by
  simp [ofRows, Table.defineRow, Table.alter, Table.get?, Table.set]

end Document

end Toml

namespace Config

open Toml

/-! ## Entries, written and read -/

/-- The table that an entry is written as. -/
def FieldEntry.row (e : FieldEntry) : Entries :=
  ("label", .string e.label) :: ((e.token.map fun t => ("token", Value.string t)).toList ++
    (e.pattern.map fun t => ("pattern", Value.string t)).toList)

theorem FieldEntry.ofEntries?_row (e : FieldEntry) : FieldEntry.ofEntries? e.row = some e := by
  obtain ⟨label, token, pattern⟩ := e
  cases token <;> cases pattern <;> rfl

/-- The header of an entry begins a new row. -/
theorem readLine?_header {d : Document} {rows : List Entries}
    (h : d.root.defineRow [] "field" = some (Document.ofRows "field" (rows ++ [[]])).root)
    (rest : List Char) :
    d.readLine? ("[[field]]\n".toList ++ rest) =
      some (Document.ofRows "field" (rows ++ [[]]), rest) := by
  have hkey : readKey? ("field]]\n".toList ++ rest) = some ([], "field", ']' :: ']' :: '\n' :: rest) :=
    rfl
  have hline : d.readLine? ("[[field]]\n".toList ++ rest) =
      d.readRowHeader? ("field]]\n".toList ++ rest) := rfl
  rw [hline, Document.readRowHeader?, hkey]
  simp only [Option.bind_eq_bind, Option.bind_some, h]
  rfl

/-- The name is read as a key of its own where an entry is expected. -/
structure PlainKey (name : String) : Prop where
  line : ∀ (d : Document) rest, d.readLine? (name.toList ++ rest) = d.readPair? (name.toList ++ rest)
  key : ∀ rest, readKey? (name.toList ++ (" = ".toList ++ rest)) = some ([], name, '=' :: ' ' :: rest)

theorem plainKey_label : PlainKey "label" := ⟨fun _ _ => rfl, fun _ => rfl⟩

theorem plainKey_token : PlainKey "token" := ⟨fun _ _ => rfl, fun _ => rfl⟩

theorem plainKey_pattern : PlainKey "pattern" := ⟨fun _ _ => rfl, fun _ => rfl⟩

/-- A key with a string adds to the last row. -/
theorem readLine?_pair {name : String} (hname : PlainKey name) (rows : List Entries) {row : Entries}
    (h : row.lookup name = none) (s : String) (rest : List Char) :
    (Document.ofRows "field" (rows ++ [row])).readLine? ((writePair name s).toList ++ rest) =
      some (Document.ofRows "field" (rows ++ [row ++ [(name, .string s)]]), rest) := by
  have htext : (writePair name s).toList ++ rest =
      name.toList ++ (" = ".toList ++ ((writeString s).toList ++ '\n' :: rest)) := by
    simp only [writePair, String.toList_append, List.append_assoc]
    rfl
  have hend : endOfLine? ('\n' :: rest) = some rest := rfl
  have hvalue (n : Nat) := readValue?_writeString n maxNesting s rest
  rw [htext, hname.line, Document.readPair?, hname.key]
  simp only [List.cons_append] at hvalue
  simp only [Option.bind_eq_bind, Option.bind_some, hvalue, Document.put_ofRows h, hend]
  rfl

/-! ## Documents, written and read -/

/-- A line that is read is followed by the rest of the document. -/
theorem readAll?_line {d d' : Document} {line rest : List Char} (hline : line ≠ [])
    (h : d.readLine? (line ++ rest) = some (d', rest)) {n : Nat}
    (hn : (line ++ rest).length ≤ n) :
    ∃ m, rest.length ≤ m ∧ d.readAll? n (line ++ rest) = d'.readAll? m rest := by
  obtain ⟨c, cs, rfl⟩ := List.exists_cons_of_ne_nil hline
  cases n with
  | zero => simp at hn
  | succ n =>
    refine ⟨n, ?_, ?_⟩
    · simp only [List.cons_append, List.length_cons, List.length_append] at hn
      omega
    · rw [List.cons_append] at h ⊢
      rw [Document.readAll?, h]
      rfl

/-- One optional key of an entry. -/
theorem readAll?_optional {name : String} (hname : PlainKey name) (rows : List Entries)
    {row : Entries} (h : row.lookup name = none) (value : Option String) (rest : List Char) {n : Nat}
    (hn : (((value.map (writePair name)).getD "").toList ++ rest).length ≤ n) :
    ∃ m, rest.length ≤ m ∧
      (Document.ofRows "field" (rows ++ [row])).readAll? n
        (((value.map (writePair name)).getD "").toList ++ rest) =
      (Document.ofRows "field" (rows ++ [row ++
        (value.map fun s => (name, Value.string s)).toList])).readAll? m rest := by
  cases value with
  | none => exact ⟨n, hn, by simp⟩
  | some s =>
    refine readAll?_line ?_ (readLine?_pair hname rows h s rest) hn
    simp [writePair]

/-- An entry is read as one more row. -/
theorem readAll?_write {d : Document} {rows : List Entries}
    (h : d.root.defineRow [] "field" = some (Document.ofRows "field" (rows ++ [[]])).root)
    (e : FieldEntry) (rest : List Char) {n : Nat} (hn : (e.write.toList ++ rest).length ≤ n) :
    ∃ m, rest.length ≤ m ∧ d.readAll? n (e.write.toList ++ rest) =
      (Document.ofRows "field" (rows ++ [e.row])).readAll? m rest := by
  have htext : e.write.toList ++ rest =
      "[[field]]\n".toList ++ ((writePair "label" e.label).toList ++
        (((e.token.map (writePair "token")).getD "").toList ++
          (((e.pattern.map (writePair "pattern")).getD "").toList ++ rest))) := by
    simp only [FieldEntry.write, String.toList_append, List.append_assoc]
  rw [htext] at hn ⊢
  have hlabel : ([] : Entries).lookup "label" = none := rfl
  have htoken : ([("label", .string e.label)] : Entries).lookup "token" = none := rfl
  have hpattern : ([("label", .string e.label)] ++
      (e.token.map fun s => ("token", .string s)).toList : Entries).lookup "pattern" = none := by
    cases e.token <;> rfl
  obtain ⟨n₁, hn₁, heq₁⟩ := readAll?_line (by decide) (readLine?_header h _) hn
  obtain ⟨n₂, hn₂, heq₂⟩ := readAll?_line (by simp [writePair])
    (readLine?_pair plainKey_label rows hlabel e.label _) hn₁
  obtain ⟨n₃, hn₃, heq₃⟩ := readAll?_optional plainKey_token rows htoken e.token _ hn₂
  obtain ⟨n₄, hn₄, heq₄⟩ := readAll?_optional plainKey_pattern rows hpattern e.pattern _ hn₃
  refine ⟨n₄, hn₄, ?_⟩
  rw [heq₁, heq₂]
  rw [List.nil_append, heq₃, heq₄]
  rfl

theorem readAll?_writeAll {d : Document} {rows : List Entries} (e : FieldEntry)
    (es : List FieldEntry)
    (h : d.root.defineRow [] "field" = some (Document.ofRows "field" (rows ++ [[]])).root) {n : Nat}
    (hn : ("\n".intercalate ((e :: es).map FieldEntry.write)).toList.length ≤ n) :
    d.readAll? n ("\n".intercalate ((e :: es).map FieldEntry.write)).toList =
      some (Document.ofRows "field" (rows ++ (e :: es).map FieldEntry.row)) := by
  induction es generalizing d rows e n with
  | nil =>
    have htext : ("\n".intercalate ([e].map FieldEntry.write)).toList = e.write.toList ++ [] := by
      simp
    rw [htext] at hn ⊢
    obtain ⟨m, -, heq⟩ := readAll?_write h e [] hn
    rw [heq]
    cases m <;> rfl
  | cons e' es ih =>
    have htext : ("\n".intercalate ((e :: e' :: es).map FieldEntry.write)).toList =
        e.write.toList ++ (['\n'] ++ ("\n".intercalate ((e' :: es).map FieldEntry.write)).toList) := by
      rw [List.map_cons, List.map_cons, String.intercalate_cons_cons, String.toList_append,
        String.toList_append, List.append_assoc]
      rfl
    rw [htext] at hn ⊢
    obtain ⟨m, hm, heq⟩ := readAll?_write h e _ hn
    have hblank : (Document.ofRows "field" (rows ++ [e.row])).readLine?
        (['\n'] ++ ("\n".intercalate ((e' :: es).map FieldEntry.write)).toList) =
        some (_, ("\n".intercalate ((e' :: es).map FieldEntry.write)).toList) := rfl
    obtain ⟨k, hk, heq'⟩ := readAll?_line (by simp) hblank hm
    rw [heq, heq', ih e' Document.defineRow_ofRows hk, List.append_assoc]
    rfl

theorem mapM_ofEntries?_row (es : List FieldEntry) :
    (es.map FieldEntry.row).mapM FieldEntry.ofEntries? = some es := by
  induction es with
  | nil => rfl
  | cons e es ih => simp [ih, FieldEntry.ofEntries?_row]

/-- The file that the rows of entries make. -/
theorem File.ofEntries?_ofRows (es : List FieldEntry) :
    File.ofEntries? (Document.ofRows "field" (es.map FieldEntry.row)).root.entries =
      some ⟨none, some es⟩ := by
  have hfile : File.ofEntries? (Document.ofRows "field" (es.map FieldEntry.row)).root.entries =
      ((es.map FieldEntry.row).mapM FieldEntry.ofEntries?).map
        fun fields => ⟨none, some fields⟩ := by
    simp only [Document.ofRows, File.ofEntries?, List.foldlM_cons, List.foldlM_nil]
    exact bind_pure _
  rw [hfile, mapM_ofEntries?_row]
  rfl

/-- A text that begins with a header has no byte order mark. -/
theorem dropMark_write (e : FieldEntry) (rest : List Char) :
    dropMark (e.write.toList ++ rest) = e.write.toList ++ rest := by
  simp only [FieldEntry.write, String.toList_append, List.append_assoc]
  rfl

/-- **Every list of entries is read back as it was written.** -/
theorem File.read?_writeFields (es : List FieldEntry) :
    File.read? (writeFields es) = some ⟨none, some es⟩ := by
  cases es with
  | nil => decide +kernel
  | cons e es =>
    obtain ⟨more, htext⟩ : ∃ more,
        ("\n".intercalate ((e :: es).map FieldEntry.write)).toList = e.write.toList ++ more := by
      cases es with
      | nil => exact ⟨[], by simp⟩
      | cons e' es =>
        rw [List.map_cons, List.map_cons, String.intercalate_cons_cons, String.toList_append,
          String.toList_append, List.append_assoc]
        exact ⟨_, rfl⟩
    have hempty : Document.empty.root.defineRow [] "field" =
        some (Document.ofRows "field" ([] ++ [[]])).root := rfl
    have hread := readAll?_writeAll e es hempty (Nat.le_refl _)
    have hentries : Toml.read? (writeFields (e :: es)) =
        some (Document.ofRows "field" ((e :: es).map FieldEntry.row)).root.entries := by
      rw [Toml.read?, writeFields, if_neg (by simp)]
      rw [htext] at hread ⊢
      rw [dropMark_write, hread]
      rfl
    rw [File.read?, hentries, Option.bind_some, File.ofEntries?_ofRows]

/-! ## Merging the written file -/

/-- A field as another file would define it. -/
def Field.inFile (f : Field) (globalPath path : Path) : Field :=
  { f with path := path, isGlobal := path.sameAs globalPath }

theorem Field.label_entry (f : Field) : f.entry.label = f.label := by
  unfold Field.entry
  cases f.source <;> rfl

theorem Field.source_entry (f : Field) : f.entry.source = .ok f.source := by
  unfold Field.entry
  cases f.source <;> rfl

theorem checkEntry_entry {f : Field} (hlabel : LabelAllowed f.label)
    (hrule : f.source.rule f.label = .ok f.rule) (globalPath path : Path) :
    checkEntry globalPath path f.entry = .ok (f.inFile globalPath path) := by
  rw [checkEntry_eq_ok_iff, f.label_entry]
  exact ⟨labelProblem?_eq_none_iff.mpr hlabel, f.source_entry, hrule, rfl, rfl, rfl⟩

theorem mapM_checkEntry_entry (globalPath path : Path) {fs : List Field}
    (hchecked : ∀ f ∈ fs, LabelAllowed f.label ∧ f.source.rule f.label = .ok f.rule) :
    (fs.map Field.entry).mapM (checkEntry globalPath path) =
      .ok (fs.map (·.inFile globalPath path)) := by
  induction fs with
  | nil => rfl
  | cons f fs ih =>
    obtain ⟨hlabel, hrule⟩ := hchecked f (List.mem_cons_self ..)
    rw [List.map_cons, List.mapM_cons, checkEntry_entry hlabel hrule,
      ih fun f' hf' => hchecked f' (List.mem_cons_of_mem f hf')]
    rfl

/-- Fields that have been checked, with labels that are all different, pass as the entries of one
file. -/
theorem mergeEntries_map_entry (globalPath path : Path) {fs : List Field}
    (hchecked : ∀ f ∈ fs, LabelAllowed f.label ∧ f.source.rule f.label = .ok f.rule)
    {own : List String} {fields : List Field}
    (hdistinct : (fs.map (·.label)).Nodup)
    (hown : ∀ f ∈ fs, f.label ∉ own ∧ f.label ∉ fields.map (·.label)) :
    mergeEntries globalPath path (fs.map Field.entry) own fields =
      .ok (fields ++ fs.map (·.inFile globalPath path)) := by
  have hlabels : (fs.map Field.entry).map (·.label) = fs.map (·.label) := by
    rw [List.map_map]
    exact List.map_congr_left fun f _ => f.label_entry
  have hentry : ∀ e ∈ fs.map Field.entry, e.label ∉ own ∧ e.label ∉ fields.map (·.label) := by
    intro e he
    obtain ⟨f, hf, rfl⟩ := List.mem_map.mp he
    rw [f.label_entry]
    exact hown f hf
  rw [mergeEntries_of_nodup (hlabels ▸ hdistinct) (fun e he => (hentry e he).1)
    fun e he => (hentry e he).2, mapM_checkEntry_entry globalPath path hchecked]
  rfl

theorem scanner_eq_of_rules {c c' : Config} (h : c'.rules = c.rules) : c'.scanner = c.scanner := by
  rw [scanner, scanner, register, register, h]

/-- **A configuration written as a file says the same.** The file is read, under whatever path, as the
fields of the configuration in order, each with its label and the one of its two patterns that it
has, and it does not declare itself the root. Merging it alone gives a configuration with the same
labels, patterns and rules in the same order, so with the same scanner, and this one is written in
the same way. -/
theorem toToml_snapshot {globalPath : Path} {files : List (Path × File)} {c : Config}
    (h : merge globalPath files = .ok c) (globalPath' path : Path) :
    ∃ file, File.read? c.toToml = some file ∧ file.root = none ∧
      file.fields = some (c.fields.map Field.entry) ∧
      ∃ c', merge globalPath' [(path, file)] = .ok c' ∧
        c'.fields.map (fun f => (f.label, f.source, f.rule)) =
          c.fields.map (fun f => (f.label, f.source, f.rule)) ∧
        c'.scanner = c.scanner ∧ c'.toToml = c.toToml := by
  have hmerged : mergeEntries globalPath' path (c.fields.map Field.entry) [] [] =
      .ok ([] ++ c.fields.map (·.inFile globalPath' path)) :=
    mergeEntries_map_entry globalPath' path (checked_of_merge h) (nodup_labels_of_merge h) (by simp)
  refine ⟨⟨none, some (c.fields.map Field.entry)⟩, File.read?_writeFields _, rfl, rfl,
    ⟨c.fields.map (·.inFile globalPath' path), [path]⟩, ?_, ?_, ?_, ?_⟩
  · simp only [merge, mergeFields, Option.getD_some, hmerged]
    rfl
  · rw [List.map_map]
    rfl
  · refine scanner_eq_of_rules ?_
    rw [rules, rules, List.map_map]
    rfl
  · rw [toToml, toToml, List.map_map]
    rfl

/-- Two files, of which the outer one is hidden in part; labels and patterns have quotes, backslashes
and a line break in them. -/
theorem toToml_snapshot_quotes :
    let outer : File := ⟨none, some [⟨"TRIP", some "(", none⟩,
      ⟨"it's \"so\"\n", none, some "(?s)^('\"\\d+)(.*)$"⟩]⟩
    let inner : File := ⟨some false, some [⟨"TRIP", some "trip:\\d+", none⟩]⟩
    ∃ c, merge ⟨"/h/.sift.toml"⟩ [(⟨"/a/b/.sift.toml"⟩, inner), (⟨"/a/.sift.toml"⟩, outer)] = .ok c ∧
      ∃ file, File.read? c.toToml = some file ∧ file.root = none ∧
        file.fields = some (c.fields.map Field.entry) ∧
        ∃ c', merge ⟨"/h/.sift.toml"⟩ [(⟨"out.toml"⟩, file)] = .ok c' ∧
          c'.fields.map (fun f => (f.label, f.source, f.rule)) =
            c.fields.map (fun f => (f.label, f.source, f.rule)) ∧
          c'.scanner = c.scanner ∧ c'.toToml = c.toToml := by
  intro outer inner
  have hok : (merge ⟨"/h/.sift.toml"⟩
      [(⟨"/a/b/.sift.toml"⟩, inner), (⟨"/a/.sift.toml"⟩, outer)]).isOk = true := by
    decide +kernel
  cases hmerge : merge ⟨"/h/.sift.toml"⟩
      [(⟨"/a/b/.sift.toml"⟩, inner), (⟨"/a/.sift.toml"⟩, outer)] with
  | error err => simp [hmerge, Except.isOk, Except.toBool] at hok
  | ok c => exact ⟨c, rfl, toToml_snapshot hmerge ⟨"/h/.sift.toml"⟩ ⟨"out.toml"⟩⟩

end Config

end SearchQuery
