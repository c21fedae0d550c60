import SearchQuery.Proofs.Cuts

/-!
# Queries made of tokens and white space

With rules of the caller that are made from patterns for the token alone, nothing of a query is
lost: its tokens, at their positions, and the white space between them are the query.

* `Tiles p text ts`: the text, before which there are `p` characters, is made of the tokens `ts` and
  white space between them.
* `Scanner.Tiled`: what a scanner has processed and what it has still to read are the query, and its
  position counts the characters of the former. A step keeps this (`Scanner.Tiled.stepped`), and so
  does `advance`, which tiles what it takes (`Scanner.Tiled.exists_advance`).
* `Session`: a scanner in use, with the tokens that it has given since the query was read. Whatever
  is done with it, the tokens tile what has been processed (`Session.Tiled.run`).
-/

namespace SearchQuery

open Text

/-! ## Texts made of tokens -/

/-- `Tiles p text ts`: the text, before which there are `p` characters, is made of the tokens `ts`,
none of them empty, and of white space before, between and after them. -/
inductive Tiles : Nat → List Char → List Token → Prop
  | blank {p : Nat} {ws : List Char} (hw : ∀ c ∈ ws, isWhiteSpace c = true) : Tiles p ws []
  | token {p : Nat} {ws rest : List Char} {k : Kind} {x : String} {ts : List Token}
      (hw : ∀ c ∈ ws, isWhiteSpace c = true) (hx : x ≠ "")
      (h : Tiles (p + ws.length + x.length) rest ts) :
      Tiles p (ws ++ (x.toList ++ rest)) (⟨k, some x, p + ws.length⟩ :: ts)

namespace Tiles

variable {p : Nat} {text : List Char} {ts : List Token}

theorem blank_append {ws : List Char} (hw : ∀ c ∈ ws, isWhiteSpace c = true)
    (h : Tiles (p + ws.length) text ts) : Tiles p (ws ++ text) ts := by
  cases h with
  | blank hw' => exact .blank (List.forall_mem_append.mpr ⟨hw, hw'⟩)
  | token hw' hx h =>
    rename_i ws' rest k x ts
    have hws : ∀ c ∈ ws ++ ws', isWhiteSpace c = true := List.forall_mem_append.mpr ⟨hw, hw'⟩
    have hlen : p + ws.length + ws'.length = p + (ws ++ ws').length := by
      rw [List.length_append, Nat.add_assoc]
    rw [← List.append_assoc, hlen]
    exact .token hws hx (hlen ▸ h)

/-- Texts side by side have the tokens of both. -/
theorem append {text' : List Char} {ts' : List Token} (h : Tiles p text ts)
    (h' : Tiles (p + text.length) text' ts') : Tiles p (text ++ text') (ts ++ ts') := by
  induction h with
  | blank hw => exact blank_append hw h'
  | token hw hx h ih =>
    rename_i p ws rest k x ts
    have hlen : p + (ws ++ (x.toList ++ rest)).length = p + ws.length + x.length + rest.length := by
      simp only [List.length_append, String.length_toList]
      omega
    rw [List.append_assoc, List.append_assoc, List.cons_append]
    exact .token hw hx (ih (hlen ▸ h'))

/-- There are no more tokens than characters. -/
theorem length_le (h : Tiles p text ts) : ts.length ≤ text.length := by
  induction h with
  | blank hw => exact Nat.zero_le _
  | token hw hx h ih =>
    rename_i p ws rest k x ts
    have hpos : x.length ≠ 0 := by
      rwa [ne_eq, ← String.length_toList, List.length_eq_zero_iff, String.toList_eq_nil_iff]
    simp only [List.length_cons, List.length_append, String.length_toList]
    omega

/-- Every token stands at its position, also if there is more text. -/
theorem prefix_drop (h : Tiles p text ts) (more : List Char) :
    ∀ t ∈ ts, ∃ x, t.text = some x ∧ x ≠ "" ∧ p ≤ t.position ∧
      x.toList <+: (text ++ more).drop (t.position - p) := by
  induction h with
  | blank hw => simp
  | token hw hx h ih =>
    rename_i p ws rest k x ts
    intro t ht
    rcases List.mem_cons.mp ht with rfl | ht
    · refine ⟨x, rfl, hx, Nat.le_add_right .., ?_⟩
      rw [Nat.add_sub_cancel_left, List.append_assoc, List.drop_left, List.append_assoc]
      exact List.prefix_append ..
    · obtain ⟨y, hy, hne, hle, hprefix⟩ := ih t ht
      refine ⟨y, hy, hne, by omega, ?_⟩
      have hsplit : t.position - p =
          ws.length + (x.toList.length + (t.position - (p + ws.length + x.length))) := by
        rw [String.length_toList]
        omega
      rw [hsplit, List.append_assoc, List.append_assoc, List.drop_length_add_append,
        List.drop_length_add_append]
      exact hprefix

end Tiles

/-- The token as a list, which is empty for the end of a query. -/
def Token.unlessEnd (t : Token) : List Token := if t.isEnd then [] else [t]

/-! ## Rules for tokens -/

namespace Rule

/-- The rule is a field of the caller and was made from a pattern for the token alone. -/
def IsTokenField (r : Rule) : Prop := ∃ label token, ofToken (.field label) token = .ok r

theorem IsTokenField.isField {r : Rule} (h : r.IsTokenField) : r.kind.isField = true := by
  obtain ⟨label, token, h⟩ := h
  obtain ⟨p, -, rfl⟩ := ofToken_eq_ok h
  rfl

theorem IsTokenField.adjoins {r : Rule} (h : r.IsTokenField) (text : List Char) :
    r.adjoins text = true := by
  obtain ⟨label, token, h⟩ := h
  exact adjoins_of_ofToken h text

theorem kind_ne_finish_of_mem_builtins : ∀ r ∈ builtins, r.kind ≠ .finish := by
  decide

theorem eq_whiteSpaceRule_of_mem_builtins :
    ∀ r ∈ builtins, r.kind = .whiteSpace → r = whiteSpaceRule := by
  decide

end Rule

/-! ## Steps of a scanner -/

namespace Scanner

/-- What has been processed and what is still to be read are the query, the position counts the
characters of the former, and the rules of the caller are made from patterns for the token alone. -/
structure Tiled (s : Scanner) : Prop where
  fields : ∀ r ∈ s.fields, r.IsTokenField
  append_eq : s.processed.toList ++ s.rest = s.input.toList
  position_eq : s.position = s.processed.length

variable {s s' : Scanner}

theorem tiled_ofRules {fields : List Rule} (h : ∀ r ∈ fields, r.IsTokenField) :
    (ofRules fields).Tiled := ⟨h, rfl, rfl⟩

theorem processed_stepped (s : Scanner) : s.stepped.processed = s.processed ++ s.lexeme.text := by
  unfold stepped
  split <;> rfl

namespace Tiled

theorem read (h : s.Tiled) (input : String) : (s.read input).Tiled := ⟨h.fields, rfl, rfl⟩

theorem register (h : s.Tiled) {r : Rule} (hr : r.IsTokenField) : (s.register r).Tiled := by
  refine ⟨?_, h.append_eq, h.position_eq⟩
  exact List.forall_mem_append.mpr ⟨h.fields, List.forall_mem_singleton.mpr hr⟩

/-- The last token may be any. -/
theorem setLast (h : s.Tiled) (t : Token) : Tiled { s with last := t } :=
  ⟨h.fields, h.append_eq, h.position_eq⟩

theorem lexeme_append (h : s.Tiled) : s.lexeme.text.toList ++ s.lexeme.rest = s.rest :=
  s.lexeme_append_iff.mpr (adjoins_of_fields fun r hr => (h.fields r hr).adjoins)

/-- **A step loses nothing.** -/
theorem stepped (h : s.Tiled) : s.stepped.Tiled where
  fields := by
    rw [fields_stepped]
    exact h.fields
  append_eq := by
    rw [processed_stepped, rest_stepped, input_stepped, String.toList_append, List.append_assoc,
      h.lexeme_append, h.append_eq]
  position_eq := by
    rw [position_stepped, processed_stepped, String.length_append, h.position_eq]

theorem not_stalls (h : s.Tiled) (hs : s.rest ≠ []) : ¬ s.Stalls := by
  intro hstalls
  have happend := h.lexeme_append
  rw [lexeme_rest_of_stalls hstalls, List.append_left_eq_self, String.toList_eq_nil_iff] at happend
  exact lexeme_text_ne_empty hs happend

/-- The next token is of a field, or of a built-in rule. -/
theorem chosen?_cases (h : s.Tiled) {r : Rule} (hr : s.chosen? = some r) :
    r.kind.isField = true ∨ r ∈ Rule.builtins :=
  (mem_of_chosen? hr).imp_left fun hmem => (h.fields r hmem).isField

/-- No token but the one at the end of a query is an end. -/
theorem lexeme_kind_ne_finish (h : s.Tiled) (hs : s.rest ≠ []) : s.lexeme.kind ≠ .finish := by
  obtain ⟨r, hr⟩ := Option.isSome_iff_exists.mp (chosen?_isSome hs)
  obtain ⟨token, -, -, hkind⟩ := lexeme?_eq_some (lexeme?_of_chosen? hr)
  rw [hkind]
  rcases h.chosen?_cases hr with hfield | hmem
  · intro hk
    simp [hk, Kind.isField] at hfield
  · exact Rule.kind_ne_finish_of_mem_builtins r hmem

/-- What is skipped is white space. -/
theorem lexeme_text_blank (h : s.Tiled) (hs : s.rest ≠ []) (hk : s.lexeme.kind = .whiteSpace) :
    ∀ c ∈ s.lexeme.text.toList, isWhiteSpace c = true := by
  obtain ⟨r, hr⟩ := Option.isSome_iff_exists.mp (chosen?_isSome hs)
  obtain ⟨token, hcut, htext, hkind⟩ := lexeme?_eq_some (lexeme?_of_chosen? hr)
  have hwhite : r = Rule.whiteSpaceRule := by
    rw [hkind] at hk
    rcases h.chosen?_cases hr with hfield | hmem
    · simp [hk, Kind.isField] at hfield
    · exact Rule.eq_whiteSpaceRule_of_mem_builtins r hmem hk
  obtain ⟨c, cs, hrest⟩ := List.exists_cons_of_ne_nil hs
  rw [hwhite, hrest, Rule.cut?_whiteSpaceRule] at hcut
  split at hcut
  · next hc =>
    obtain ⟨rfl, -⟩ := Prod.mk.inj (Option.some.inj hcut)
    rw [htext, String.toList_ofList]
    intro d hd
    rcases List.mem_cons.mp hd with rfl | hd
    · exact hc
    · exact List.mem_takeWhile_imp hd
  · simp at hcut

/-- Between two points of a query, the position grows by the characters between them. -/
theorem processed_eq (h : s.Tiled) (h' : s'.Tiled) (hinput : s'.input = s.input)
    {taken : List Char} (htaken : s.rest = taken ++ s'.rest) :
    s'.processed.toList = s.processed.toList ++ taken ∧
      s'.position = s.position + taken.length := by
  have hprocessed : s'.processed.toList = s.processed.toList ++ taken := by
    have heq : s'.processed.toList ++ s'.rest = s.processed.toList ++ taken ++ s'.rest := by
      rw [h'.append_eq, hinput, ← h.append_eq, htaken, List.append_assoc]
    exact List.append_cancel_right heq
  refine ⟨hprocessed, ?_⟩
  rw [h'.position_eq, h.position_eq, ← String.length_toList, hprocessed, List.length_append,
    String.length_toList]

theorem reaches (h : s.Tiled) (hr : s.Reaches s') : s'.Tiled :=
  hr.keeps h fun _ _ h₁ => h₁.stepped

/-- Blank text is skipped without loss. -/
theorem skips (h : s.Tiled) (hskips : s.Skips s') :
    s'.Tiled ∧ ∃ ws, (∀ c ∈ ws, isWhiteSpace c = true) ∧ s.rest = ws ++ s'.rest := by
  induction hskips with
  | refl s => exact ⟨h, [], by simp, rfl⟩
  | blank hs hk hskips ih =>
    rename_i s s'
    obtain ⟨h', ws, hws, hrest⟩ := ih h.stepped
    refine ⟨h', s.lexeme.text.toList ++ ws, ?_, ?_⟩
    · exact List.forall_mem_append.mpr ⟨h.lexeme_text_blank hs hk, hws⟩
    · rw [List.append_assoc, ← hrest, rest_stepped, h.lexeme_append]

end Tiled

/-- **The next token is always found, and it tiles what is taken.** At the end of the query there is
nothing left to read. -/
theorem Tiled.exists_advance (h : s.Tiled) :
    ∃ t s' taken, s.advance = some (t, s') ∧ s'.Tiled ∧ s'.input = s.input ∧ s'.last = t ∧
      s.rest = taken ++ s'.rest ∧ Tiles s.position taken t.unlessEnd ∧
      (t.isEnd = true → s'.rest = [] ∧ t = .endAt s'.position) := by
  obtain ⟨s₁, hskips, hcases⟩ := advance_cases s
  obtain ⟨h₁, ws, hws, hrest⟩ := h.skips hskips
  have hinput : s₁.input = s.input := hskips.reaches.input_eq
  rcases hcases with ⟨hs, ha⟩ | ⟨hs, hk, ha⟩ | ⟨hs, -, hstalls, -⟩
  · exact ⟨_, _, ws, ha, h₁.setLast _, hinput, rfl, hrest, .blank hws, fun _ => ⟨hs, rfl⟩⟩
  · have hend : s₁.scan.1.isEnd = false := decide_eq_false (h₁.lexeme_kind_ne_finish hs)
    have hposition : s₁.position = s.position + ws.length := (h.processed_eq h₁ hinput hrest).2
    have hlast : s₁.stepped.last = s₁.scan.1 := by
      rw [Scanner.stepped, if_neg (by simpa [scan_fst] using hk)]
    have htiles : Tiles s.position (ws ++ (s₁.lexeme.text.toList ++ [])) [s₁.scan.1] := by
      rw [scan_fst, hposition]
      exact .token hws (lexeme_text_ne_empty hs) (.blank (by simp))
    refine ⟨_, _, ws ++ s₁.lexeme.text.toList, ha, h₁.stepped, (input_stepped s₁).trans hinput,
      hlast, ?_, ?_, ?_⟩
    · rw [hrest, ← h₁.lexeme_append, rest_stepped, List.append_assoc]
    · rw [Token.unlessEnd, if_neg (by simp [hend])]
      simpa using htiles
    · simp [hend]
  · exact absurd hstalls (h₁.not_stalls hs)

/-- As many tokens as there are characters, and one more, are enough to come to the end, and they
tile all that was still to be read. -/
theorem Tiled.exists_tokensWithin {n : Nat} (h : s.Tiled) (hn : s.rest.length < n) :
    ∃ ts s', s.tokensWithin n = some (ts, s') ∧ s'.Tiled ∧ s'.input = s.input ∧ s'.rest = [] ∧
      s'.last = .endAt s'.position ∧ Tiles s.position s.rest ts := by
  induction n generalizing s with
  | zero => omega
  | succ n ih =>
    obtain ⟨t, s₁, taken, ha, h₁, hinput, hlast, hrest, htiles, hend⟩ := h.exists_advance
    rw [tokensWithin, ha]
    cases ht : t.isEnd with
    | true =>
      obtain ⟨hs₁, heq⟩ := hend ht
      rw [Token.unlessEnd, if_pos ht] at htiles
      rw [hs₁, List.append_nil] at hrest
      exact ⟨[], s₁, by simp [ht], h₁, hinput, hs₁, hlast.trans heq, hrest ▸ htiles⟩
    | false =>
      rw [Token.unlessEnd, if_neg (by simp [ht])] at htiles
      -- The token is not empty, so less is left than before.
      have hlen := congrArg List.length hrest
      have htaken := htiles.length_le
      rw [List.length_append] at hlen
      rw [List.length_singleton] at htaken
      obtain ⟨ts, s', hts, h', hinput', hs', hlast', htiles'⟩ := ih h₁ (by omega)
      rw [(h.processed_eq h₁ hinput hrest).2] at htiles'
      refine ⟨t :: ts, s', ?_, h', hinput'.trans hinput, hs', hlast', ?_⟩
      · simp [hts, ht]
      · rw [hrest]
        exact htiles.append htiles'

theorem Tiled.position_of_end (h : s.Tiled) (hs : s.rest = []) : s.position = s.input.length := by
  have happend := h.append_eq
  rw [hs, List.append_nil, String.toList_inj] at happend
  rw [h.position_eq, happend]

/-- At the end of the query, only the last token changes. -/
theorem Tiled.advance_of_end (h : s.Tiled) (hs : s.rest = []) :
    s.advance = some (.endAt s.input.length, { s with last := .endAt s.input.length }) := by
  rw [advance_eq, if_pos hs, h.position_of_end hs]

/-- **The tokens of a query tile it**, and after them there is nothing but its end. -/
theorem Tiled.exists_tokenize (h : s.Tiled) (input : String) :
    ∃ ts s', s.tokenize input = some (ts, s') ∧ s'.Tiled ∧ s'.processed = input ∧
      Tiles 0 input.toList ts ∧ s'.advance = some (.endAt input.length, s') := by
  have hn : (s.read input).rest.length < input.length + 1 :=
    Nat.lt_succ_of_le (Nat.le_of_eq String.length_toList)
  obtain ⟨ts, s', hts, h', hinput, hs', hlast, htiles⟩ := (h.read input).exists_tokensWithin hn
  have hinput : s'.input = input := hinput
  have happend := h'.append_eq
  rw [hs', List.append_nil, String.toList_inj, hinput] at happend
  refine ⟨ts, s', hts, h', happend, htiles, ?_⟩
  rw [h'.position_of_end hs'] at hlast
  calc
    s'.advance = some (.endAt s'.input.length, { s' with last := .endAt s'.input.length }) :=
      h'.advance_of_end hs'
    _ = some (s'.last, s') := by rw [← hlast]
    _ = some (.endAt input.length, s') := by rw [hlast, hinput]

/-! ## Bytes -/

/-- The number of bytes of the query that are no longer to be read, as a place in the query. -/
def offset (s : Scanner) : String.Pos.Raw := ⟨s.input.utf8ByteSize - s.remaining.utf8ByteSize⟩

theorem Tiled.processed_append (h : s.Tiled) : s.processed ++ s.remaining = s.input := by
  rw [← String.toList_inj, String.toList_append, remaining, String.toList_ofList, h.append_eq]

theorem Tiled.offset_eq (h : s.Tiled) : s.offset = s.processed.rawEndPos := by
  rw [offset, ← h.processed_append, String.utf8ByteSize_append, Nat.add_sub_cancel]
  rfl

/-- The place is between two characters. -/
theorem Tiled.isValid_offset (h : s.Tiled) : s.offset.IsValid s.input :=
  String.Pos.Raw.isValid_iff_exists_append.mpr
    ⟨s.processed, s.remaining, h.processed_append.symm, h.offset_eq⟩

end Scanner

/-! ## Scanners in use -/

/-- What can be done with a scanner. -/
inductive Action where
  | read (input : String)
  | advance
  | tokenize (input : String)
  | register (r : Rule)

/-- No rule is registered but fields that are made from a pattern for the token alone. -/
def Action.Allowed : Action → Prop
  | register r => r.IsTokenField
  | _ => True

/-- A scanner in use. -/
structure Session where
  scanner : Scanner
  /-- The tokens that the scanner has given since the query was read, without its end. -/
  given : List Token

namespace Session

/-- The beginning of a session with a new scanner. -/
def start (fields : List Rule) : Session := ⟨.ofRules fields, []⟩

/-- Does something with the scanner. There is no answer if the scanner never ends. -/
def act (x : Session) : Action → Option Session
  | .read input => some ⟨x.scanner.read input, []⟩
  | .advance => x.scanner.advance.map fun (t, s) => ⟨s, x.given ++ t.unlessEnd⟩
  | .tokenize input => (x.scanner.tokenize input).map fun (ts, s) => ⟨s, ts⟩
  | .register r => some ⟨x.scanner.register r, x.given⟩

/-- Does one thing after the other. -/
def run (x : Session) (actions : List Action) : Option Session := actions.foldlM act x

/-- The scanner has lost nothing, and its tokens tile what it has processed. -/
structure Tiled (x : Session) : Prop where
  scanner : x.scanner.Tiled
  given : Tiles 0 x.scanner.processed.toList x.given

/-- **Whatever is done with the scanner, it ends, and nothing is lost.** -/
theorem Tiled.act {x : Session} {a : Action} (h : x.Tiled) (ha : a.Allowed) :
    ∃ y, x.act a = some y ∧ y.Tiled := by
  cases a with
  | read input => exact ⟨_, rfl, h.scanner.read input, .blank (by simp [Scanner.read])⟩
  | advance =>
    obtain ⟨t, s, taken, hadvance, hs, hinput, -, hrest, htiles, -⟩ := h.scanner.exists_advance
    refine ⟨⟨s, x.given ++ t.unlessEnd⟩, by simp [Session.act, hadvance], hs, ?_⟩
    rw [(h.scanner.processed_eq hs hinput hrest).1]
    refine h.given.append ?_
    rwa [Nat.zero_add, String.length_toList, ← h.scanner.position_eq]
  | tokenize input =>
    obtain ⟨ts, s, htokenize, hs, hprocessed, htiles, -⟩ := h.scanner.exists_tokenize input
    refine ⟨⟨s, ts⟩, by simp [Session.act, htokenize], hs, ?_⟩
    exact hprocessed ▸ htiles
  | register r => exact ⟨_, rfl, h.scanner.register ha, h.given⟩

theorem Tiled.run {x : Session} {actions : List Action} (h : x.Tiled)
    (ha : ∀ a ∈ actions, a.Allowed) : ∃ y, x.run actions = some y ∧ y.Tiled := by
  induction actions generalizing x with
  | nil => exact ⟨x, rfl, h⟩
  | cons a actions ih =>
    obtain ⟨y, hact, hy⟩ := h.act (ha a (List.mem_cons_self ..))
    obtain ⟨z, hrun, hz⟩ := ih hy fun b hb => ha b (List.mem_cons_of_mem _ hb)
    refine ⟨z, ?_, hz⟩
    rw [Session.run, List.foldlM_cons, hact]
    exact hrun

theorem tiled_start {fields : List Rule} (h : ∀ r ∈ fields, r.IsTokenField) :
    (start fields).Tiled :=
  ⟨Scanner.tiled_ofRules h, .blank (by simp [start, Scanner.ofRules])⟩

/-- **Nothing of a query is lost.** Whatever is done with a scanner whose fields are all made from
patterns for the token alone, it ends. What has been processed and what is still to be read are the
query, the position and the byte offset are those of the former, and it is made of the tokens since
the query was read, each at its position, and of white space. Every query is cut into tokens, no
more than it has characters, after which there is only its end; there, nothing but the last token
ever changes. -/
theorem exists_run_tiles {fields : List Rule} {actions : List Action}
    (hf : ∀ r ∈ fields, r.IsTokenField) (ha : ∀ a ∈ actions, a.Allowed) :
    ∃ x, (start fields).run actions = some x ∧
      x.scanner.processed ++ x.scanner.remaining = x.scanner.input ∧
      x.scanner.position = x.scanner.processed.length ∧
      x.scanner.offset = x.scanner.processed.rawEndPos ∧
      x.scanner.offset.IsValid x.scanner.input ∧
      Tiles 0 x.scanner.processed.toList x.given ∧
      (∀ t ∈ x.given, ∃ w, t.text = some w ∧ w ≠ "" ∧
        w.toList <+: x.scanner.input.toList.drop t.position) ∧
      (∀ input, ∃ ts s, x.scanner.tokenize input = some (ts, s) ∧ ts.length ≤ input.length ∧
        Tiles 0 input.toList ts ∧ s.advance = some (.endAt input.length, s)) ∧
      (x.scanner.rest = [] → x.scanner.advance = some (.endAt x.scanner.input.length,
        { x.scanner with last := .endAt x.scanner.input.length })) := by
  obtain ⟨x, hrun, hx⟩ := (tiled_start hf).run ha
  refine ⟨x, hrun, hx.scanner.processed_append, hx.scanner.position_eq, hx.scanner.offset_eq,
    hx.scanner.isValid_offset, hx.given, fun t ht => ?_, fun input => ?_,
    hx.scanner.advance_of_end⟩
  · obtain ⟨w, hw, hne, -, hprefix⟩ := hx.given.prefix_drop x.scanner.rest t ht
    rw [hx.scanner.append_eq, Nat.sub_zero] at hprefix
    exact ⟨w, hw, hne, hprefix⟩
  · obtain ⟨ts, s, hts, -, -, htiles, hend⟩ := hx.scanner.exists_tokenize input
    refine ⟨ts, s, hts, ?_, htiles, hend⟩
    rw [← String.length_toList]
    exact htiles.length_le

/-- A field for `trip:` and a number. -/
def tripRule : Rule :=
  ⟨.field "TRIP", Rule.splitSource "trip:[0-9]+",
    .token (.sequence [.anchor .textStart, .text "trip:",
      .repeated 1 none true (.one (.range '0' '9'))])⟩

theorem isTokenField_tripRule : tripRule.IsTokenField := by
  have hread : (Rule.ofToken (.field "TRIP") "trip:[0-9]+").toOption = some tripRule := by
    decide +kernel
  cases hrule : Rule.ofToken (.field "TRIP") "trip:[0-9]+" with
  | error e => simp [hrule, Except.toOption] at hread
  | ok r =>
    rw [hrule] at hread
    obtain rfl : r = tripRule := Option.some.inj hread
    exact ⟨"TRIP", "trip:[0-9]+", hrule⟩

/-- A rule is registered between two tokens, and an offset lies behind a letter of two bytes. -/
theorem exists_run_tiles_trip :
    let actions : List Action :=
      [.read "né trip:7 ", .advance, .register tripRule, .advance, .advance]
    ∃ x, (start [tripRule]).run actions = some x ∧
      x.given = [⟨.word, some "né", 0⟩, ⟨.field "TRIP", some "trip:7", 3⟩] ∧
      x.scanner.processed ++ x.scanner.remaining = x.scanner.input ∧
      x.scanner.offset.IsValid x.scanner.input ∧
      Tiles 0 x.scanner.processed.toList x.given := by
  intro actions
  have hf : ∀ r ∈ [tripRule], r.IsTokenField := by simp [isTokenField_tripRule]
  have ha : ∀ a ∈ actions, a.Allowed := by simp [actions, Action.Allowed, isTokenField_tripRule]
  have hgiven : ((start [tripRule]).run actions).map (·.given) =
      some [⟨.word, some "né", 0⟩, ⟨.field "TRIP", some "trip:7", 3⟩] := by
    decide +kernel
  obtain ⟨x, hrun, happend, -, -, hvalid, htiles, -⟩ := exists_run_tiles hf ha
  rw [hrun] at hgiven
  exact ⟨x, hrun, Option.some.inj hgiven, happend, hvalid, htiles⟩

end Session

end SearchQuery
