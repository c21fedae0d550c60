import SearchQuery.Proofs.FieldRoundTrip
import SearchQuery.Proofs.Juxtaposition
import SearchQuery.Proofs.Reuse

/-!
# Queries of white space

White space is taken off before any rule of the caller is tried, as far as it goes, and the position
counts it. So a query of nothing else is refused for want of an operand at its end, which is behind
the white space.

* `Scanner.advance_of_blank`: where nothing but white space is left, the next token is the end,
  after as many characters as there are. With fields only, it is the end nowhere else
  (`Scanner.blank_of_advance`).
* `Parser.parseText_of_blank`: the answer to a query of white space, and what it leaves behind.
* `Parser.position_of_error`: an error at the end of a query has a position further on than the
  beginning, unless there is nothing to read.
-/

namespace SearchQuery

open Text Lexer

namespace Scanner

variable {s s' : Scanner} {t : Token} {c : Char} {cs : List Char}

/-! ## What is skipped -/

/-- No rule of the caller comes before white space. -/
theorem lexeme_of_isWhiteSpace (hs : s.rest = c :: cs) (hc : isWhiteSpace c = true) :
    s.lexeme = ⟨.whiteSpace, .ofList (c :: cs.takeWhile isWhiteSpace),
      cs.dropWhile isWhiteSpace⟩ := by
  have hfirst : first c cs = ⟨.whiteSpace, .ofList (c :: cs.takeWhile isWhiteSpace),
      cs.dropWhile isWhiteSpace⟩ := by rw [first, if_pos hc]
  rw [lexeme_eq_early? hs, hs, early?_cons, hfirst]
  rfl

/-- With fields only, no token before the end of a query is an end. -/
theorem lexeme_kind_ne_finish (hf : ∀ r ∈ s.fields, r.kind.isField = true) (hs : s.rest ≠ []) :
    s.lexeme.kind ≠ .finish := by
  obtain ⟨c, cs, hrest⟩ := List.exists_cons_of_ne_nil hs
  intro hk
  obtain hfirst | ⟨-, hfield⟩ := lexeme_eq_first_or_isField hf hrest
  · have hspells := first_spells c cs
    rw [← hfirst, hk] at hspells
    exact hspells
  · simp [hk, Kind.isField] at hfield

/-- With fields only, what is skipped is white space. -/
theorem lexeme_blank (hf : ∀ r ∈ s.fields, r.kind.isField = true) (hs : s.rest ≠ [])
    (hk : s.lexeme.kind = .whiteSpace) :
    s.lexeme.text.toList.all isWhiteSpace = true ∧
      s.rest = s.lexeme.text.toList ++ s.lexeme.rest := by
  obtain ⟨c, cs, hrest⟩ := List.exists_cons_of_ne_nil hs
  obtain hfirst | ⟨-, hfield⟩ := lexeme_eq_first_or_isField hf hrest
  · have hc : isWhiteSpace c = true := first_kind_eq_whiteSpace_iff.mp (hfirst ▸ hk)
    refine ⟨?_, by rw [hfirst, toList_text_first, hrest]⟩
    rw [lexeme_of_isWhiteSpace hrest hc, String.toList_ofList, List.all_cons, hc, Bool.true_and,
      List.all_eq_true]
    exact fun d hd => List.mem_takeWhile_imp hd
  · simp [hk, Kind.isField] at hfield

theorem Skips.blank_of_end (hf : ∀ r ∈ s.fields, r.kind.isField = true) (h : s.Skips s')
    (hend : s'.rest = []) : s.rest.all isWhiteSpace = true := by
  induction h with
  | refl s => simp [hend]
  | blank hs hk h ih =>
    rename_i s s'
    obtain ⟨hblank, hrest⟩ := lexeme_blank hf hs hk
    have hafter : s.lexeme.rest.all isWhiteSpace = true :=
      rest_stepped s ▸ ih (fields_stepped s ▸ hf) hend
    rw [hrest, List.all_append, hblank, hafter, Bool.true_and]

/-! ## The end of a query -/

/-- The scanner behind all that is still to be read. -/
def atEnd (s : Scanner) : Scanner :=
  { s with
    rest := []
    processed := s.processed ++ s.remaining
    position := s.position + s.rest.length
    last := .endAt (s.position + s.rest.length) }

/-- **White space up to the end is skipped**, whatever the rules of the caller, and the end stands
behind it. -/
theorem advance_of_blank (hblank : s.rest.all isWhiteSpace = true) :
    s.advance = some (.endAt (s.position + s.rest.length), s.atEnd) := by
  cases hs : s.rest with
  | nil =>
    rw [advance_eq, if_pos hs]
    simp [atEnd, remaining, hs]
  | cons c cs =>
    rw [hs, List.all_cons, Bool.and_eq_true] at hblank
    obtain ⟨hc, hcs⟩ := hblank
    have hlexeme : s.lexeme = ⟨.whiteSpace, s.remaining, []⟩ := by
      rw [List.all_eq_true] at hcs
      rw [lexeme_of_isWhiteSpace hs hc, remaining, hs, List.takeWhile_eq_self_iff.mpr hcs,
        List.dropWhile_eq_nil_iff.mpr hcs]
    have hstepped : s.stepped.rest = [] := by rw [rest_stepped, hlexeme]
    rw [advance_eq, if_neg (by simp [hs]), if_pos (by rw [hlexeme]), advance_eq, if_pos hstepped]
    simp [stepped, scan, hlexeme, atEnd, remaining, hs, Nat.add_comm 1]

/-- With fields only, the next token is the end just where nothing but white space is left. -/
theorem blank_of_advance (hf : ∀ r ∈ s.fields, r.kind.isField = true)
    (h : s.advance = some (t, s')) (ht : t.kind = .finish) :
    s.rest.all isWhiteSpace = true ∧ t = .endAt s'.position := by
  obtain ⟨s₁, hskips, ⟨hs, ha⟩ | ⟨hs, -, ha⟩ | ⟨-, -, -, ha⟩⟩ := advance_cases s
  · obtain ⟨rfl, rfl⟩ := Prod.mk.inj (Option.some.inj (h.symm.trans ha))
    exact ⟨hskips.blank_of_end hf hs, rfl⟩
  · obtain ⟨rfl, -⟩ := Prod.mk.inj (Option.some.inj (h.symm.trans ha))
    have hf₁ : ∀ r ∈ s₁.fields, r.kind.isField = true := hskips.reaches.fields_eq ▸ hf
    exact absurd ht (lexeme_kind_ne_finish hf₁ hs)
  · simp [h] at ha

/-- **With fields only, the queries without tokens are those of white space.** -/
theorem tokenize_eq_nil_iff (hf : ∀ r ∈ s.fields, r.kind.isField = true) (input : String) :
    (s.tokenize input).map (·.1) = some [] ↔ input.toList.all isWhiteSpace = true := by
  rw [tokenize, tokensWithin]
  constructor
  · intro h
    cases ha : (s.read input).advance with
    | none => simp [ha] at h
    | some r =>
      obtain ⟨t, s₁⟩ := r
      cases ht : t.isEnd with
      | true =>
        have hk : t.kind = .finish := by simpa [Token.isEnd] using ht
        exact (blank_of_advance (s := s.read input) hf ha hk).1
      | false => simp [ha, ht] at h
  · intro hblank
    rw [advance_of_blank (s := s.read input) hblank]
    rfl

/-! ## Positions -/

theorem position_lt_stepped (hs : s.rest ≠ []) : s.position < s.stepped.position := by
  have hlength : s.lexeme.text.length ≠ 0 := by
    rw [← String.length_toList, ne_eq, List.length_eq_zero_iff, String.toList_eq_nil_iff]
    exact lexeme_text_ne_empty hs
  rw [position_stepped]
  omega

theorem Reaches.position_le (h : s.Reaches s') : s.position ≤ s'.position :=
  h.keeps (P := fun s₁ => s.position ≤ s₁.position) (Nat.le_refl _) fun _ hne ih =>
    ih.trans (position_lt_stepped hne).le

/-- Where there is something left to read, the next token moves the position. -/
theorem position_lt_of_advance (h : s.advance = some (t, s')) (hs : s.rest ≠ []) :
    s.position < s'.position := by
  obtain ⟨s₁, hskips, ⟨hs₁, ha⟩ | ⟨hs₁, -, ha⟩ | ⟨-, -, -, ha⟩⟩ := advance_cases s
  · obtain ⟨-, rfl⟩ := Prod.mk.inj (Option.some.inj (h.symm.trans ha))
    cases hskips with
    | refl => exact absurd hs₁ hs
    | blank _ _ hskips => exact (position_lt_stepped hs).trans_le hskips.reaches.position_le
  · obtain ⟨-, rfl⟩ := Prod.mk.inj (Option.some.inj (h.symm.trans ha))
    exact hskips.reaches.position_le.trans_lt (position_lt_stepped hs₁)
  · simp [h] at ha

theorem position_le_of_advance (h : s.advance = some (t, s')) : s.position ≤ s'.position := by
  by_cases hs : s.rest = []
  · rw [advance_eq, if_pos hs] at h
    obtain ⟨-, rfl⟩ := Prod.mk.inj (Option.some.inj h)
    exact Nat.le_refl _
  · exact (position_lt_of_advance h hs).le

end Scanner

/-! ## Queries -/

namespace Parser

open Grammar

variable {p : Parser} {input : String} {e : SyntaxError}

/-- **The answer to a query of white space**, and what it leaves behind. -/
theorem parseText_of_blank (p : Parser) (hblank : input.toList.all isWhiteSpace = true) :
    p.parseText input =
      some (.error (.malformed
          ⟨"unexpected end of query", .operand, .finish, none, input.length, input⟩),
        ⟨(p.scanner.read input).atEnd, .endAt input.length, false, 0⟩) := by
  have hadvance : (p.scanner.read input).advance =
      some (.endAt input.length, (p.scanner.read input).atEnd) := by
    have h := Scanner.advance_of_blank (s := p.scanner.read input) hblank
    have hend : (p.scanner.read input).position + (p.scanner.read input).rest.length =
        input.length := (Nat.zero_add _).trans String.length_toList
    rwa [hend] at h
  rw [parseText_eq_answerWithin, tokenBound, answerWithin, hadvance]
  rfl

theorem exists_runWithin_of_parseText
    (h : (p.parseText input).map (·.1) = some (.error (.malformed e))) :
    ∃ n s', runWithin n (p.scanner.read input) .initial = some (.error e, s') := by
  have hmap := congrArg (Option.map (·.1)) (map_parseText p input)
  rw [Option.map_map, Option.map_map] at hmap
  obtain ⟨⟨answer, s'⟩, hrun, hanswer⟩ := Option.map_eq_some_iff.mp (hmap.symm.trans h)
  cases answer with
  | ok n => simp [Except.mapError] at hanswer
  | error e' =>
    obtain rfl : e' = e := by simpa [Except.mapError] using hanswer
    exact ⟨_, s', hrun⟩

/-- **An error at the end of a query is not before the place where the reading begins**, and further
on if there is something to read. -/
theorem position_of_error {n : Nat} {s s' : Scanner} {state : State}
    (hf : ∀ r ∈ s.fields, r.kind.isField = true)
    (h : runWithin n s state = some (.error e, s')) (he : e.found = .finish) :
    s.position ≤ e.position ∧ (s.rest ≠ [] → s.position < e.position) := by
  induction n generalizing s state with
  | zero => simp [runWithin] at h
  | succ n ih =>
    rw [runWithin] at h
    cases ha : s.advance with
    | none => simp [ha] at h
    | some r =>
      obtain ⟨t, s₁⟩ := r
      -- The first token moves on if it can; what comes after it must not fall back.
      suffices hle : s₁.position ≤ e.position from
        ⟨(Scanner.position_le_of_advance ha).trans hle,
          fun hs => (Scanner.position_lt_of_advance ha hs).trans_le hle⟩
      simp only [ha] at h
      cases hstep : state.step t with
      | next state' =>
        simp only [hstep] at h
        exact (ih (Scanner.fields_advance ha ▸ hf) h).1
      | accept node => simp [hstep] at h
      | reject problem x =>
        simp only [hstep, Option.some.injEq, Prod.mk.injEq, Except.error.injEq] at h
        obtain ⟨rfl, rfl⟩ := h
        have hend : t = .endAt s₁.position := (Scanner.blank_of_advance hf ha he).2
        exact hend ▸ Nat.le_refl s₁.position

/-- **A query of white space is refused at its end.** Whatever the rules of the caller, an operand
is missing there, after as many characters as the query has. If all rules of the caller are fields,
the queries of white space are just those without tokens, and an error at the end of a query has
position 0 just if the query is empty. -/
theorem blank_refused_at_end (p : Parser) (input : String) :
    (input.toList.all isWhiteSpace = true →
      (p.parseText input).map (·.1) = some (.error (.malformed
        ⟨"unexpected end of query", .operand, .finish, none, input.length, input⟩))) ∧
    ((∀ r ∈ p.scanner.fields, r.kind.isField = true) →
      ((p.scanner.tokenize input).map (·.1) = some [] ↔
        input.toList.all isWhiteSpace = true) ∧
      ∀ e, (p.parseText input).map (·.1) = some (.error (.malformed e)) → e.found = .finish →
        (e.position = 0 ↔ input = "")) := by
  have hblank (h : input.toList.all isWhiteSpace = true) :=
    congrArg (Option.map (·.1)) (parseText_of_blank p h)
  refine ⟨hblank, fun hf => ⟨Scanner.tokenize_eq_nil_iff hf input, fun e he hfound => ?_⟩⟩
  constructor
  · intro hposition
    obtain ⟨n, s', hrun⟩ := exists_runWithin_of_parseText he
    by_contra hne
    have hrest : (p.scanner.read input).rest ≠ [] := mt String.toList_eq_nil_iff.mp hne
    have hlt := (position_of_error (s := p.scanner.read input) hf hrun hfound).2 hrest
    exact absurd hposition (Nat.ne_zero_of_lt hlt)
  · rintro rfl
    have heq := (hblank rfl).symm.trans he
    simp only [Option.map_some, Option.some.injEq, Except.error.injEq,
      ParseError.malformed.injEq] at heq
    rw [← heq]
    rfl

/-- A field for white space. -/
def gapRule : Rule :=
  ⟨.field "GAP", "(?s)^(\\s+)(.*)$",
    .split (.sequence [.anchor .textStart, .group 1 (.repeated 1 none true (.one .whiteSpace)),
      .group 2 (Rule.many .all), .anchor .textEnd])⟩

/-- A field for white space takes none of it. -/
theorem blank_refused_at_end_gap :
    let p : Parser := .ofScanner (.ofRules [gapRule])
    Rule.ofPattern (.field "GAP") "(?s)^(\\s+)(.*)$" = .ok gapRule ∧
      (p.scanner.tokenize " \u3000\n").map (·.1) = some [] ∧
      (p.parseText " \u3000\n").map (·.1) = some (.error (.malformed
        ⟨"unexpected end of query", .operand, .finish, none, 3, " \u3000\n"⟩)) := by
  intro p
  have hblank : " \u3000\n".toList.all isWhiteSpace = true := by decide +kernel
  have hf : ∀ r ∈ p.scanner.fields, r.kind.isField = true := by
    simp [p, ofScanner, Scanner.ofRules, gapRule, Kind.isField]
  obtain ⟨hrefused, hfields⟩ := blank_refused_at_end p " \u3000\n"
  exact ⟨by decide +kernel, (hfields hf).1.mpr hblank, hrefused hblank⟩

/-- The end of a query that is one blank is not at its beginning. -/
theorem end_behind_blank :
    " ".toList.all isWhiteSpace = true ∧
      (new.parseText " ").map (·.1) = some (.error (.malformed
        ⟨"unexpected end of query", .operand, .finish, none, 1, " "⟩)) ∧
      ¬ ∃ e, (new.parseText " ").map (·.1) = some (.error (.malformed e)) ∧ e.position = 0 := by
  have hparse : (new.parseText " ").map (·.1) = some (.error (.malformed
      ⟨"unexpected end of query", .operand, .finish, none, 1, " "⟩)) := by decide +kernel
  refine ⟨by decide +kernel, hparse, ?_⟩
  rintro ⟨e, he, hposition⟩
  rw [hparse] at he
  simp only [Option.some.injEq, Except.error.injEq, ParseError.malformed.injEq] at he
  simp [← he] at hposition

end Parser

end SearchQuery
