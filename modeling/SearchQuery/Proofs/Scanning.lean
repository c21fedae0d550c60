import Mathlib.Logic.Relation
import SearchQuery.Proofs.BuiltinRules
import SearchQuery.Scanner

/-!
# Steps of a scanner

What one step of a scanner takes off the text, whatever the rules of the caller, and how the steps
make up `advance`.

* A step takes nothing off the text exactly if the rule that it follows lets the text go on where
  its token begins (`Rule.restarts`, `Scanner.Stalls`); otherwise the text gets shorter
  (`Stalls.stepped`, `length_rest_stepped_lt`).
* Some rule applies to every text that is not empty (`chosen?_isSome`).
* `Reaches` is a run of steps of any kind, and what every step keeps it keeps (`Reaches.keeps`). All
  other runs are such runs with a condition on the tokens: `Skips` is one of blank text
  (`skips_iff`), and `Passes` one before the end of the query (`passes_iff`).
* The number of steps that `advance` allows never decides its answer: `advance_eq` is the recursion
  without it, and `advance_cases` says what can come of it.
-/

namespace SearchQuery

/-! ## What a rule takes off a text -/

namespace Rule

/-- Whether the text goes on where the token begins: the second group begins at the beginning. -/
def restarts (r : Rule) (text : List Char) : Bool :=
  match r.matcher with
  | .token _ => false
  | .split p => ((p.match? text).bind (·.capture? 2)).any (·.start = 0)

variable {r : Rule} {text token rest : List Char}

/-- A rule leaves the text after so many of its characters, none only if it restarts. -/
theorem exists_drop_of_cut? (h : r.cut? text = some (token, rest)) :
    ∃ n, rest = text.drop n ∧ (n = 0 ↔ r.restarts text = true) := by
  cases hmatcher : r.matcher with
  | token p =>
    simp only [cut?, hmatcher] at h
    cases hm : p.match? text with
    | none => simp [hm] at h
    | some t =>
      simp only [hm] at h
      split at h
      · simp at h
      · next hpos =>
        obtain ⟨-, rfl⟩ := Prod.mk.inj (Option.some.inj h)
        refine ⟨t.pos, (Pattern.match?_inText hm).rest_eq, ?_⟩
        simpa [restarts, hmatcher] using hpos
  | split p =>
    simp only [cut?, hmatcher] at h
    cases hm : p.match? text with
    | none => simp [hm] at h
    | some t =>
      cases hfirst : t.capture? 1 with
      | none => simp [hm, hfirst] at h
      | some first =>
        simp only [hm, hfirst] at h
        split at h
        · next hcond =>
          obtain ⟨-, rfl⟩ := Prod.mk.inj (Option.some.inj h)
          refine ⟨_, rfl, ?_⟩
          cases hsecond : t.capture? 2 with
          | none => simpa [restarts, hmatcher, hm, hsecond] using hcond.2
          | some second => simp [restarts, hmatcher, hm, hsecond]
        · simp at h

theorem rest_of_restarts (h : r.cut? text = some (token, rest)) (hr : r.restarts text = true) :
    rest = text := by
  obtain ⟨n, rfl, hn⟩ := exists_drop_of_cut? h
  rw [hn.mpr hr, List.drop_zero]

theorem length_rest_lt_of_not_restarts (h : r.cut? text = some (token, rest)) (htext : text ≠ [])
    (hr : r.restarts text = false) : rest.length < text.length := by
  obtain ⟨n, rfl, hn⟩ := exists_drop_of_cut? h
  have hpos : n ≠ 0 := fun h0 => by simp [hn.mp h0] at hr
  have hlen := List.length_pos_iff.mpr htext
  rw [List.length_drop]
  omega

end Rule

namespace Scanner

/-! ## The rule that a step follows -/

theorem lexeme?_eq_some {text : List Char} {r : Rule} {x : Lexeme} (h : lexeme? text r = some x) :
    ∃ token, r.cut? text = some (token, x.rest) ∧ x.text = String.ofList token ∧
      x.kind = r.kind := by
  unfold lexeme? at h
  split at h
  · simp at h
  · next token rest hcut =>
    simp only at h
    split at h
    · simp at h
    · obtain rfl := Option.some.inj h
      exact ⟨token, hcut, rfl, rfl⟩

/-- The rule that the next step follows: the first that applies. -/
def chosen? (s : Scanner) : Option Rule := s.rules.find? fun r => (lexeme? s.rest r).isSome

theorem lexeme?_illegalRule (c : Char) (cs : List Char) :
    lexeme? (c :: cs) Rule.illegalRule = some ⟨.illegal, String.ofList [c], cs⟩ := by
  rw [lexeme?, Rule.cut?_illegalRule]
  rfl

/-- Some rule applies to every text that is not empty. -/
theorem chosen?_isSome {s : Scanner} (h : s.rest ≠ []) : s.chosen?.isSome := by
  obtain ⟨c, cs, hrest⟩ := List.exists_cons_of_ne_nil h
  rw [chosen?, List.find?_isSome]
  refine ⟨Rule.illegalRule, ?_, ?_⟩
  · simp [rules, Rule.generic]
  · rw [hrest, lexeme?_illegalRule]
    rfl

theorem findSome?_eq_bind_find? {α β : Type} (f : α → Option β) (l : List α) :
    l.findSome? f = (l.find? fun a => (f a).isSome).bind f := by
  induction l with
  | nil => rfl
  | cons a l ih => cases h : f a <;> simp [h, ih]

theorem lexeme?_of_chosen? {s : Scanner} {r : Rule} (h : s.chosen? = some r) :
    lexeme? s.rest r = some s.lexeme := by
  have hsome : (lexeme? s.rest r).isSome := by simpa using List.find?_some h
  obtain ⟨x, hx⟩ := Option.isSome_iff_exists.mp hsome
  have hfirst : s.rules.findSome? (lexeme? s.rest) = some x := by
    rw [findSome?_eq_bind_find?, ← chosen?, h]
    exact hx
  rw [hx, lexeme, hfirst]
  rfl

/-- The scanner stands still: the rule that it follows lets the text go on where the token
begins. -/
def Stalls (s : Scanner) : Prop := ∃ r, s.chosen? = some r ∧ r.restarts s.rest = true

theorem lexeme_rest_of_stalls {s : Scanner} (h : s.Stalls) : s.lexeme.rest = s.rest := by
  obtain ⟨r, hr, hrestarts⟩ := h
  obtain ⟨token, hcut, -, -⟩ := lexeme?_eq_some (lexeme?_of_chosen? hr)
  exact Rule.rest_of_restarts hcut hrestarts

theorem length_lexeme_rest_lt {s : Scanner} (hs : s.rest ≠ []) (h : ¬ s.Stalls) :
    s.lexeme.rest.length < s.rest.length := by
  obtain ⟨r, hr⟩ := Option.isSome_iff_exists.mp (chosen?_isSome hs)
  obtain ⟨token, hcut, -, -⟩ := lexeme?_eq_some (lexeme?_of_chosen? hr)
  refine Rule.length_rest_lt_of_not_restarts hcut hs ?_
  cases hrestarts : r.restarts s.rest with
  | false => rfl
  | true => exact absurd ⟨r, hr, hrestarts⟩ h

/-- What a step takes off depends on the rules and the text only. -/
theorem lexeme_congr {s s' : Scanner} (hf : s'.fields = s.fields) (hr : s'.rest = s.rest) :
    s'.lexeme = s.lexeme := by
  simp only [lexeme, rules, remaining, hf, hr]

theorem stalls_congr {s s' : Scanner} (hf : s'.fields = s.fields) (hr : s'.rest = s.rest) :
    s'.Stalls ↔ s.Stalls := by
  simp only [Stalls, chosen?, rules, hf, hr]

/-! ## One step -/

/-- The scanner after one step; white space does not become the last token. -/
def stepped (s : Scanner) : Scanner :=
  if s.scan.1.kind = .whiteSpace then s.scan.2 else { s.scan.2 with last := s.scan.1 }

theorem rest_stepped (s : Scanner) : s.stepped.rest = s.lexeme.rest := by
  unfold stepped
  split <;> rfl

theorem fields_stepped (s : Scanner) : s.stepped.fields = s.fields := by
  unfold stepped
  split <;> rfl

theorem input_stepped (s : Scanner) : s.stepped.input = s.input := by
  unfold stepped
  split <;> rfl

theorem position_stepped (s : Scanner) :
    s.stepped.position = s.position + s.lexeme.text.length := by
  unfold stepped
  split <;> rfl

theorem scan_fst (s : Scanner) : s.scan.1 = ⟨s.lexeme.kind, some s.lexeme.text, s.position⟩ := rfl

/-- A scanner that stands still goes on doing so, with the same text for ever. -/
theorem Stalls.stepped {s : Scanner} (h : s.Stalls) :
    s.stepped.Stalls ∧ s.stepped.rest = s.rest ∧ s.stepped.lexeme = s.lexeme := by
  have hr : s.stepped.rest = s.rest := (rest_stepped s).trans (lexeme_rest_of_stalls h)
  exact ⟨(stalls_congr (fields_stepped s) hr).mpr h, hr, lexeme_congr (fields_stepped s) hr⟩

theorem length_rest_stepped_lt {s : Scanner} (hs : s.rest ≠ []) (h : ¬ s.Stalls) :
    s.stepped.rest.length < s.rest.length :=
  rest_stepped s ▸ length_lexeme_rest_lt hs h

theorem length_rest_stepped_le {s : Scanner} (hs : s.rest ≠ []) :
    s.stepped.rest.length ≤ s.rest.length := by
  by_cases hstalls : s.Stalls
  · exact hstalls.stepped.2.1 ▸ Nat.le_refl _
  · exact (length_rest_stepped_lt hs hstalls).le

/-! ## Runs of steps -/

/-- One step before the end of the query. -/
def Steps (s s' : Scanner) : Prop := s.rest ≠ [] ∧ s' = s.stepped

/-- `s.Reaches s'`: the scanner comes from `s` to `s'` by steps. -/
def Reaches : Scanner → Scanner → Prop := Relation.ReflTransGen Steps

/-- `s.Skips s'`: there is nothing but blank text from `s` to `s'`. -/
inductive Skips : Scanner → Scanner → Prop
  | refl (s : Scanner) : Skips s s
  | blank {s s' : Scanner} (hs : s.rest ≠ []) (hk : s.lexeme.kind = .whiteSpace)
      (h : Skips s.stepped s') : Skips s s'

/-- `s.Passes s'`: the scanner comes from `s` to `s'` by steps that do not end the query. -/
inductive Passes : Scanner → Scanner → Prop
  | refl (s : Scanner) : Passes s s
  | step {s s' : Scanner} (hs : s.rest ≠ []) (hk : s.lexeme.kind ≠ .finish)
      (h : Passes s.stepped s') : Passes s s'

section Runs

variable {s s' s₁ : Scanner}

/-- **What every step keeps, every run keeps.** -/
theorem Reaches.keeps {P : Scanner → Prop} (h : s.Reaches s') (hs : P s)
    (hstep : ∀ s₁, s₁.rest ≠ [] → P s₁ → P s₁.stepped) : P s' := by
  induction h with
  | refl => exact hs
  | tail _ hlast ih =>
    obtain ⟨hne, rfl⟩ := hlast
    exact hstep _ hne ih

theorem Reaches.fields_eq (h : s.Reaches s') : s'.fields = s.fields :=
  h.keeps (P := fun s₁ => s₁.fields = s.fields) rfl fun s₁ _ ih => (fields_stepped s₁).trans ih

theorem Reaches.input_eq (h : s.Reaches s') : s'.input = s.input :=
  h.keeps (P := fun s₁ => s₁.input = s.input) rfl fun s₁ _ ih => (input_stepped s₁).trans ih

theorem Reaches.length_le (h : s.Reaches s') : s'.rest.length ≤ s.rest.length :=
  h.keeps (P := fun s₁ => s₁.rest.length ≤ s.rest.length) (Nat.le_refl _) fun _ hne ih =>
    (length_rest_stepped_le hne).trans ih

/-- Skipping is a run of steps over blank text. -/
theorem skips_iff : s.Skips s' ↔
    Relation.ReflTransGen (fun s₁ s₂ => s₁.Steps s₂ ∧ s₁.lexeme.kind = .whiteSpace) s s' := by
  constructor
  · intro h
    induction h with
    | refl s => exact .refl
    | blank hs hk h ih => exact .head ⟨⟨hs, rfl⟩, hk⟩ ih
  · intro h
    induction h using Relation.ReflTransGen.head_induction_on with
    | refl => exact .refl _
    | head hstep h ih =>
      obtain ⟨⟨hs, rfl⟩, hk⟩ := hstep
      exact .blank hs hk ih

/-- Passing is a run of steps none of which ends the query. -/
theorem passes_iff : s.Passes s' ↔
    Relation.ReflTransGen (fun s₁ s₂ => s₁.Steps s₂ ∧ s₁.lexeme.kind ≠ .finish) s s' := by
  constructor
  · intro h
    induction h with
    | refl s => exact .refl
    | step hs hk h ih => exact .head ⟨⟨hs, rfl⟩, hk⟩ ih
  · intro h
    induction h using Relation.ReflTransGen.head_induction_on with
    | refl => exact .refl _
    | head hstep h ih =>
      obtain ⟨⟨hs, rfl⟩, hk⟩ := hstep
      exact .step hs hk ih

/-- Blank text does not end a query. -/
theorem Skips.passes (h : s.Skips s') : s.Passes s' := by
  refine passes_iff.mpr (Relation.ReflTransGen.mono ?_ _ _ (skips_iff.mp h))
  rintro s₁ s₂ ⟨hstep, hk⟩
  exact ⟨hstep, by simp [hk]⟩

theorem Passes.reaches (h : s.Passes s') : s.Reaches s' :=
  Relation.ReflTransGen.mono (fun _ _ => And.left) _ _ (passes_iff.mp h)

theorem Skips.reaches (h : s.Skips s') : s.Reaches s' := h.passes.reaches

theorem Passes.trans (h : s.Passes s₁) (h' : s₁.Passes s') : s.Passes s' :=
  passes_iff.mpr ((passes_iff.mp h).trans (passes_iff.mp h'))

end Runs

/-! ## The next token -/

theorem advanceWithin_succ (n : Nat) (s : Scanner) :
    advanceWithin (n + 1) s =
      if s.rest = [] then some (.endAt s.position, { s with last := .endAt s.position })
      else if s.lexeme.kind = .whiteSpace then advanceWithin n s.stepped
      else some (s.scan.1, s.stepped) := by
  rw [advanceWithin]
  by_cases hs : s.rest = []
  · simp [hs]
  · by_cases hk : s.lexeme.kind = .whiteSpace <;> simp [hs, hk, stepped, scan_fst]

/-- Blank text that is never taken off keeps a scanner from the next token. -/
theorem advanceWithin_of_stalls (n : Nat) {s : Scanner} (hs : s.rest ≠ []) (h : s.Stalls)
    (hk : s.lexeme.kind = .whiteSpace) : advanceWithin n s = none := by
  induction n generalizing s with
  | zero => rfl
  | succ n ih =>
    obtain ⟨hstalls, hrest, hlexeme⟩ := h.stepped
    rw [advanceWithin_succ, if_neg hs, if_pos hk]
    exact ih (hrest ▸ hs) hstalls (hlexeme ▸ hk)

/-- As many steps as there are characters, and one more, are enough. -/
theorem advanceWithin_eq_advance {n : Nat} {s : Scanner} (hn : s.rest.length < n) :
    advanceWithin n s = s.advance := by
  suffices h : ∀ m n (s : Scanner), s.rest.length < m → s.rest.length < n →
      advanceWithin m s = advanceWithin n s from h n _ s hn (Nat.lt_succ_self _)
  intro m
  induction m with
  | zero => intro n s hm; omega
  | succ m ih =>
    intro n s hm hn
    obtain ⟨n, rfl⟩ := Nat.exists_eq_succ_of_ne_zero (Nat.ne_zero_of_lt hn)
    by_cases hs : s.rest = []
    · rw [advanceWithin_succ, advanceWithin_succ, if_pos hs, if_pos hs]
    · by_cases hk : s.lexeme.kind = .whiteSpace
      · by_cases hstalls : s.Stalls
        · rw [advanceWithin_of_stalls _ hs hstalls hk, advanceWithin_of_stalls _ hs hstalls hk]
        · have hlt := length_rest_stepped_lt hs hstalls
          simp only [advanceWithin_succ, if_neg hs, if_pos hk]
          exact ih n s.stepped (by omega) (by omega)
      · simp only [advanceWithin_succ, if_neg hs, if_neg hk]

/-- **The recursion of `advance`**: blank text is skipped, and the next token is given. -/
theorem advance_eq (s : Scanner) :
    s.advance =
      if s.rest = [] then some (.endAt s.position, { s with last := .endAt s.position })
      else if s.lexeme.kind = .whiteSpace then s.stepped.advance
      else some (s.scan.1, s.stepped) := by
  rw [advance, advanceWithin_succ]
  by_cases hs : s.rest = []
  · rw [if_pos hs, if_pos hs]
  · rw [if_neg hs, if_neg hs]
    by_cases hk : s.lexeme.kind = .whiteSpace
    · rw [if_pos hk, if_pos hk]
      by_cases hstalls : s.Stalls
      · obtain ⟨hstalls', hrest, hlexeme⟩ := hstalls.stepped
        rw [advanceWithin_of_stalls _ (hrest ▸ hs) hstalls' (hlexeme ▸ hk), advance,
          advanceWithin_of_stalls _ (hrest ▸ hs) hstalls' (hlexeme ▸ hk)]
      · exact advanceWithin_eq_advance (length_rest_stepped_lt hs hstalls)
    · rw [if_neg hk, if_neg hk]

theorem Skips.advance_eq {s s' : Scanner} (h : s.Skips s') : s.advance = s'.advance := by
  induction h with
  | refl s => rfl
  | blank hs hk h ih => rw [Scanner.advance_eq, if_neg hs, if_pos hk, ih]

/-- Blank text ends where a token begins, at the end of the query, or where blank text is never
taken off. -/
theorem exists_skips (s : Scanner) :
    ∃ s', s.Skips s' ∧ (s'.rest = [] ∨
      s'.rest ≠ [] ∧ (s'.lexeme.kind ≠ .whiteSpace ∨ s'.Stalls)) := by
  induction hn : s.rest.length using Nat.strongRecOn generalizing s with
  | ind n ih =>
    by_cases hs : s.rest = []
    · exact ⟨s, .refl s, .inl hs⟩
    · by_cases hk : s.lexeme.kind ≠ .whiteSpace ∨ s.Stalls
      · exact ⟨s, .refl s, .inr ⟨hs, hk⟩⟩
      · obtain ⟨hblank, hstalls⟩ := not_or.mp hk
        obtain ⟨s', hskips, h⟩ := ih _ (hn ▸ length_rest_stepped_lt hs hstalls) s.stepped rfl
        exact ⟨s', .blank hs (not_not.mp hblank) hskips, h⟩

/-- **What `advance` can do**: after blank text it gives the token for the end of the query, gives
the next token, or goes on for ever. -/
theorem advance_cases (s : Scanner) :
    ∃ s', s.Skips s' ∧
      ((s'.rest = [] ∧
        s.advance = some (.endAt s'.position, { s' with last := .endAt s'.position })) ∨
      (s'.rest ≠ [] ∧ s'.lexeme.kind ≠ .whiteSpace ∧ s.advance = some (s'.scan.1, s'.stepped)) ∨
      (s'.rest ≠ [] ∧ s'.lexeme.kind = .whiteSpace ∧ s'.Stalls ∧ s.advance = none)) := by
  obtain ⟨s', hskips, h⟩ := exists_skips s
  refine ⟨s', hskips, ?_⟩
  rw [hskips.advance_eq]
  rcases h with hs | ⟨hs, h⟩
  · exact .inl ⟨hs, by rw [Scanner.advance_eq, if_pos hs]⟩
  · by_cases hk : s'.lexeme.kind = .whiteSpace
    · have hstalls : s'.Stalls := h.resolve_left (not_not.mpr hk)
      exact .inr (.inr ⟨hs, hk, hstalls, advanceWithin_of_stalls _ hs hstalls hk⟩)
    · exact .inr (.inl ⟨hs, hk, by rw [Scanner.advance_eq, if_neg hs, if_neg hk]⟩)

end Scanner

end SearchQuery
