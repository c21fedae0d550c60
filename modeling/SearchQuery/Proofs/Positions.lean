import SearchQuery.Proofs.Cuts

/-!
# Positions of tokens

A scanner counts the characters of its tokens, and takes the count for the number of characters that
it has behind it (`Scanner.consumed`). The count is right as long as the groups of the rules adjoin.

* A step keeps the count right just if the groups of its rule adjoin
  (`Scanner.position_stepped_iff`), so the count is right all the way through a query just if this
  holds of every step (`Scanner.position_eq_consumed_iff`).
* The text of a token always stands where its step begins (`Scanner.lexeme_text_prefix_drop`). If
  the count is right, this is the position of the token.
* A gap between the groups makes all later positions too small.
-/

namespace SearchQuery.Scanner

/-! ## Steps through a query -/

theorem Reaches.rest_suffix {s s' : Scanner} (h : s.Reaches s') : s'.rest <:+ s.rest :=
  h.keeps (P := fun s₁ => s₁.rest <:+ s.rest) (List.suffix_refl _) fun s₁ _ ih =>
    (rest_stepped_suffix s₁).trans ih

/-! ## Counting characters -/

/-- The number of characters of the query that are no longer to be read. -/
def consumed (s : Scanner) : Nat := s.input.length - s.rest.length

/-- What is still to be read is the query without the characters that are no longer to be read. -/
theorem drop_consumed {s : Scanner} (h : s.rest <:+ s.input.toList) :
    s.input.toList.drop s.consumed = s.rest := by
  rw [consumed, ← String.length_toList]
  exact (List.suffix_iff_eq_drop.mp h).symm

/-- The text of the next token stands in the query where the step begins. -/
theorem lexeme_text_prefix_drop {s : Scanner} (h : s.rest <:+ s.input.toList) :
    s.lexeme.text.toList <+: s.input.toList.drop s.consumed :=
  drop_consumed h ▸ s.lexeme_text_prefix

/-- A front and an end of a list that are as long as the list make it up. -/
theorem append_eq_of_length {α : Type} {front back l : List α} (hfront : front <+: l)
    (hback : back <:+ l) (hlen : front.length + back.length = l.length) : front ++ back = l := by
  obtain ⟨back', rfl⟩ := hfront
  rw [List.length_append] at hlen
  have hsuffix : back <:+ back' :=
    List.suffix_of_suffix_length_le hback (List.suffix_append front back') (by omega)
  rw [hsuffix.eq_of_length (by omega)]

/-- **A step keeps the count right just if the groups of its rule adjoin.** -/
theorem position_stepped_iff {s : Scanner} (hrest : s.rest <:+ s.input.toList)
    (hpos : s.position = s.consumed) :
    s.stepped.position = s.stepped.consumed ↔ s.Adjoins := by
  have hfront := s.lexeme_text_prefix
  have hback := s.lexeme_rest_suffix
  have hlen := hrest.length_le
  have hfront_le := hfront.length_le
  have hback_le := hback.length_le
  rw [String.length_toList] at hlen hfront_le
  rw [← lexeme_append_iff, position_stepped, consumed, input_stepped, rest_stepped, hpos, consumed]
  constructor
  · intro heq
    refine append_eq_of_length hfront hback ?_
    rw [String.length_toList]
    omega
  · intro heq
    have hsum := congrArg List.length heq
    rw [List.length_append, String.length_toList] at hsum
    omega

/-- As long as the groups adjoin, the count is right. -/
theorem Reaches.position_eq {s s' : Scanner} (h : s.Reaches s') (hrest : s.rest <:+ s.input.toList)
    (hpos : s.position = s.consumed)
    (hadjoins : ∀ s₁, s.Reaches s₁ → s₁.Adjoins) : s'.position = s'.consumed := by
  induction h with
  | refl => exact hpos
  | tail h hstep ih =>
    rename_i s₁ s₂
    obtain ⟨-, rfl⟩ := hstep
    have hrest₁ : s₁.rest <:+ s₁.input.toList :=
      Reaches.input_eq h ▸ (Reaches.rest_suffix h).trans hrest
    exact (position_stepped_iff hrest₁ ih).mpr (hadjoins s₁ h)

/-! ## Positions in a query -/

theorem rest_suffix_of_reaches_read {s s' : Scanner} {input : String}
    (h : (s.read input).Reaches s') : s'.rest <:+ s'.input.toList :=
  h.input_eq ▸ h.rest_suffix

theorem position_read (s : Scanner) (input : String) :
    (s.read input).position = (s.read input).consumed := by
  rw [consumed, show (s.read input).rest.length = input.length from String.length_toList]
  exact (Nat.sub_self _).symm

/-- The count is right all the way just if the groups adjoin all the way. -/
theorem position_eq_consumed_iff (s : Scanner) (input : String) :
    (∀ s', (s.read input).Reaches s' → s'.position = s'.consumed) ↔
      ∀ s', (s.read input).Reaches s' → s'.Adjoins := by
  constructor
  · intro hpos s' h
    by_cases hs : s'.rest = []
    · -- Nothing is left, so a step would cut nothing in two.
      have htext : s'.lexeme.text.toList = [] := List.prefix_nil.mp (hs ▸ s'.lexeme_text_prefix)
      have hrest : s'.lexeme.rest = [] := List.suffix_nil.mp (hs ▸ s'.lexeme_rest_suffix)
      rw [← lexeme_append_iff, htext, hrest, hs]
      rfl
    · have hstepped : (s.read input).Reaches s'.stepped := h.tail ⟨hs, rfl⟩
      exact (position_stepped_iff (rest_suffix_of_reaches_read h) (hpos s' h)).mp
        (hpos s'.stepped hstepped)
  · intro hadjoins s' h
    exact h.position_eq (List.suffix_refl _) (position_read s input) hadjoins

/-- Where the count is right, the next token stands at its position. -/
theorem advance_position {s s' : Scanner} {t : Token} (h : s.advance = some (t, s'))
    (hpos : ∀ s₁, s.Reaches s₁ → s₁.rest <:+ s₁.input.toList ∧ s₁.position = s₁.consumed) :
    s'.position = s'.consumed ∧
      ∀ x, t.text = some x → x.toList <+: s.input.toList.drop t.position := by
  obtain ⟨s₁, hskips, ⟨-, ha⟩ | ⟨hs, -, ha⟩ | ⟨-, -, -, ha⟩⟩ := advance_cases s
  · obtain ⟨rfl, rfl⟩ := Prod.mk.inj (Option.some.inj (h.symm.trans ha))
    refine ⟨(hpos s₁ hskips.reaches).2, fun x hx => ?_⟩
    simp [Token.endAt] at hx
  · obtain ⟨rfl, rfl⟩ := Prod.mk.inj (Option.some.inj (h.symm.trans ha))
    obtain ⟨hrest, hposition⟩ := hpos s₁ hskips.reaches
    refine ⟨(hpos s₁.stepped (hskips.reaches.tail ⟨hs, rfl⟩)).2, fun x hx => ?_⟩
    obtain rfl : s₁.lexeme.text = x := Option.some.inj hx
    rw [scan_fst, hposition, ← hskips.reaches.input_eq]
    exact lexeme_text_prefix_drop hrest
  · simp [h] at ha

/-- **When positions are true.** The text of every token stands in the query where its step begins.
The number of characters that a scanner counts is the number of those it has behind it, after every
step of a query, just if the groups of the rule adjoin at every step; then every token stands at its
position. This is so for rules whose groups always adjoin, such as those made from a pattern for the
token alone. -/
theorem positions_true_iff_adjoins (s : Scanner) (input : String) :
    (∀ s', (s.read input).Reaches s' →
      s'.lexeme.text.toList <+: input.toList.drop s'.consumed) ∧
    ((∀ s', (s.read input).Reaches s' → s'.position = s'.consumed) ↔
      ∀ s', (s.read input).Reaches s' → s'.Adjoins) ∧
    ((∀ s', (s.read input).Reaches s' → s'.Adjoins) →
      ∀ s' t s'', (s.read input).Reaches s' → s'.advance = some (t, s'') →
        s''.position = s''.consumed ∧
          ∀ x, t.text = some x → x.toList <+: input.toList.drop t.position) ∧
    ((∀ r ∈ s.fields, ∀ text, r.adjoins text = true) →
      ∀ s', (s.read input).Reaches s' → s'.Adjoins) ∧
    (∀ kind token r, Rule.ofToken kind token = .ok r → ∀ text, r.adjoins text = true) := by
  refine ⟨fun s' h => ?_, position_eq_consumed_iff s input, fun hadjoins s' t s'' h ha => ?_,
    fun hfields s' h => ?_, fun _ _ _ => Rule.adjoins_of_ofToken⟩
  · have hinput : s'.input = input := h.input_eq
    exact hinput ▸ lexeme_text_prefix_drop (rest_suffix_of_reaches_read h)
  · have hinput : s'.input = input := h.input_eq
    refine hinput ▸ advance_position ha fun s₁ h₁ => ?_
    have hreach : (s.read input).Reaches s₁ := Relation.ReflTransGen.trans h h₁
    exact ⟨rest_suffix_of_reaches_read hreach,
      (position_eq_consumed_iff s input).mpr hadjoins s₁ hreach⟩
  · exact adjoins_of_fields (h.fields_eq ▸ hfields)

/-- A rule whose pattern has something between its groups is accepted. After its token, one
character is counted and two are behind, and the next token does not stand at its position. -/
theorem gap_shifts_positions :
    ∃ r, Rule.ofPattern (.field "X") "(a)b(.*)" = .ok r ∧
      ((ofRules [r]).read "abc").scan.2.position = 1 ∧
      ((ofRules [r]).read "abc").scan.2.consumed = 2 ∧
      ((ofRules [r]).tokenize "abc").map (·.1) =
        some [⟨.field "X", some "a", 0⟩, ⟨.word, some "c", 1⟩] ∧
      ¬ "c".toList <+: "abc".toList.drop 1 := by
  have hread : (Rule.ofPattern (.field "X") "(a)b(.*)").toOption =
      some ⟨.field "X", "(a)b(.*)",
        .split (.seq (.group 1 (.one (.single 'a')))
          (.seq (.one (.single 'b')) (.group 2 (Rule.many (.compl (.single '\n'))))))⟩ := by
    decide +kernel
  cases hrule : Rule.ofPattern (.field "X") "(a)b(.*)" with
  | error e => simp [hrule, Except.toOption] at hread
  | ok r =>
    obtain rfl := Option.some.inj (hrule ▸ hread)
    exact ⟨_, rfl, by decide +kernel, by decide +kernel, by decide +kernel, by decide⟩

end SearchQuery.Scanner
