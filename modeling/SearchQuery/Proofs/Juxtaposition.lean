import SearchQuery.Proofs.RoundTrip

/-!
# Texts side by side

The lexer looks ahead: a word goes on as long as it can, `OR` is told by the character after it, and a
quote makes a phrase if there is another one anywhere behind. Nevertheless a text has the same tokens
whatever comes after it, if no word goes on there and no quote in it is left open.

* `first_append`: what follows a text leaves its first lexeme as it is.
* `tokensFrom_shift`: characters in front of a text only move its tokens.
* `tokensFrom_append`: the tokens of a text and those of what follows it, one after the other.
* `tokens_append_blank`: so white space between two texts keeps them apart, whatever white space it
  is.
* `spelling_of_parse`: and a query with a tree spells this tree wherever it stands.
-/

namespace SearchQuery

open Text Grammar

/-! ## Tokens elsewhere -/

/-- The token as it is with `k` more characters before it. -/
def Token.shift (k : Nat) (t : Token) : Token := { t with position := t.position + k }

@[simp] theorem Token.shift_kind (k : Nat) (t : Token) : (t.shift k).kind = t.kind := rfl

@[simp] theorem Token.shift_text (k : Nat) (t : Token) : (t.shift k).text = t.text := rfl

/-- The lexeme as it is with more text behind what is left. -/
def Scanner.Lexeme.extend (x : Scanner.Lexeme) (rest : List Char) : Scanner.Lexeme :=
  ⟨x.kind, x.text, x.rest ++ rest⟩

namespace Lexer

/-- **Characters in front of a text only move its tokens.** -/
theorem tokensFrom_shift (k position : Nat) (text : List Char) :
    tokensFrom (position + k) text = (tokensFrom position text).map (Token.shift k) := by
  fun_induction tokensFrom position text with
  | case1 => rw [tokensFrom, List.map_nil]
  | case2 position c cs x rest hk ih =>
    rw [tokensFrom_cons, if_pos hk, Nat.add_right_comm]
    exact ih
  | case3 position c cs x rest hk ih =>
    rw [tokensFrom_cons, if_neg hk, Nat.add_right_comm, List.map_cons]
    exact congrArg _ ih

/-! ## What follows a text -/

theorem takeWhile_append_of_separated {rest : List Char} (hrest : Separated rest)
    (cs : List Char) :
    (cs ++ rest).takeWhile continuesWord = cs.takeWhile continuesWord ∧
      (cs ++ rest).dropWhile continuesWord = cs.dropWhile continuesWord ++ rest := by
  induction cs with
  | nil =>
    have hnil : [].all continuesWord = true := rfl
    exact takeWhile_append_separated hnil hrest
  | cons c cs ih =>
    obtain ⟨htake, hdrop⟩ := ih
    cases hc : continuesWord c with
    | true => simp [hc, htake, hdrop]
    | false => simp [hc]

/-- A quote that is not closed is a sign. -/
theorem first_quote {cs : List Char} (h : '"' ∉ cs) : (first '"' cs).kind = .quote := by
  have hspace : isWhiteSpace '"' = false := not_isWhiteSpace_of_mem (by decide)
  have hword : beginsWord '"' = false := by decide
  rw [first, if_neg (by simp [hspace]), if_neg (by simp [h]), if_neg (by simp),
    if_neg (by simp [hword])]
  rfl

/-- The first lexeme where neither white space nor a quote stands. -/
theorem first_of_ne {c : Char} (hspace : isWhiteSpace c = false) (hc : c ≠ '"') (cs : List Char) :
    first c cs =
      if c = 'O' ∧ cs.head? = some 'R' ∧ cs.tail.head?.all (!continuesWord ·) = true then
        ⟨.or, "OR", cs.tail⟩
      else if beginsWord c then
        ⟨.word, .ofList (c :: cs.takeWhile continuesWord), cs.dropWhile continuesWord⟩
      else ⟨signKind c, .ofList [c], cs⟩ := by
  rw [first, if_neg (by simp [hspace]), if_neg (by simp [hc])]

/-- **What follows a text leaves its first lexeme as it is.** White space is left out, which may go
on, and a quote, which may be closed. -/
theorem first_append {c : Char} {cs rest : List Char} (hspace : isWhiteSpace c = false)
    (hquote : (first c cs).kind ≠ .quote) (hrest : Separated rest) :
    first c (cs ++ rest) = (first c cs).extend rest := by
  by_cases hc : c = '"'
  · subst hc
    have hclosed : '"' ∈ cs := by
      by_contra hopen
      exact hquote (first_quote hopen)
    obtain ⟨inner, after, rfl, hinner⟩ := List.eq_append_cons_of_mem hclosed
    rw [List.append_assoc, List.cons_append, first_phrase hinner, first_phrase hinner]
    rfl
  · obtain ⟨htake, hdrop⟩ := takeWhile_append_of_separated hrest cs
    -- Whether there is the word `OR` is told by the longest word.
    have hor := (@ofList_takeWhile_eq_or_iff c (cs ++ rest)).symm
    rw [htake, ofList_takeWhile_eq_or_iff] at hor
    rw [first_of_ne hspace hc, first_of_ne hspace hc, htake, hdrop]
    by_cases hword : c = 'O' ∧ cs.head? = some 'R' ∧ cs.tail.head?.all (!continuesWord ·) = true
    · have htail : (cs ++ rest).tail = cs.tail ++ rest := by
        cases cs with
        | nil => simp at hword
        | cons d cs => rfl
      rw [if_pos (hor.mpr hword), if_pos hword, htail]
      rfl
    · rw [if_neg (mt hor.mp hword), if_neg hword]
      by_cases hbegins : beginsWord c = true
      · rw [if_pos hbegins, if_pos hbegins]
        rfl
      · rw [if_neg hbegins, if_neg hbegins]
        rfl

/-- The text of the first lexeme and what is left make up the text. -/
theorem toList_text_first (c : Char) (cs : List Char) :
    (first c cs).text.toList ++ (first c cs).rest = c :: cs := by
  unfold first
  split
  · simp
  · split
    · next hphrase =>
      obtain ⟨rfl, hclosed⟩ := hphrase
      obtain ⟨inner, after, rfl, hinner⟩ := List.eq_append_cons_of_mem hclosed
      obtain ⟨htake, hdrop⟩ : (inner ++ '"' :: after).takeWhile (· ≠ '"') = inner ∧
          (inner ++ '"' :: after).dropWhile (· ≠ '"') = '"' :: after := by
        have hall : ∀ d ∈ inner, decide (d ≠ '"') = true := fun d hd => by
          simpa using ne_of_mem_of_not_mem hd hinner
        rw [List.takeWhile_append_of_pos hall, List.dropWhile_append_of_pos hall]
        simp
      simp only [htake, hdrop, String.toList_ofList, List.tail_cons]
      simp
    · split
      · next hor =>
        obtain ⟨rfl, hR, -⟩ := hor
        cases cs with
        | nil => simp at hR
        | cons d cs =>
          obtain rfl : d = 'R' := by simpa using hR
          simp
      · split
        · simp
        · simp

theorem length_text_first (c : Char) (cs : List Char) :
    (first c cs).text.length + (first c cs).rest.length = (c :: cs).length := by
  rw [← toList_text_first, List.length_append, String.length_toList]

/-- White space in front of a text is skipped. -/
theorem tokensFrom_blanks {blank : List Char} (hblank : blank.all isWhiteSpace = true)
    (rest : List Char) (position : Nat) :
    tokensFrom position (blank ++ rest) = tokensFrom (position + blank.length) rest := by
  induction blank generalizing position with
  | nil => rfl
  | cons c blank ih =>
    simp only [List.all_cons, Bool.and_eq_true] at hblank
    rw [List.cons_append, tokensFrom_blank hblank.1, ih hblank.2, List.length_cons, Nat.add_assoc,
      Nat.add_comm 1]

theorem first_kind_eq_whiteSpace_iff {c : Char} {cs : List Char} :
    (first c cs).kind = .whiteSpace ↔ isWhiteSpace c = true := by
  constructor
  · intro h
    by_contra hspace
    have hmem := signKind_mem c
    rw [first, if_neg hspace] at h
    split at h
    · cases h
    · split at h
      · cases h
      · split at h
        · cases h
        · rw [show signKind c = .whiteSpace from h] at hmem
          simp at hmem
  · intro hspace
    rw [first, if_pos hspace]

/-- **A text has its tokens whatever comes after it**, if no word goes on there and no quote in it is
left open. -/
theorem tokensFrom_append {text rest : List Char} {position : Nat} (hrest : Separated rest)
    (hquotes : ∀ t ∈ tokensFrom position text, t.kind ≠ .quote) :
    tokensFrom position (text ++ rest) =
      tokensFrom position text ++ tokensFrom (position + text.length) rest := by
  fun_induction tokensFrom position text with
  | case1 => rfl
  | case2 position c cs x after hk ih =>
    have hspace : isWhiteSpace c = true := first_kind_eq_whiteSpace_iff.mp hk
    have hfirst : x = ⟨.whiteSpace, .ofList (c :: cs.takeWhile isWhiteSpace),
        cs.dropWhile isWhiteSpace⟩ := by
      change first c cs = _
      rw [first, if_pos hspace]
    have hblank : x.text.toList.all isWhiteSpace = true := by
      rw [hfirst, String.toList_ofList, List.all_cons, hspace, Bool.true_and, List.all_eq_true]
      exact fun d hd => List.mem_takeWhile_imp hd
    have hlength : x.text.length + x.rest.length = (c :: cs).length := length_text_first c cs
    have hsplit : c :: cs ++ rest = x.text.toList ++ (x.rest ++ rest) := by
      rw [← List.append_assoc, toList_text_first]
    rw [hsplit, tokensFrom_blanks hblank, String.length_toList, ih hquotes, Nat.add_assoc, hlength]
  | case3 position c cs x after hk ih =>
    have hspace : isWhiteSpace c = false :=
      Bool.eq_false_iff.mpr (mt first_kind_eq_whiteSpace_iff.mpr hk)
    have hkind : x.kind ≠ .quote := hquotes _ (List.mem_cons_self ..)
    have hlength : x.text.length + x.rest.length = (c :: cs).length := length_text_first c cs
    have hfirst : first c (cs ++ rest) = x.extend rest := first_append hspace hkind hrest
    have hafter := ih fun t ht => hquotes t (List.mem_cons_of_mem _ ht)
    have hk' : ¬ (x.extend rest).kind = .whiteSpace := hk
    rw [List.cons_append, tokensFrom_cons, hfirst, if_neg hk', List.cons_append]
    refine congrArg _ (hafter.trans ?_)
    rw [Nat.add_assoc, hlength]

/-- No word goes on where white space stands. -/
theorem separated_of_blank {blank : List Char} (hne : blank ≠ [])
    (hblank : blank.all isWhiteSpace = true) (rest : List Char) : Separated (blank ++ rest) := by
  obtain ⟨c, blank, rfl⟩ := List.exists_cons_of_ne_nil hne
  simp only [List.all_cons, Bool.and_eq_true] at hblank
  refine separated_cons (Bool.eq_false_iff.mpr fun hc => ?_) _
  simp [not_isWhiteSpace_of_continuesWord hc] at hblank

/-- **Texts with white space between them** have the tokens of the one and then, further on, those of
the other. -/
theorem tokens_append_blank {q₁ blank : String} (hne : blank ≠ "")
    (hblank : blank.toList.all isWhiteSpace = true) (hquotes : ∀ t ∈ tokens q₁, t.kind ≠ .quote)
    (q₂ : String) :
    tokens (q₁ ++ blank ++ q₂) =
      tokens q₁ ++ (tokens q₂).map (Token.shift (q₁ ++ blank).length) := by
  have hseparated := separated_of_blank (mt String.toList_eq_nil_iff.mp hne) hblank q₂.toList
  have hlength : q₁.toList.length + blank.toList.length = (q₁ ++ blank).length := by
    rw [← String.length_toList, String.toList_append, List.length_append]
  have hshift := tokensFrom_shift (q₁ ++ blank).length 0 q₂.toList
  rw [Nat.zero_add] at hshift
  rw [tokens, String.toList_append, String.toList_append, List.append_assoc,
    tokensFrom_append hseparated hquotes, tokensFrom_blanks hblank, Nat.zero_add, hlength, hshift]
  rfl

end Lexer

namespace Scanner

open Lexer

/-- **Scanning goes over white space piece by piece.** If the tokens of a query `q₁` leave no quote
open, then `q₁`, white space and any query `q₂` have the tokens of `q₁` and those of `q₂`, further on
by the characters before `q₂`. So another run of white space in its place changes no kind and no text
of a token. -/
theorem tokenize_append_blank {q₁ blank : String} {ts₁ : List Token} {s₁ : Scanner}
    (h₁ : new.tokenize q₁ = some (ts₁, s₁)) (hquotes : ∀ t ∈ ts₁, t.kind ≠ .quote)
    (hne : blank ≠ "") (hblank : blank.toList.all isWhiteSpace = true) (q₂ : String) :
    ∃ ts₂, (new.tokenize q₂).map (·.1) = some ts₂ ∧
      (new.tokenize (q₁ ++ blank ++ q₂)).map (·.1) =
        some (ts₁ ++ ts₂.map (Token.shift (q₁ ++ blank).length)) ∧
      ∀ blank' : String, blank' ≠ "" → blank'.toList.all isWhiteSpace = true →
        (new.tokenize (q₁ ++ blank' ++ q₂)).map (·.1.map fun t => (t.kind, t.text)) =
          (new.tokenize (q₁ ++ blank ++ q₂)).map (·.1.map fun t => (t.kind, t.text)) := by
  have htokens (input : String) : (new.tokenize input).map (·.1) = some (tokens input) := by
    obtain ⟨s', h⟩ := exists_tokenize_eq (s := new) rfl input
    rw [h]
    rfl
  obtain rfl : ts₁ = tokens q₁ := by
    have h := htokens q₁
    rw [h₁] at h
    exact Option.some.inj h
  refine ⟨tokens q₂, htokens q₂, ?_, fun blank' hne' hblank' => ?_⟩
  · rw [htokens, tokens_append_blank hne hblank hquotes]
  · have hkinds (b : String) (hne : b ≠ "") (hb : b.toList.all isWhiteSpace = true) :
        (new.tokenize (q₁ ++ b ++ q₂)).map (·.1.map fun t => (t.kind, t.text)) =
          some ((tokens q₁ ++ tokens q₂).map fun t => (t.kind, t.text)) := by
      have h := congrArg (Option.map (List.map fun t : Token => (t.kind, t.text)))
        (htokens (q₁ ++ b ++ q₂))
      rw [tokens_append_blank hne hb hquotes, Option.map_map] at h
      refine h.trans (congrArg some ?_)
      simp [Function.comp_def]
    rw [hkinds blank' hne' hblank', hkinds blank hne hblank]

/-- `OR` at the end of the one query, and a word that begins with it in the other, with an ideographic
space and a line feed between them. -/
theorem tokenize_append_blank_or :
    let ts : List Token := [⟨.phrase, some "\"a b\"", 0⟩, ⟨.or, some "OR", 6⟩]
    (∀ t ∈ ts, t.kind ≠ .quote) ∧ "\u3000\n".toList.all isWhiteSpace = true ∧
      (new.tokenize "\"a b\" OR").map (·.1) = some ts ∧
      (new.tokenize ("\"a b\" OR" ++ "\u3000\n" ++ "ORx \"")).map (·.1) =
        some (ts ++ [⟨.word, some "ORx", 10⟩, ⟨.quote, some "\"", 14⟩]) := by
  intro ts
  have hquotes : ∀ t ∈ ts, t.kind ≠ .quote := by decide
  have hblank : "\u3000\n".toList.all isWhiteSpace = true := by decide +kernel
  have h₁ : (new.tokenize "\"a b\" OR").map (·.1) = some ts := by decide +kernel
  have h₂ : (new.tokenize "ORx \"").map (·.1) =
      some [⟨.word, some "ORx", 0⟩, ⟨.quote, some "\"", 4⟩] := by decide +kernel
  obtain ⟨⟨ts₁, s₁⟩, hscan, rfl⟩ := Option.map_eq_some_iff.mp h₁
  obtain ⟨ts₂, hts₂, happend, -⟩ :=
    tokenize_append_blank hscan hquotes (by decide) hblank "ORx \""
  obtain rfl := Option.some.inj (hts₂.symm.trans h₂)
  exact ⟨hquotes, hblank, h₁, happend⟩

end Scanner

/-! ## Queries anywhere -/

namespace Grammar

variable {part : Part} {d : Nat} {ts : List Token} {n : Node}

/-- A derivation does not look at the places of tokens. -/
theorem Derives.shift (h : Derives part d ts n) (k : Nat) :
    Derives part d (ts.map (Token.shift k)) n := by
  induction h with
  | word hk ht => exact .word hk ht
  | phrase hk => exact .phrase hk
  | field hk => exact .field hk
  | group ho h hc ih =>
    rw [List.map_append, List.map_cons, List.map_singleton]
    exact .group ho ih hc
  | plain h ih => exact .plain ih
  | negated hk h ih => exact .negated hk ih
  | single h ih => exact .single ih
  | besides hl hr ihl ihr =>
    rw [List.map_append]
    exact .besides ihl ihr
  | and hl hk ht hr ihl ihr =>
    rw [List.map_append, List.map_cons]
    exact .and ihl hk ht ihr
  | branch h ih => exact .branch ih
  | or hl hk hr ihl ihr =>
    rw [List.map_append, List.map_cons]
    exact .or ihl hk ihr

/-- No token of a query is a quote that is left open. -/
theorem Derives.kind_ne_quote (h : Derives part d ts n) : ∀ t ∈ ts, t.kind ≠ .quote := by
  induction h with
  | word hk ht => simp [hk]
  | phrase hk | field hk => simp [hk]
  | group ho h hc ih => simpa [ho, hc, or_imp, forall_and] using ih
  | plain h ih | single h ih | branch h ih => exact ih
  | negated hk h ih => simpa [hk] using ih
  | besides hl hr ihl ihr => simpa [or_imp, forall_and] using ⟨ihl, ihr⟩
  | and hl hk ht hr ihl ihr | or hl hk hr ihl ihr =>
    simpa [hk, or_imp, forall_and] using ⟨ihl, ihr⟩

/-- A tree may be derived wherever its groups are not too deep. -/
theorem Derives.of_nesting_le (h : Derives part d ts n) {d' : Nat} (hd : n.nesting ≤ d') :
    Derives part d' ts n := by
  induction h generalizing d' with
  | word hk ht => exact .word hk ht
  | phrase hk => exact .phrase hk
  | field hk => exact .field hk
  | group ho h hc ih =>
    obtain ⟨d', rfl⟩ := Nat.exists_eq_succ_of_ne_zero (Nat.ne_zero_of_lt hd)
    exact .group ho (ih (Nat.le_of_succ_le_succ hd)) hc
  | plain h ih => exact .plain (ih hd)
  | negated hk h ih => exact .negated hk (ih hd)
  | single h ih => exact .single (ih hd)
  | besides hl hr ihl ihr =>
    exact .besides (ihl ((Nat.le_max_left ..).trans hd)) (ihr ((Nat.le_max_right ..).trans hd))
  | and hl hk ht hr ihl ihr =>
    exact .and (ihl ((Nat.le_max_left ..).trans hd)) hk ht (ihr ((Nat.le_max_right ..).trans hd))
  | branch h ih => exact .branch (ih hd)
  | or hl hk hr ihl ihr =>
    exact .or (ihl ((Nat.le_max_left ..).trans hd)) hk (ihr ((Nat.le_max_right ..).trans hd))

end Grammar

open Lexer

/-- **A query with a tree spells this tree wherever it stands**, within as many groups as leave room
for its own. -/
theorem spelling_of_parse {q : String} {n : Node} (h : parse q = some (.ok n)) {d : Nat}
    (hd : n.nesting ≤ d) : Spelling q.toList .disjunction d n := by
  have hderives := (parse_eq_ok_iff_derives q n).mp h
  intro rest hrest position
  have hshift : tokensFrom position q.toList = (tokens q).map (Token.shift position) := by
    rw [tokens, ← tokensFrom_shift, Nat.zero_add]
  have hmoved := (hderives.shift position).of_nesting_le hd
  rw [← hshift] at hmoved
  exact ⟨_, tokensFrom_append hrest hmoved.kind_ne_quote, hmoved⟩

/-- A text that spells a tree is a query with this tree. -/
theorem parse_of_spelling {q : String} {part : Part} {n : Node}
    (h : Spelling q.toList part maxNesting n) : parse q = some (.ok n) := by
  obtain ⟨ts, htokens, hderives⟩ := h [] rfl 0
  rw [tokensFrom, List.append_nil, List.append_nil] at htokens
  rw [parse_eq_ok_iff_derives, tokens, htokens]
  exact hderives.disjunction

end SearchQuery
