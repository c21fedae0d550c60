import SearchQuery.Proofs.Scanning

/-!
# The lexer of the built-in rules

A lexer that goes over the characters of a query without any pattern: `first` takes the first
lexeme off a text, and `tokens` goes on to the end. It is what a scanner without rules of the caller
comes to, step by step (`lexeme_eq_first`) and over a whole query (`exists_tokenize_eq`).
`first_spells` says what the texts of the tokens look like.
-/

namespace SearchQuery

open Text

namespace Lexer

/-! ## The lexer -/

/-- The characters that may begin a word. -/
def beginsWord (c : Char) : Bool := isLetter c || isNumber c || ['_', '.', '/', '%'].contains c

/-- The characters that may continue a word. -/
def continuesWord (c : Char) : Bool := beginsWord c || c = '-'

/-- The kind of a character that is a token by itself. -/
def signKind (c : Char) : Kind :=
  match c with
  | '(' => .openParen
  | ')' => .closeParen
  | '-' => .minus
  | ':' => .colon
  | '"' => .quote
  | _ => .illegal

/-- The first lexeme of the text `c :: cs`: all white space; a phrase, if there is another quote;
the word `OR`, if no word goes on after it; the longest word; or a single character. -/
def first (c : Char) (cs : List Char) : Scanner.Lexeme :=
  if isWhiteSpace c then
    ⟨.whiteSpace, .ofList (c :: cs.takeWhile isWhiteSpace), cs.dropWhile isWhiteSpace⟩
  else if c = '"' ∧ '"' ∈ cs then
    ⟨.phrase, .ofList ('"' :: cs.takeWhile (· ≠ '"') ++ ['"']), (cs.dropWhile (· ≠ '"')).tail⟩
  else if c = 'O' ∧ cs.head? = some 'R' ∧ cs.tail.head?.all (!continuesWord ·) then
    ⟨.or, "OR", cs.tail⟩
  else if beginsWord c then
    ⟨.word, .ofList (c :: cs.takeWhile continuesWord), cs.dropWhile continuesWord⟩
  else ⟨signKind c, .ofList [c], cs⟩

theorem length_first_rest_le (c : Char) (cs : List Char) :
    (first c cs).rest.length ≤ cs.length := by
  unfold first
  split
  · exact List.length_dropWhile_le ..
  · split
    · rw [List.length_tail]
      exact (Nat.sub_le _ _).trans (List.length_dropWhile_le ..)
    · split
      · rw [List.length_tail]
        exact Nat.sub_le _ _
      · split
        · exact List.length_dropWhile_le ..
        · exact Nat.le_refl _

/-- The tokens of a text before which there are `position` characters. White space is skipped. -/
def tokensFrom (position : Nat) : List Char → List Token
  | [] => []
  | c :: cs =>
    let x := first c cs
    let rest := tokensFrom (position + x.text.length) x.rest
    if x.kind = .whiteSpace then rest else ⟨x.kind, some x.text, position⟩ :: rest
termination_by text => text.length
decreasing_by exact Nat.lt_succ_of_le (length_first_rest_le c cs)

/-- The tokens of a query. -/
def tokens (input : String) : List Token := tokensFrom 0 input.toList

theorem tokensFrom_cons (position : Nat) (c : Char) (cs : List Char) :
    tokensFrom position (c :: cs) =
      if (first c cs).kind = .whiteSpace then
        tokensFrom (position + (first c cs).text.length) (first c cs).rest
      else
        ⟨(first c cs).kind, some (first c cs).text, position⟩ ::
          tokensFrom (position + (first c cs).text.length) (first c cs).rest := by
  rw [tokensFrom]

/-! ## The texts of the tokens -/

/-- The texts that are a word as a whole. -/
def isWord (text : String) : Bool :=
  match text.toList with
  | [] => false
  | c :: cs => beginsWord c && cs.all continuesWord

/-- The texts of the tokens of a kind: a word is not `OR`, and a phrase has no quote inside. -/
def Spells (text : String) : Kind → Prop
  | .word => isWord text = true ∧ text ≠ "OR"
  | .phrase => ∃ inner : List Char, '"' ∉ inner ∧ text = .ofList ('"' :: inner ++ ['"'])
  | .finish | .field _ => False
  | _ => True

theorem isWord_ofList (c : Char) (cs : List Char) (hc : beginsWord c = true) :
    isWord (.ofList (c :: cs.takeWhile continuesWord)) = true := by
  simp only [isWord, String.toList_ofList, hc, Bool.true_and, List.all_eq_true]
  exact fun d hd => List.mem_takeWhile_imp hd

/-- The longest word is `OR` just where no word goes on after it. -/
theorem ofList_takeWhile_eq_or_iff {c : Char} {cs : List Char} :
    String.ofList (c :: cs.takeWhile continuesWord) = "OR" ↔
      c = 'O' ∧ cs.head? = some 'R' ∧ cs.tail.head?.all (!continuesWord ·) := by
  have hr : continuesWord 'R' = true := by decide
  have hlist : String.ofList (c :: cs.takeWhile continuesWord) = "OR" ↔
      c = 'O' ∧ cs.takeWhile continuesWord = ['R'] := by
    rw [← List.cons.injEq, ← String.ofList_inj]
  rw [hlist, and_congr_right_iff]
  rintro -
  cases cs with
  | nil => simp
  | cons d cs =>
    by_cases hd : d = 'R'
    · subst hd
      rw [List.takeWhile_cons_of_pos hr]
      cases cs with
      | nil => simp
      | cons e cs => cases he : continuesWord e <;> simp [he]
    · cases hd' : continuesWord d <;> simp [hd, hd']

theorem signKind_mem (c : Char) :
    signKind c ∈ [Kind.openParen, .closeParen, .minus, .colon, .quote, .illegal] := by
  fun_cases signKind c <;> decide

theorem first_spells (c : Char) (cs : List Char) :
    Spells (first c cs).text (first c cs).kind := by
  unfold first
  split
  · trivial
  · split
    · refine ⟨cs.takeWhile (· ≠ '"'), fun h => ?_, rfl⟩
      simpa using List.mem_takeWhile_imp h
    · split
      · trivial
      · next hor =>
        split
        · next hc => exact ⟨isWord_ofList c cs hc, mt ofList_takeWhile_eq_or_iff.mp hor⟩
        · have hmem := signKind_mem c
          simp only [List.mem_cons, List.not_mem_nil, or_false] at hmem
          rcases hmem with h | h | h | h | h | h <;> simp [h, Spells]

/-- Every token is spelled as its kind demands. -/
theorem tokensFrom_spells (position : Nat) (text : List Char) :
    ∀ t ∈ tokensFrom position text, ∃ x, t.text = some x ∧ Spells x t.kind := by
  fun_induction tokensFrom position text with
  | case1 => simp
  | case2 position c cs x rest hk ih => exact ih
  | case3 position c cs x rest hk ih =>
    intro t ht
    rcases List.mem_cons.mp ht with rfl | ht
    · exact ⟨x.text, rfl, first_spells c cs⟩
    · exact ih t ht

/-! ## The sets of the patterns -/

theorem contains_wordStart (c : Char) : Rule.wordStart.contains c = beginsWord c := by
  have hletter : CharSet.letter.contains c = isLetter c := by
    simp only [CharSet.letter, CharSet.contains, isLetter]
    cases Category.of c <;> rfl
  have hnumber : CharSet.number.contains c = isNumber c := by
    simp only [CharSet.number, CharSet.contains, isNumber]
    cases Category.of c <;> rfl
  simp [Rule.wordStart, CharSet.unions, CharSet.contains, CharSet.contains_single, hletter, hnumber,
    beginsWord, Bool.or_assoc]

theorem contains_wordContinue (c : Char) : Rule.wordContinue.contains c = continuesWord c := by
  rw [continuesWord, ← contains_wordStart]
  simp only [Rule.wordContinue, Rule.wordStart, CharSet.unions, List.foldl, CharSet.contains,
    CharSet.contains_single]
  ac_rfl

end Lexer

/-! ## The scanner without rules of the caller -/

namespace Scanner

theorem lexeme?_of_cut? {r : Rule} {text token rest : List Char} {b : Prop} [Decidable b]
    (hkind : r.kind.isField = false)
    (h : r.cut? text = if b then some (token, rest) else none) :
    lexeme? text r = if b then some ⟨r.kind, String.ofList token, rest⟩ else none := by
  rw [lexeme?, h]
  by_cases hb : b <;> simp [hb, hkind]

theorem findSome?_cons_ite {α β : Type} {f : α → Option β} {a : α} {l : List α} {x : β} {b : Prop}
    [Decidable b] (h : f a = if b then some x else none) :
    (a :: l).findSome? f = if b then some x else l.findSome? f := by
  rw [List.findSome?_cons, h]
  by_cases hb : b <;> simp [hb]

theorem lexeme?_builtinChar (kind : Kind) (token : String) (c d : Char) (cs : List Char)
    (hkind : kind.isField = false) :
    lexeme? (c :: cs) (Rule.builtinChar kind token d) =
      if c = d then some ⟨kind, String.ofList [c], cs⟩ else none :=
  lexeme?_of_cut? hkind (Rule.cut?_builtinChar c cs kind token d)

/-- The rules for single characters make up `Lexer.signKind`. -/
theorem findSome?_signs (c : Char) (cs : List Char) :
    Rule.generic.tail.findSome? (lexeme? (c :: cs)) =
      some ⟨Lexer.signKind c, String.ofList [c], cs⟩ := by
  rw [Rule.generic, List.tail_cons]
  rw [findSome?_cons_ite (lexeme?_builtinChar _ _ c _ cs rfl),
    findSome?_cons_ite (lexeme?_builtinChar _ _ c _ cs rfl),
    findSome?_cons_ite (lexeme?_builtinChar _ _ c _ cs rfl),
    findSome?_cons_ite (lexeme?_builtinChar _ _ c _ cs rfl),
    findSome?_cons_ite (lexeme?_builtinChar _ _ c _ cs rfl),
    List.findSome?_cons, lexeme?_illegalRule]
  fun_cases Lexer.signKind c with
  | case6 =>
    rename_i h₁ h₂ h₃ h₄ h₅
    rw [if_neg h₁, if_neg h₂, if_neg h₃, if_neg h₄, if_neg h₅]
  | _ => simp

/-- Without rules of the caller, the first rule that applies cuts off the first lexeme of the
lexer. -/
theorem findSome?_lexeme?_eq_first {s : Scanner} (hf : s.fields = []) {c : Char} {cs : List Char}
    (hs : s.rest = c :: cs) : s.rules.findSome? (lexeme? s.rest) = some (Lexer.first c cs) := by
  have hcontinue : Rule.wordContinue.contains = Lexer.continuesWord :=
    funext Lexer.contains_wordContinue
  have hrules : s.rules = Rule.whiteSpaceRule :: Rule.phraseRule :: Rule.orRule :: Rule.wordRule ::
      Rule.generic.tail := by
    rw [rules, hf]
    rfl
  rw [hs, hrules, findSome?_cons_ite (lexeme?_of_cut? rfl (Rule.cut?_whiteSpaceRule c cs)),
    findSome?_cons_ite (lexeme?_of_cut? rfl (Rule.cut?_phraseRule c cs)),
    findSome?_cons_ite (lexeme?_of_cut? rfl (Rule.cut?_orRule c cs)),
    findSome?_cons_ite (lexeme?_of_cut? rfl (Rule.cut?_wordRule c cs)), findSome?_signs,
    Lexer.contains_wordStart, hcontinue]
  simp only [Lexer.first, apply_ite some]
  rfl

theorem lexeme_eq_first {s : Scanner} (hf : s.fields = []) {c : Char} {cs : List Char}
    (hs : s.rest = c :: cs) : s.lexeme = Lexer.first c cs := by
  rw [lexeme, findSome?_lexeme?_eq_first hf hs]
  rfl

/-- The built-in rules never stand still. -/
theorem not_stalls {s : Scanner} (hf : s.fields = []) (hs : s.rest ≠ []) : ¬ s.Stalls := by
  intro h
  obtain ⟨c, cs, hrest⟩ := List.exists_cons_of_ne_nil hs
  have hle := Lexer.length_first_rest_le c cs
  rw [← lexeme_eq_first hf hrest, lexeme_rest_of_stalls h, hrest, List.length_cons] at hle
  omega

/-- A step takes one lexeme off what the lexer has still to read. -/
theorem tokensFrom_stepped {s : Scanner} (hf : s.fields = []) (hs : s.rest ≠ []) :
    Lexer.tokensFrom s.position s.rest =
      if s.lexeme.kind = .whiteSpace then Lexer.tokensFrom s.stepped.position s.stepped.rest
      else s.scan.1 :: Lexer.tokensFrom s.stepped.position s.stepped.rest := by
  obtain ⟨c, cs, hrest⟩ := List.exists_cons_of_ne_nil hs
  rw [rest_stepped, position_stepped, scan_fst, lexeme_eq_first hf hrest, hrest,
    Lexer.tokensFrom_cons]

theorem Skips.tokensFrom_eq {s s' : Scanner} (h : s.Skips s') (hf : s.fields = []) :
    s'.fields = [] ∧
      Lexer.tokensFrom s.position s.rest = Lexer.tokensFrom s'.position s'.rest := by
  induction h with
  | refl s => exact ⟨hf, rfl⟩
  | blank hs hk h ih =>
    rename_i s s'
    obtain ⟨hf', heq⟩ := ih ((fields_stepped s).trans hf)
    rw [tokensFrom_stepped hf hs, if_pos hk]
    exact ⟨hf', heq⟩

theorem scan_fst_isEnd {s : Scanner} (hf : s.fields = []) (hs : s.rest ≠ []) :
    s.scan.1.isEnd = false := by
  obtain ⟨c, cs, hrest⟩ := List.exists_cons_of_ne_nil hs
  have hspells := Lexer.first_spells c cs
  rw [← lexeme_eq_first hf hrest] at hspells
  rw [scan_fst, Token.isEnd, decide_eq_false_iff_not]
  intro (hk : s.lexeme.kind = .finish)
  rw [hk] at hspells
  exact hspells

/-- With more tokens allowed than there are characters, a scanner without rules of the caller comes
to the end and gives the tokens of the lexer. -/
theorem tokensWithin_eq_tokensFrom {n : Nat} {s : Scanner} (hf : s.fields = [])
    (hn : s.rest.length < n) :
    ∃ s', s.tokensWithin n = some (Lexer.tokensFrom s.position s.rest, s') := by
  induction n generalizing s with
  | zero => omega
  | succ n ih =>
    obtain ⟨s', hskips, h⟩ := advance_cases s
    obtain ⟨hf', htokens⟩ := hskips.tokensFrom_eq hf
    have hle := hskips.reaches.length_le
    rcases h with ⟨hs, ha⟩ | ⟨hs, hk, ha⟩ | ⟨hs, -, hstalls, -⟩
    · rw [tokensWithin, ha, htokens, hs, Lexer.tokensFrom]
      exact ⟨_, rfl⟩
    · have hlt := length_rest_stepped_lt hs (not_stalls hf' hs)
      obtain ⟨s'', hrun⟩ := ih ((fields_stepped s').trans hf') (by omega)
      rw [tokensWithin, ha, htokens, tokensFrom_stepped hf' hs, if_neg hk]
      simp only [scan_fst_isEnd hf' hs, hrun]
      exact ⟨s'', rfl⟩
    · exact absurd hstalls (not_stalls hf' hs)

/-- A scanner without rules of the caller cuts every query into the tokens of the lexer. -/
theorem exists_tokenize_eq {s : Scanner} (hf : s.fields = []) (input : String) :
    ∃ s', s.tokenize input = some (Lexer.tokens input, s') := by
  have hn : (s.read input).rest.length < input.length + 1 :=
    Nat.lt_succ_of_le (Nat.le_of_eq String.length_toList)
  exact tokensWithin_eq_tokensFrom hf hn

/-- **The built-in rules are the lexer**: on every query the scanner gives the tokens of the lexer,
of which no word is `OR`, and before the end of a query some rule always applies. -/
theorem tokenize_new_eq_tokens (input : String) :
    (new.tokenize input).map (·.1) = some (Lexer.tokens input) ∧
      (∀ t ∈ Lexer.tokens input, t.kind = .word → t.text ≠ some "OR") ∧
      (∀ s : Scanner, s.rest ≠ [] → (s.rules.findSome? (lexeme? s.rest)).isSome) := by
  refine ⟨?_, fun t ht hk htext => ?_, fun s hs => ?_⟩
  · obtain ⟨s', h⟩ := exists_tokenize_eq (s := new) rfl input
    rw [h]
    rfl
  · obtain ⟨x, hx, hspells⟩ := Lexer.tokensFrom_spells 0 input.toList t ht
    rw [hk] at hspells
    exact hspells.2 (Option.some.inj (hx.symm.trans htext))
  · obtain ⟨r, hr⟩ := Option.isSome_iff_exists.mp (chosen?_isSome hs)
    rw [findSome?_eq_bind_find?, ← chosen?, hr, Option.bind_some, lexeme?_of_chosen? hr]
    rfl

end Scanner

end SearchQuery
