import SearchQuery.Node.Rendering
import SearchQuery.Proofs.Lexer
import SearchQuery.Proofs.Parsing

/-!
# Printing and parsing again

A tree is printed without any parentheses but those of its groups. `Node.Canonical` tells the trees
for which that is enough.

* `Spelling`: a text is cut into the tokens of a derivation, as long as no word goes on after it.
  What a well-formed tree is printed as spells the tree (`Node.spelling_print`).
* The trees that are derived from the tokens of the lexer are well-formed (`wellFormed_of_derives`).
* So the canonical trees are the trees that are read as they are printed (`parse_print`), and the
  trees of all queries (`canonical_of_parse`).
-/

namespace SearchQuery

open Text Grammar

/-! ## Parts within parts -/

namespace Grammar

/-- The parts from the smallest to the greatest; each may be the next by itself. -/
def Part.level : Part → Nat
  | atom => 0
  | operand => 1
  | conjunction => 2
  | disjunction => 3

instance : Preorder Part := Preorder.lift Part.level

instance (p q : Part) : Decidable (p ≤ q) := inferInstanceAs (Decidable (p.level ≤ q.level))

variable {part : Part} {d : Nat} {ts : List Token} {n : Node}

theorem Derives.atom (h : Derives part d ts n) (hle : part ≤ .atom) : Derives .atom d ts n := by
  cases part with
  | atom => exact h
  | _ => exact absurd hle (by decide)

theorem Derives.operand (h : Derives part d ts n) (hle : part ≤ .operand) :
    Derives .operand d ts n := by
  cases part with
  | atom => exact .plain h
  | operand => exact h
  | conjunction => exact absurd hle (by decide)
  | disjunction => exact absurd hle (by decide)

theorem Derives.conjunction (h : Derives part d ts n) (hle : part ≤ .conjunction) :
    Derives .conjunction d ts n := by
  cases part with
  | atom => exact .single (.plain h)
  | operand => exact .single h
  | conjunction => exact h
  | disjunction => exact absurd hle (by decide)

theorem Derives.disjunction (h : Derives part d ts n) : Derives .disjunction d ts n := by
  cases part with
  | disjunction => exact h
  | _ => exact .branch (h.conjunction (by decide))

end Grammar

/-! ## Canonical trees -/

namespace Node

/-- The part of a query that the tree is by its outermost node. -/
def part : Node → Part
  | term _ | phrase _ | field _ _ | group _ => .atom
  | not _ => .operand
  | and _ _ => .conjunction
  | or _ _ => .disjunction

/-- Whether all parts of the tree stand where they are read as such: a minus before an atom, no
disjunction beside a connective but on the left of `OR`, and no conjunction on the right of
`AND`. -/
def wellFormed : Node → Bool
  | term word => Lexer.isWord word && word ≠ andKeyword && word ≠ "OR"
  | phrase text => '"' ∉ text.toList
  | field _ _ => false
  | not n => n.part ≤ .atom && n.wellFormed
  | and l r => l.part ≤ .conjunction && r.part ≤ .operand && l.wellFormed && r.wellFormed
  | or l r => r.part ≤ .conjunction && l.wellFormed && r.wellFormed
  | group n => n.wellFormed

/-- The number of groups around each other. -/
def nesting : Node → Nat
  | term _ | phrase _ | field _ _ => 0
  | not n => n.nesting
  | and l r | or l r => Nat.max l.nesting r.nesting
  | group n => n.nesting + 1

/-- Well-formed trees with no more groups around each other than parentheses may be open. -/
def Canonical (n : Node) : Prop := n.wellFormed = true ∧ n.nesting ≤ maxNesting

instance (n : Node) : Decidable n.Canonical :=
  inferInstanceAs (Decidable (n.wellFormed = true ∧ n.nesting ≤ maxNesting))

end Node

/-! ## Characters -/

theorem Text.whiteSpace_eq : PropertyTable.whiteSpace =
    [(0x9, 0xD), (0x20, 0x20), (0x85, 0x85), (0xA0, 0xA0), (0x1680, 0x1680), (0x2000, 0x200A),
      (0x2028, 0x2029), (0x202F, 0x202F), (0x205F, 0x205F), (0x3000, 0x3000)] := by
  decide +kernel

theorem Text.Ranges.mem_of_containsCode {rs : Ranges} {n : Nat} (h : rs.containsCode n = true) :
    n ∈ rs.flatMap fun r => List.range' r.1 (r.2 + 1 - r.1) := by
  induction rs with
  | nil => simp [containsCode] at h
  | cons r rs ih =>
    obtain ⟨lo, hi⟩ := r
    rw [List.flatMap_cons, List.mem_append, List.mem_range'_1]
    simp only [containsCode] at h
    split at h
    · simp at h
    · rcases Bool.or_eq_true_iff.mp h with hle | hrest
      · have hhi : n ≤ hi := by simpa using hle
        exact .inl (by simp only; omega)
      · exact .inr (ih hrest)

namespace Lexer

/-- White space is in no word. -/
theorem not_isWhiteSpace_of_continuesWord {c : Char} (h : continuesWord c = true) :
    isWhiteSpace c = false := by
  have hall : ∀ n ∈ PropertyTable.whiteSpace.flatMap fun r => List.range' r.1 (r.2 + 1 - r.1),
      continuesWord (Char.ofNat n) = false := by
    rw [whiteSpace_eq]
    decide +kernel
  by_contra hspace
  have hmem := Ranges.mem_of_containsCode (eq_true_of_ne_false hspace)
  simpa [h] using hall _ hmem

theorem isWhiteSpace_space : isWhiteSpace ' ' = true := by
  rw [isWhiteSpace, whiteSpace_eq]
  decide

theorem continuesWord_space : continuesWord ' ' = false := by decide

/-- The characters that a printed tree has besides words and blanks are not white space. -/
theorem not_isWhiteSpace_of_mem {c : Char} (h : c ∈ ['"', '-', '(', ')', 'O']) :
    isWhiteSpace c = false := by
  have hall : ['"', '-', '(', ')', 'O'].all (!isWhiteSpace ·) = true := by
    simp only [isWhiteSpace, whiteSpace_eq]
    decide
  simpa using List.all_eq_true.mp hall c h

/-! ## Cutting up what is printed -/

/-- No word goes on at the beginning of the text. -/
def Separated (text : List Char) : Prop := text.head?.all (!continuesWord ·) = true

theorem separated_cons {c : Char} (h : continuesWord c = false) (cs : List Char) :
    Separated (c :: cs) := by
  simp [Separated, h]

/-- A step by its first lexeme. -/
theorem tokensFrom_of_first {c : Char} {cs rest : List Char} {kind : Kind} {text : String}
    (h : first c cs = ⟨kind, text, rest⟩) (hk : kind ≠ .whiteSpace) (position : Nat) :
    tokensFrom position (c :: cs) =
      ⟨kind, some text, position⟩ :: tokensFrom (position + text.length) rest := by
  rw [tokensFrom_cons, h, if_neg hk]

theorem takeWhile_append_separated {cs rest : List Char} (hcs : cs.all continuesWord = true)
    (hrest : Separated rest) :
    (cs ++ rest).takeWhile continuesWord = cs ∧ (cs ++ rest).dropWhile continuesWord = rest := by
  have hall := List.all_eq_true.mp hcs
  have hhead : rest.takeWhile continuesWord = [] ∧ rest.dropWhile continuesWord = rest := by
    cases rest with
    | nil => simp
    | cons c rest => simp_all [Separated]
  rw [List.takeWhile_append_of_pos hall, List.dropWhile_append_of_pos hall, hhead.1, hhead.2,
    List.append_nil]
  exact ⟨rfl, rfl⟩

theorem first_word {word : String} (hword : isWord word = true) (hor : word ≠ "OR")
    {rest : List Char} (hrest : Separated rest) :
    ∃ c cs, word.toList ++ rest = c :: cs ∧ first c cs = ⟨.word, word, rest⟩ := by
  cases hlist : word.toList with
  | nil => simp [isWord, hlist] at hword
  | cons c cs =>
    simp only [isWord, hlist, Bool.and_eq_true] at hword
    obtain ⟨hc, hcs⟩ := hword
    have hcontinues : continuesWord c = true := by simp [continuesWord, hc]
    obtain ⟨htake, hdrop⟩ := takeWhile_append_separated hcs hrest
    have htext : String.ofList (c :: cs) = word := by rw [← hlist, String.ofList_toList]
    have hquote : c ≠ '"' := by
      rintro rfl
      exact absurd hc (by decide)
    have hnotOr := mt ofList_takeWhile_eq_or_iff.mpr (htake.symm ▸ htext ▸ hor)
    refine ⟨c, cs ++ rest, rfl, ?_⟩
    rw [first, if_neg (by simp [not_isWhiteSpace_of_continuesWord hcontinues]),
      if_neg (by simp [hquote]), if_neg hnotOr, if_pos hc, htake, hdrop, htext]

theorem tokensFrom_word {word : String} (hword : isWord word = true) (hor : word ≠ "OR")
    {rest : List Char} (hrest : Separated rest) (position : Nat) :
    tokensFrom position (word.toList ++ rest) =
      ⟨.word, some word, position⟩ :: tokensFrom (position + word.length) rest := by
  obtain ⟨c, cs, heq, hfirst⟩ := first_word hword hor hrest
  rw [heq]
  exact tokensFrom_of_first hfirst (by decide) position

theorem first_phrase {inner : List Char} (hinner : '"' ∉ inner) (rest : List Char) :
    first '"' (inner ++ '"' :: rest) = ⟨.phrase, .ofList ('"' :: inner ++ ['"']), rest⟩ := by
  have hall : ∀ c ∈ inner, decide (c ≠ '"') = true := fun c hc => by
    simpa using ne_of_mem_of_not_mem hc hinner
  have htake : (inner ++ '"' :: rest).takeWhile (· ≠ '"') = inner := by
    rw [List.takeWhile_append_of_pos hall]
    simp
  have hdrop : (inner ++ '"' :: rest).dropWhile (· ≠ '"') = '"' :: rest := by
    rw [List.dropWhile_append_of_pos hall]
    simp
  have hspace : isWhiteSpace '"' = false := not_isWhiteSpace_of_mem (by decide)
  rw [first, if_neg (by simp [hspace]), if_pos (by simp), htake, hdrop, List.tail_cons]

theorem tokensFrom_phrase {inner : List Char} (hinner : '"' ∉ inner) (rest : List Char)
    (position : Nat) :
    tokensFrom position ('"' :: inner ++ '"' :: rest) =
      ⟨.phrase, some (.ofList ('"' :: inner ++ ['"'])), position⟩ ::
        tokensFrom (position + (inner.length + 2)) rest := by
  rw [List.cons_append, tokensFrom_of_first (first_phrase hinner rest) (by decide),
    String.length_ofList]
  simp

/-- The signs of a printed tree. -/
theorem first_sign {c : Char} (hc : c ∈ ['-', '(', ')']) (rest : List Char) :
    first c rest = ⟨signKind c, .ofList [c], rest⟩ := by
  obtain ⟨hmem, hquote, hO, hword⟩ : c ∈ ['"', '-', '(', ')', 'O'] ∧ c ≠ '"' ∧ c ≠ 'O' ∧
      beginsWord c = false := by
    simp only [List.mem_cons, List.not_mem_nil, or_false] at hc
    rcases hc with rfl | rfl | rfl <;> decide
  have hspace := not_isWhiteSpace_of_mem hmem
  rw [first, if_neg (by simp [hspace]), if_neg (by simp [hquote]), if_neg (by simp [hO]),
    if_neg (by simp [hword])]

theorem tokensFrom_sign {c : Char} (hc : c ∈ ['-', '(', ')']) (rest : List Char) (position : Nat) :
    tokensFrom position (c :: rest) =
      ⟨signKind c, some (.ofList [c]), position⟩ :: tokensFrom (position + 1) rest := by
  have hkind : signKind c ≠ .whiteSpace := by
    simp only [List.mem_cons, List.not_mem_nil, or_false] at hc
    rcases hc with rfl | rfl | rfl <;> decide
  rw [tokensFrom_of_first (first_sign hc rest) hkind]
  simp

/-- White space may be skipped one character at a time. -/
theorem tokensFrom_blank {c : Char} (hc : isWhiteSpace c = true) (rest : List Char)
    (position : Nat) : tokensFrom position (c :: rest) = tokensFrom (position + 1) rest := by
  rw [tokensFrom_cons, first, if_pos hc, if_pos rfl]
  cases rest with
  | nil => simp
  | cons d rest =>
    cases hd : isWhiteSpace d with
    | false => simp [hd]
    | true =>
      rw [tokensFrom_cons _ d, first, if_pos hd, if_pos rfl]
      simp [hd, Nat.add_assoc, Nat.add_comm 1]

theorem tokensFrom_and (rest : List Char) (position : Nat) :
    tokensFrom position (" AND ".toList ++ rest) =
      ⟨.word, some andKeyword, position + 1⟩ :: tokensFrom (position + 5) rest := by
  have handWord : isWord andKeyword = true := by decide
  have hword := tokensFrom_word handWord (by decide) (separated_cons continuesWord_space rest)
    (position + 1)
  refine (tokensFrom_blank isWhiteSpace_space _ position).trans (hword.trans ?_)
  rw [tokensFrom_blank isWhiteSpace_space]
  rfl

theorem first_or {rest : List Char} (hrest : Separated rest) :
    first 'O' ('R' :: rest) = ⟨.or, "OR", rest⟩ := by
  have hspace : isWhiteSpace 'O' = false := not_isWhiteSpace_of_mem (by decide)
  rw [first, if_neg (by simp [hspace]), if_neg (by simp), if_pos ⟨rfl, rfl, hrest⟩]
  rfl

theorem tokensFrom_or (rest : List Char) (position : Nat) :
    tokensFrom position (" OR ".toList ++ rest) =
      ⟨.or, some "OR", position + 1⟩ :: tokensFrom (position + 4) rest := by
  have hfirst := first_or (separated_cons continuesWord_space rest)
  refine (tokensFrom_blank isWhiteSpace_space _ position).trans ?_
  refine (tokensFrom_of_first hfirst (by decide) _).trans ?_
  rw [tokensFrom_blank isWhiteSpace_space]
  rfl

end Lexer

/-! ## What is printed is read -/

theorem Grammar.stripQuotes_ofList (inner : List Char) :
    stripQuotes (.ofList ('"' :: inner ++ ['"'])) = .ofList inner := by
  simp [stripQuotes]

open Lexer

/-- The text is cut into the tokens of a derivation, wherever it stands, if no word goes on after
it. -/
def Spelling (text : List Char) (part : Part) (d : Nat) (n : Node) : Prop :=
  ∀ rest, Separated rest → ∀ position, ∃ ts,
    tokensFrom position (text ++ rest) = ts ++ tokensFrom (position + text.length) rest ∧
      Derives part d ts n

namespace Spelling

variable {text l r : List Char} {part part' : Part} {d : Nat} {n a b : Node}

theorem term {word : String} (hword : isWord word = true) (hand : word ≠ andKeyword)
    (hor : word ≠ "OR") : Spelling word.toList .atom d (.term word) := by
  intro rest hrest position
  refine ⟨[⟨.word, some word, position⟩], ?_, .word rfl (by simpa using hand)⟩
  rw [String.length_toList]
  exact tokensFrom_word hword hor hrest position

theorem phrase {inner : List Char} (hinner : '"' ∉ inner) :
    Spelling ('"' :: inner ++ ['"']) .atom d (.phrase (.ofList inner)) := by
  intro rest _ position
  have hphrase := Derives.phrase (d := d)
    (t := ⟨.phrase, some (.ofList ('"' :: inner ++ ['"'])), position⟩) rfl
  rw [Option.getD_some, stripQuotes_ofList] at hphrase
  refine ⟨_, ?_, hphrase⟩
  rw [List.append_assoc]
  simpa using tokensFrom_phrase hinner rest position

theorem not (h : Spelling text .atom d n) : Spelling ('-' :: text) .operand d (.not n) := by
  intro rest hrest position
  obtain ⟨ts, htokens, hderives⟩ := h rest hrest (position + 1)
  refine ⟨_, ?_, .negated (t := ⟨.minus, some (.ofList ['-']), position⟩) rfl hderives⟩
  rw [List.cons_append, tokensFrom_sign (by simp), htokens, List.length_cons, Nat.add_assoc,
    Nat.add_comm 1]
  rfl

theorem group (h : Spelling text .disjunction d n) :
    Spelling ('(' :: text ++ [')']) .atom (d + 1) (.group n) := by
  intro rest _ position
  have hclose : continuesWord ')' = false := by decide
  obtain ⟨ts, htokens, hderives⟩ := h _ (separated_cons hclose rest) (position + 1)
  refine ⟨_, ?_, .group (o := ⟨.openParen, some (.ofList ['(']), position⟩)
    (c := ⟨.closeParen, some (.ofList [')']), position + 1 + text.length⟩) rfl hderives rfl⟩
  have hlength : position + ('(' :: text ++ [')']).length = position + 1 + text.length + 1 := by
    rw [List.length_append, List.length_cons, List.length_singleton]
    omega
  rw [hlength, List.append_assoc, List.cons_append, tokensFrom_sign (by simp),
    List.singleton_append, htokens, tokensFrom_sign (by simp)]
  simp [signKind]

/-- Two texts with a connective between them. -/
theorem join (hl : Spelling l part d a) (hr : Spelling r part' d b) {sep : List Char} {k : Kind}
    {x : String} (hsep : ∀ rest, Separated (sep ++ rest))
    (hjoin : ∀ rest position, tokensFrom position (sep ++ rest) =
      ⟨k, some x, position + 1⟩ :: tokensFrom (position + sep.length) rest)
    {rest : List Char} (hrest : Separated rest) (position : Nat) :
    ∃ t ts us, tokensFrom position (l ++ sep ++ r ++ rest) =
        ts ++ t :: us ++ tokensFrom (position + (l ++ sep ++ r).length) rest ∧
      t.kind = k ∧ t.text = some x ∧ Derives part d ts a ∧ Derives part' d us b := by
  obtain ⟨ts, htokens, hts⟩ := hl (sep ++ (r ++ rest)) (hsep _) position
  obtain ⟨us, hrtokens, hus⟩ := hr rest hrest (position + l.length + sep.length)
  refine ⟨⟨k, some x, position + l.length + 1⟩, ts, us, ?_, rfl, rfl, hts, hus⟩
  have hlength : position + (l ++ sep ++ r).length =
      position + l.length + sep.length + r.length := by
    simp only [List.length_append]
    omega
  rw [hlength, List.append_assoc, List.append_assoc, htokens, hjoin, hrtokens, List.append_assoc,
    List.cons_append]

theorem and (hl : Spelling l .conjunction d a) (hr : Spelling r .operand d b) :
    Spelling (l ++ " AND ".toList ++ r) .conjunction d (.and a b) := by
  intro rest hrest position
  obtain ⟨t, ts, us, htokens, hk, hx, hts, hus⟩ :=
    hl.join hr (fun _ => separated_cons continuesWord_space _) tokensFrom_and hrest position
  exact ⟨ts ++ t :: us, htokens, .and hts hk hx hus⟩

theorem or (hl : Spelling l .disjunction d a) (hr : Spelling r .conjunction d b) :
    Spelling (l ++ " OR ".toList ++ r) .disjunction d (.or a b) := by
  intro rest hrest position
  obtain ⟨t, ts, us, htokens, hk, hx, hts, hus⟩ :=
    hl.join hr (fun _ => separated_cons continuesWord_space _) tokensFrom_or hrest position
  exact ⟨ts ++ t :: us, htokens, .or hts hk hus⟩

/-- A part is also every part that it may be by itself. -/
theorem mono (h : Spelling text part d n)
    (hparts : ∀ {ts}, Derives part d ts n → Derives part' d ts n) : Spelling text part' d n := by
  intro rest hrest position
  obtain ⟨ts, htokens, hts⟩ := h rest hrest position
  exact ⟨ts, htokens, hparts hts⟩

end Spelling

/-- **A well-formed tree is printed as a text that spells it.** -/
theorem Node.spelling_print {t : Node} (ht : t.wellFormed = true) {d : Nat} (hd : t.nesting ≤ d) :
    Spelling t.print.toList t.part d t := by
  induction t generalizing d with
  | term word =>
    simp only [wellFormed, Bool.and_eq_true, decide_eq_true_eq] at ht
    exact .term ht.1.1 ht.1.2 ht.2
  | phrase text =>
    have hphrase := Spelling.phrase (d := d) (show '"' ∉ text.toList by simpa [wellFormed] using ht)
    rw [String.ofList_toList] at hphrase
    simpa [print, part] using hphrase
  | field label raw => simp [wellFormed] at ht
  | not n ih =>
    simp only [wellFormed, Bool.and_eq_true, decide_eq_true_eq] at ht
    have hn := (ih ht.2 hd).mono (·.atom ht.1)
    simpa [print, part] using hn.not
  | and l r ihl ihr =>
    simp only [wellFormed, Bool.and_eq_true, decide_eq_true_eq] at ht
    obtain ⟨⟨⟨hl, hr⟩, htl⟩, htr⟩ := ht
    have hleft := (ihl htl ((Nat.le_max_left ..).trans hd)).mono (·.conjunction hl)
    have hright := (ihr htr ((Nat.le_max_right ..).trans hd)).mono (·.operand hr)
    rw [print, String.toList_append, String.toList_append]
    exact hleft.and hright
  | or l r ihl ihr =>
    simp only [wellFormed, Bool.and_eq_true, decide_eq_true_eq] at ht
    obtain ⟨⟨hr, htl⟩, htr⟩ := ht
    have hleft := (ihl htl ((Nat.le_max_left ..).trans hd)).mono (·.disjunction)
    have hright := (ihr htr ((Nat.le_max_right ..).trans hd)).mono (·.conjunction hr)
    rw [print, String.toList_append, String.toList_append]
    exact hleft.or hright
  | group n ih =>
    obtain ⟨d, rfl⟩ := Nat.exists_eq_succ_of_ne_zero (Nat.ne_zero_of_lt hd)
    have hn := (ih ht (Nat.le_of_succ_le_succ hd)).mono (·.disjunction)
    simpa [print, part] using hn.group

/-! ## What is read is canonical -/

namespace Grammar

/-- A tree is no greater part than the one that it is derived as. -/
theorem Derives.part_le {part : Part} {d : Nat} {ts : List Token} {n : Node}
    (h : Derives part d ts n) : n.part ≤ part := by
  induction h with
  | plain h ih | single h ih | branch h ih => exact ih.trans (by decide)
  | _ => exact le_refl _

/-- No more groups are around each other than parentheses are open at once. -/
theorem Derives.nesting_le {part : Part} {d : Nat} {ts : List Token} {n : Node}
    (h : Derives part d ts n) : n.nesting ≤ d := by
  induction h with
  | word hk ht => exact Nat.zero_le _
  | phrase hk | field hk => exact Nat.zero_le _
  | group ho h hc ih => exact Nat.succ_le_succ ih
  | plain h ih | single h ih | branch h ih | negated hk h ih => exact ih
  | besides hl hr ihl ihr | and hl hk ht hr ihl ihr | or hl hk hr ihl ihr =>
    exact Nat.max_le.mpr ⟨ihl, ihr⟩

end Grammar

/-- **The trees of the lexer's tokens are well-formed.** -/
theorem wellFormed_of_derives {part : Part} {d : Nat} {ts : List Token} {n : Node}
    (h : Derives part d ts n) (hts : ∀ t ∈ ts, ∃ x, t.text = some x ∧ Spells x t.kind) :
    n.wellFormed = true := by
  induction h with
  | word hk ht =>
    rename_i t
    obtain ⟨x, hx, hspells⟩ := hts t (List.mem_singleton_self t)
    rw [hk] at hspells
    rw [hx] at ht ⊢
    simpa [Node.wellFormed, hspells.1, hspells.2] using ht
  | phrase hk =>
    rename_i t
    obtain ⟨x, hx, hspells⟩ := hts t (List.mem_singleton_self t)
    rw [hk] at hspells
    obtain ⟨inner, hinner, rfl⟩ := hspells
    rw [hx, Option.getD_some, stripQuotes_ofList]
    simpa [Node.wellFormed] using hinner
  | field hk =>
    rename_i t label
    obtain ⟨x, -, hspells⟩ := hts t (List.mem_singleton_self t)
    rw [hk] at hspells
    exact hspells.elim
  | group ho h hc ih => exact ih fun t ht => hts t (by simp [ht])
  | plain h ih | single h ih | branch h ih => exact ih hts
  | negated hk h ih =>
    have hwf := ih fun t ht => hts t (List.mem_cons_of_mem _ ht)
    simp [Node.wellFormed, hwf, h.part_le]
  | besides hl hr ihl ihr | and hl hk ht hr ihl ihr | or hl hk hr ihl ihr =>
    have hwfl := ihl fun t ht => hts t (by simp [ht])
    have hwfr := ihr fun t ht => hts t (by simp [ht])
    simp [Node.wellFormed, hwfl, hwfr, hl.part_le, hr.part_le]

/-! ## Queries and trees -/

theorem parse_eq_ok_iff_derives (input : String) (n : Node) :
    parse input = some (.ok n) ↔ Derives .disjunction maxNesting (tokens input) n := by
  obtain ⟨s', h⟩ := Scanner.exists_tokenize_eq (s := Parser.new.scanner) rfl input
  rw [parse, Parser.parseText_eq_ok_iff h n]

theorem parse_print {t : Node} (ht : t.Canonical) : parse t.print = some (.ok t) := by
  have hspelling := (Node.spelling_print ht.1 ht.2).mono (·.disjunction)
  obtain ⟨ts, htokens, hderives⟩ := hspelling [] rfl 0
  rw [parse_eq_ok_iff_derives, tokens]
  rw [List.append_nil, tokensFrom, List.append_nil] at htokens
  exact htokens ▸ hderives

theorem canonical_of_parse {input : String} {t : Node} (h : parse input = some (.ok t)) :
    t.Canonical := by
  have hderives := (parse_eq_ok_iff_derives input t).mp h
  exact ⟨wellFormed_of_derives hderives (tokensFrom_spells 0 input.toList), hderives.nesting_le⟩

/-- **The canonical trees are those that are read as they are printed, and the trees of queries.**
So the tree of a query is read again from what it is printed as. -/
theorem canonical_iff_parse_print :
    (∀ t : Node, t.Canonical ↔ parse t.print = some (.ok t)) ∧
    (∀ (input : String) (t : Node), parse input = some (.ok t) → t.Canonical) ∧
    (∀ (input : String) (t : Node), parse input = some (.ok t) →
      parse t.print = some (.ok t)) :=
  ⟨fun _ => ⟨parse_print, canonical_of_parse⟩, fun _ _ => canonical_of_parse,
    fun _ _ h => parse_print (canonical_of_parse h)⟩

example : (Node.or (.and (.term "a") (.not (.term "b"))) (.group (.phrase "c d"))).Canonical := by
  decide

-- Printed without parentheses, the disjunction comes apart.
example : ¬ (Node.and (.or (.term "a") (.term "b")) (.term "c")).Canonical := by decide

end SearchQuery
