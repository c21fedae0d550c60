import Mathlib.Data.List.Forall2
import SearchQuery.Proofs.Positions
import SearchQuery.Proofs.Priority

/-!
# The trees of queries

What the tree of a query has to do with the tokens of the query, for all rules of the caller.

* `Token.Reads t m`: the token `t` is an operand, and `m` is what it stands for in a tree. The
  operands of a query, in their order, are the leaves of its tree (`Grammar.Derives.reads_leaves`).
* A sign is one node of its own: a minus a negation, an `OR` a disjunction, and two parentheses a
  group (`Grammar.Derives.countP_subtrees`).
* A tree has no node that would be written with parentheses of its own (`Node.wellPlaced`).
* The texts of the tokens are never empty, and that of a field is never `AND`
  (`Scanner.exists_text_of_mem_tokensWithin`).
-/

namespace SearchQuery

open Grammar

/-! ## Nodes of a tree -/

namespace Node

/-- The nodes without children, from left to right. -/
def leaves : Node → List Node
  | term word => [term word]
  | phrase text => [phrase text]
  | field label raw => [field label raw]
  | not n | group n => n.leaves
  | and l r | or l r => l.leaves ++ r.leaves

/-- All nodes with what is below them, a node before its children. -/
def subtrees : Node → List Node
  | term word => [term word]
  | phrase text => [phrase text]
  | field label raw => [field label raw]
  | not n => not n :: n.subtrees
  | and l r => and l r :: (l.subtrees ++ r.subtrees)
  | or l r => or l r :: (l.subtrees ++ r.subtrees)
  | group n => group n :: n.subtrees

/-- Whether the node has no children. -/
def isLeaf : Node → Bool
  | term _ | phrase _ | field _ _ => true
  | _ => false

/-- Whether the node is a negation. -/
def isNot : Node → Bool
  | not _ => true
  | _ => false

/-- Whether the node is a conjunction. -/
def isAnd : Node → Bool
  | and _ _ => true
  | _ => false

/-- Whether the node is a disjunction. -/
def isOr : Node → Bool
  | or _ _ => true
  | _ => false

/-- Whether the node is a group. -/
def isGroup : Node → Bool
  | group _ => true
  | _ => false

/-- Whether the children of the node need no parentheses: a negation is of a leaf or of a group, no
disjunction is below a conjunction, and on the right there is no node of the same connective. -/
def wellPlaced : Node → Bool
  | not n => n.isLeaf || n.isGroup
  | and l r => !l.isOr && !r.isOr && !r.isAnd
  | or _ r => !r.isOr
  | _ => true

variable {n l r : Node}

theorem isLeaf_or_isGroup (h : n.part ≤ .atom) : (n.isLeaf || n.isGroup) = true := by
  cases n with
  | not n => exact absurd h (show ¬ Part.operand ≤ .atom by decide)
  | and l r => exact absurd h (show ¬ Part.conjunction ≤ .atom by decide)
  | or l r => exact absurd h (show ¬ Part.disjunction ≤ .atom by decide)
  | _ => rfl

theorem isAnd_eq_false (h : n.part ≤ .operand) : n.isAnd = false := by
  cases n with
  | and l r => exact absurd h (show ¬ Part.conjunction ≤ .operand by decide)
  | _ => rfl

theorem isOr_eq_false (h : n.part ≤ .conjunction) : n.isOr = false := by
  cases n with
  | or l r => exact absurd h (show ¬ Part.disjunction ≤ .conjunction by decide)
  | _ => rfl

theorem wellPlaced_and (hl : l.part ≤ .conjunction) (hr : r.part ≤ .operand) :
    (and l r).wellPlaced = true := by
  have hright : r.part ≤ .conjunction := hr.trans (by decide)
  simp [wellPlaced, isOr_eq_false hl, isOr_eq_false hright, isAnd_eq_false hr]

theorem wellPlaced_or (hr : r.part ≤ .conjunction) : (or l r).wellPlaced = true := by
  simp [wellPlaced, isOr_eq_false hr]

end Node

/-! ## Operands -/

namespace Token

/-- Whether the token is an operand by itself: a word other than `AND`, a phrase or a field. -/
def isOperand (t : Token) : Bool :=
  match t.kind with
  | .word => !t.isAnd
  | .phrase | .field _ => true
  | _ => false

/-- `t.Reads m`: the operand is the leaf `m` of a tree. A phrase is without the quotes around it;
one that a rule of the caller has found may have none. -/
inductive Reads : Token → Node → Prop
  | word {t : Token} {word : String} (hk : t.kind = .word) (ht : t.text = some word)
      (hand : word ≠ andKeyword) : Reads t (.term word)
  | quoted {t : Token} {inner : List Char} (hk : t.kind = .phrase)
      (ht : t.text = some (.ofList ('"' :: inner ++ ['"']))) : Reads t (.phrase (.ofList inner))
  | unquoted {t : Token} {text : String} (hk : t.kind = .phrase) (ht : t.text = some text)
      (hquotes : ∀ inner : List Char, text ≠ .ofList ('"' :: inner ++ ['"'])) :
      Reads t (.phrase text)
  | field {t : Token} {label raw : String} (hk : t.kind = .field label) (ht : t.text = some raw) :
      Reads t (.field label raw)

end Token

namespace Grammar

/-- The quotes at both ends are taken off, or there are none. -/
theorem stripQuotes_cases (s : String) :
    (∃ inner : List Char, s = .ofList ('"' :: inner ++ ['"']) ∧ stripQuotes s = .ofList inner) ∨
    ((∀ inner : List Char, s ≠ .ofList ('"' :: inner ++ ['"'])) ∧ stripQuotes s = s) := by
  by_cases h : ∃ inner : List Char, s = .ofList ('"' :: inner ++ ['"'])
  · obtain ⟨inner, rfl⟩ := h
    exact .inl ⟨inner, rfl, stripQuotes_ofList inner⟩
  · rw [not_exists] at h
    refine .inr ⟨h, ?_⟩
    unfold stripQuotes
    split
    · next rest hrest =>
      split
      · next inner hinner =>
        refine absurd ?_ (h inner.reverse)
        rw [← String.toList_inj, String.toList_ofList, hrest, List.cons_append,
          ← List.reverse_cons, ← hinner, List.reverse_reverse]
      · rfl
    · rfl

variable {part : Part} {d : Nat} {ts : List Token} {n : Node}

/-- **The operands of a query are the leaves of its tree**, in the same order. -/
theorem Derives.reads_leaves (h : Derives part d ts n) (hts : ∀ t ∈ ts, ∃ x, t.text = some x) :
    List.Forall₂ Token.Reads (ts.filter Token.isOperand) n.leaves := by
  induction h with
  | word hk ht =>
    rename_i t
    obtain ⟨x, hx⟩ := hts t (List.mem_singleton_self t)
    have hoperand : t.isOperand = true := by
      simp [Token.isOperand, Token.isAnd, Token.isKeyword, hk, ht]
    rw [List.filter_cons_of_pos hoperand, hx]
    exact .cons (.word hk hx fun hand => ht (hand ▸ hx)) .nil
  | phrase hk =>
    rename_i t
    obtain ⟨x, hx⟩ := hts t (List.mem_singleton_self t)
    have hoperand : t.isOperand = true := by simp [Token.isOperand, hk]
    rw [List.filter_cons_of_pos hoperand, hx, Option.getD_some]
    refine .cons ?_ .nil
    obtain ⟨inner, rfl, hstrip⟩ | ⟨hquotes, hstrip⟩ := stripQuotes_cases x
    · exact hstrip ▸ .quoted hk hx
    · exact hstrip.symm ▸ .unquoted hk hx hquotes
  | field hk =>
    rename_i t label
    obtain ⟨x, hx⟩ := hts t (List.mem_singleton_self t)
    have hoperand : t.isOperand = true := by simp [Token.isOperand, hk]
    rw [List.filter_cons_of_pos hoperand, hx]
    exact .cons (.field hk hx) .nil
  | group ho h hc ih =>
    rename_i d o c ts n
    have hopen : o.isOperand = false := by simp [Token.isOperand, ho]
    have hclose : c.isOperand = false := by simp [Token.isOperand, hc]
    simpa [hopen, hclose, Node.leaves] using ih fun t ht => hts t (by simp [ht])
  | plain h ih | single h ih | branch h ih => exact ih hts
  | negated hk h ih =>
    rename_i d t ts n
    have hminus : t.isOperand = false := by simp [Token.isOperand, hk]
    simpa [hminus, Node.leaves] using ih fun t ht => hts t (List.mem_cons_of_mem _ ht)
  | besides hl hr ihl ihr =>
    rw [List.filter_append]
    exact List.rel_append (ihl fun t ht => hts t (by simp [ht]))
      (ihr fun t ht => hts t (by simp [ht]))
  | and hl hk ht hr ihl ihr =>
    rename_i d t ts us l r
    have hand : t.isOperand = false := by
      simp [Token.isOperand, Token.isAnd, Token.isKeyword, hk, ht]
    rw [List.filter_append, List.filter_cons_of_neg (by simp [hand])]
    exact List.rel_append (ihl fun t ht => hts t (by simp [ht]))
      (ihr fun t ht => hts t (by simp [ht]))
  | or hl hk hr ihl ihr =>
    rename_i d t ts us l r
    have hor : t.isOperand = false := by simp [Token.isOperand, hk]
    rw [List.filter_append, List.filter_cons_of_neg (by simp [hor])]
    exact List.rel_append (ihl fun t ht => hts t (by simp [ht]))
      (ihr fun t ht => hts t (by simp [ht]))

/-- Every leaf of the tree is an operand of the query. -/
theorem Derives.exists_reads (h : Derives part d ts n) (hts : ∀ t ∈ ts, ∃ x, t.text = some x)
    {m : Node} (hm : m ∈ n.leaves) : ∃ t ∈ ts, t.Reads m := by
  obtain ⟨hlength, hreads⟩ := List.forall₂_iff_get.mp (h.reads_leaves hts)
  obtain ⟨⟨i, hi⟩, rfl⟩ := List.get_of_mem hm
  exact ⟨_, List.mem_of_mem_filter (List.get_mem _ ⟨i, hlength ▸ hi⟩), hreads i _ hi⟩

/-- **A sign is a node of its own.** -/
theorem Derives.countP_subtrees (h : Derives part d ts n) :
    n.subtrees.countP Node.isNot = ts.countP (·.kind = .minus) ∧
    n.subtrees.countP Node.isOr = ts.countP (·.kind = .or) ∧
    n.subtrees.countP Node.isGroup = ts.countP (·.kind = .openParen) ∧
    n.subtrees.countP Node.isGroup = ts.countP (·.kind = .closeParen) := by
  induction h with
  | word hk ht => simp [Node.subtrees, Node.isNot, Node.isOr, Node.isGroup, hk]
  | phrase hk | field hk => simp [Node.subtrees, Node.isNot, Node.isOr, Node.isGroup, hk]
  | group ho h hc ih =>
    simpa [Node.subtrees, Node.isNot, Node.isOr, Node.isGroup, ho, hc, List.countP_cons] using ih
  | plain h ih | single h ih | branch h ih => exact ih
  | negated hk h ih =>
    simpa [Node.subtrees, Node.isNot, Node.isOr, Node.isGroup, hk, List.countP_cons] using ih
  | besides hl hr ihl ihr =>
    simp only [Node.subtrees, List.countP_cons, List.countP_append, Node.isNot, Node.isOr,
      Node.isGroup, Bool.false_eq_true, if_false]
    omega
  | and hl hk ht hr ihl ihr =>
    simp only [Node.subtrees, List.countP_cons, List.countP_append, Node.isNot, Node.isOr,
      Node.isGroup, hk, reduceCtorEq, decide_false, Bool.false_eq_true, if_false]
    omega
  | or hl hk hr ihl ihr =>
    simp only [Node.subtrees, List.countP_cons, List.countP_append, Node.isNot, Node.isOr,
      Node.isGroup, hk, reduceCtorEq, decide_false, decide_true, Bool.false_eq_true, if_false,
      if_true]
    omega

/-- **No node needs parentheses that are not there.** -/
theorem Derives.wellPlaced (h : Derives part d ts n) : ∀ m ∈ n.subtrees, m.wellPlaced = true := by
  induction h with
  | word hk ht => simp [Node.subtrees, Node.wellPlaced]
  | phrase hk | field hk => simp [Node.subtrees, Node.wellPlaced]
  | group ho h hc ih => exact List.forall_mem_cons.mpr ⟨rfl, ih⟩
  | plain h ih | single h ih | branch h ih => exact ih
  | negated hk h ih => exact List.forall_mem_cons.mpr ⟨Node.isLeaf_or_isGroup h.part_le, ih⟩
  | besides hl hr ihl ihr | and hl hk ht hr ihl ihr =>
    exact List.forall_mem_cons.mpr
      ⟨Node.wellPlaced_and hl.part_le hr.part_le, List.forall_mem_append.mpr ⟨ihl, ihr⟩⟩
  | or hl hk hr ihl ihr =>
    exact List.forall_mem_cons.mpr
      ⟨Node.wellPlaced_or hr.part_le, List.forall_mem_append.mpr ⟨ihl, ihr⟩⟩

end Grammar

/-! ## The tokens of a query -/

namespace Scanner

/-- Every token of a list was cut off somewhere on the way. -/
theorem exists_scan_of_mem_tokensWithin {n : Nat} {s s' : Scanner} {ts : List Token}
    (h : s.tokensWithin n = some (ts, s')) :
    ∀ t ∈ ts, ∃ s₁, s.Reaches s₁ ∧ s₁.rest ≠ [] ∧ t = s₁.scan.1 := by
  induction n generalizing s ts with
  | zero => simp [tokensWithin] at h
  | succ n ih =>
    obtain ⟨s₁, hskips, ⟨hs, ha⟩ | ⟨hs, hk, ha⟩ | ⟨-, -, -, ha⟩⟩ := advance_cases s
    · simp only [tokensWithin, ha, Token.isEnd, Token.endAt, decide_true, if_true,
        Option.some.injEq, Prod.mk.injEq] at h
      simp [← h.1]
    · rw [tokensWithin, ha] at h
      simp only at h
      split at h
      · obtain ⟨rfl, -⟩ := Prod.mk.inj (Option.some.inj h)
        simp
      · obtain ⟨⟨ts₁, s₂⟩, hrest, heq⟩ := Option.map_eq_some_iff.mp h
        obtain ⟨rfl, rfl⟩ := Prod.mk.inj heq
        have hstepped : s.Reaches s₁.stepped := hskips.reaches.tail ⟨hs, rfl⟩
        refine List.forall_mem_cons.mpr ⟨⟨s₁, hskips.reaches, hs, rfl⟩, fun t ht => ?_⟩
        obtain ⟨s₃, hreaches, hs₃⟩ := ih hrest t ht
        exact ⟨s₃, hstepped.trans hreaches, hs₃⟩
    · simp [tokensWithin, ha] at h

theorem lexeme_text_ne_and {s : Scanner} (hs : s.rest ≠ []) (hk : s.lexeme.kind.isField = true) :
    s.lexeme.text ≠ andKeyword := by
  obtain ⟨r, hr⟩ := Option.isSome_iff_exists.mp (chosen?_isSome hs)
  have hlexeme := lexeme?_of_chosen? hr
  obtain ⟨-, -, -, hkind⟩ := lexeme?_eq_some hlexeme
  exact lexeme?_text_ne_and hlexeme (hkind ▸ hk)

/-- The text of a token is not empty, and that of a field is not `AND`. -/
theorem exists_text_of_mem_tokensWithin {n : Nat} {s s' : Scanner} {ts : List Token}
    (h : s.tokensWithin n = some (ts, s')) :
    ∀ t ∈ ts, ∃ x, t.text = some x ∧ x ≠ "" ∧ (t.kind.isField = true → x ≠ andKeyword) := by
  intro t ht
  obtain ⟨s₁, -, hs, rfl⟩ := exists_scan_of_mem_tokensWithin h t ht
  exact ⟨s₁.lexeme.text, rfl, lexeme_text_ne_empty hs, lexeme_text_ne_and hs⟩

end Scanner

/-! ## Queries and their trees -/

namespace Parser

/-- **The tree of a query has each operand once, in its place.** For all rules of the caller and
every query that the scanner cuts into tokens up to its end, the leaves of the tree are the operands
among the tokens, in their order. There are as many negations as minus signs, as many disjunctions
as `OR`, and as many groups as parentheses that open and that close. No word is `AND`, no text of a
field is `AND` or empty, no node needs parentheses that are not there, and no more groups are around
each other than there may be. -/
theorem tree_of_tokens {p : Parser} {input : String} {ts : List Token} {s' : Scanner} {n : Node}
    (h : p.scanner.tokenize input = some (ts, s'))
    (hn : (p.parseText input).map (·.1) = some (.ok n)) :
    List.Forall₂ Token.Reads (ts.filter Token.isOperand) n.leaves ∧
    n.subtrees.countP Node.isNot = ts.countP (·.kind = .minus) ∧
    n.subtrees.countP Node.isOr = ts.countP (·.kind = .or) ∧
    n.subtrees.countP Node.isGroup = ts.countP (·.kind = .openParen) ∧
    n.subtrees.countP Node.isGroup = ts.countP (·.kind = .closeParen) ∧
    (∀ word, Node.term word ∈ n.leaves → word ≠ andKeyword) ∧
    (∀ label raw, Node.field label raw ∈ n.leaves → raw ≠ andKeyword ∧ raw ≠ "") ∧
    (∀ m ∈ n.subtrees, m.wellPlaced = true) ∧
    n.nesting ≤ maxNesting := by
  have hderives := (parseText_eq_ok_iff h n).mp hn
  have htexts := Scanner.exists_text_of_mem_tokensWithin h
  have hsome : ∀ t ∈ ts, ∃ x, t.text = some x := fun t ht => (htexts t ht).imp fun _ hx => hx.1
  obtain ⟨hnot, hor, hopen, hclose⟩ := hderives.countP_subtrees
  refine ⟨hderives.reads_leaves hsome, hnot, hor, hopen, hclose, fun word hm => ?_,
    fun label raw hm => ?_, hderives.wellPlaced, hderives.nesting_le⟩
  · obtain ⟨t, -, hreads⟩ := hderives.exists_reads hsome hm
    cases hreads with
    | word hk ht hand => exact hand
  · obtain ⟨t, ht, hreads⟩ := hderives.exists_reads hsome hm
    cases hreads with
    | field hk hraw =>
      obtain ⟨x, hx, hempty, hand⟩ := htexts t ht
      obtain rfl := Option.some.inj (hraw.symm.trans hx)
      exact ⟨hand (by rw [hk]; rfl), hempty⟩

/-- A field in a negation, a phrase beside a word, and `AND` in front of a group. -/
theorem tree_of_tokens_hash :
    let ts : List Token :=
      [⟨.minus, some "-", 0⟩, ⟨.field "HASH", some "#", 1⟩, ⟨.word, some andKeyword, 3⟩,
        ⟨.openParen, some "(", 7⟩, ⟨.word, some "a", 8⟩, ⟨.phrase, some "\"b c\"", 10⟩,
        ⟨.or, some "OR", 16⟩, ⟨.word, some "d", 19⟩, ⟨.closeParen, some ")", 20⟩]
    let n : Node := .and (.not (.field "HASH" "#"))
      (.group (.or (.and (.term "a") (.phrase "b c")) (.term "d")))
    (hashParser.scanner.tokenize "-# AND (a \"b c\" OR d)").map (·.1) = some ts ∧
    (hashParser.parseText "-# AND (a \"b c\" OR d)").map (·.1) = some (.ok n) ∧
    List.Forall₂ Token.Reads (ts.filter Token.isOperand)
      [.field "HASH" "#", .term "a", .phrase "b c", .term "d"] ∧
    n.subtrees.countP Node.isGroup = ts.countP (·.kind = .closeParen) ∧
    (∀ m ∈ n.subtrees, m.wellPlaced = true) := by
  intro ts n
  have htokens : (hashParser.scanner.tokenize "-# AND (a \"b c\" OR d)").map (·.1) = some ts := by
    decide +kernel
  have hn : (hashParser.parseText "-# AND (a \"b c\" OR d)").map (·.1) = some (.ok n) := by
    decide +kernel
  obtain ⟨⟨us, s'⟩, h, rfl⟩ := Option.map_eq_some_iff.mp htokens
  obtain ⟨hleaves, -, -, -, hclose, -, -, hplaced, -⟩ := tree_of_tokens h hn
  exact ⟨htokens, hn, hleaves, hclose, hplaced⟩

end Parser

end SearchQuery
