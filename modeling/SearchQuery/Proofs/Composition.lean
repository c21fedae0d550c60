import Mathlib.Data.List.Induction
import SearchQuery.Proofs.Juxtaposition
import SearchQuery.Proofs.TreeShape

/-!
# Queries put together from queries

Whoever puts a query together from others by writing them one after the other gets the tree that is
put together from theirs. Neither connective needs parentheses, as both fold to the left: the branches
of two disjunctions become one row, and where two conjunctions meet, so do their operands.

* `Node.IsFold`: a tree as the left fold of a connective over nodes that it does not join themselves.
* `Grammar.Derives.disjoin`, `Grammar.Derives.conjoin`: the tokens of two queries, with `OR` between
  them, or with the word `AND` or nothing.
* `parse_concat`: the same for the texts of queries.
-/

namespace SearchQuery

open Text Lexer Grammar

/-! ## Trees as folds -/

/-- The connectives. -/
inductive Connective where
  | and
  | or
  deriving DecidableEq, Repr

namespace Connective

/-- Two trees with the connective between them. -/
def join : Connective → Node → Node → Node
  | and => .and
  | or => .or

/-- Whether the outermost node of a tree is the connective. -/
def joins : Connective → Node → Bool
  | and => Node.isAnd
  | or => Node.isOr

theorem joins_join (k : Connective) (l r : Node) : k.joins (k.join l r) = true := by
  cases k <;> rfl

theorem join_inj {k : Connective} {l r l' r' : Node} (h : k.join l r = k.join l' r') :
    l = l' ∧ r = r' := by
  cases k with
  | and => exact Node.and.inj h
  | or => exact Node.or.inj h

/-- The left fold of the connective over nodes, of which there has to be one. -/
def fold? (k : Connective) : List Node → Option Node
  | [] => none
  | n :: ns => some (ns.foldl k.join n)

theorem fold?_concat {k : Connective} {ns : List Node} {n : Node} (h : k.fold? ns = some n)
    (r : Node) : k.fold? (ns ++ [r]) = some (k.join n r) := by
  cases ns with
  | nil => cases h
  | cons m ms =>
    obtain rfl := Option.some.inj h
    simp [fold?, List.foldl_append]

end Connective

namespace Node

/-- The tree is the left fold of a connective over nodes that are not joined by it themselves. -/
structure IsFold (k : Connective) (ns : List Node) (n : Node) : Prop where
  eq_fold : k.fold? ns = some n
  inner : ∀ m ∈ ns, k.joins m = false

namespace IsFold

variable {k : Connective} {ns ms : List Node} {n m l r : Node}

theorem single (h : k.joins n = false) : IsFold k [n] n := ⟨rfl, by simpa using h⟩

theorem concat (h : IsFold k ns n) (hr : k.joins r = false) : IsFold k (ns ++ [r]) (k.join n r) := by
  refine ⟨k.fold?_concat h.eq_fold r, fun m hm => ?_⟩
  rcases List.mem_append.mp hm with hm | hm
  · exact h.inner m hm
  · rw [List.mem_singleton.mp hm, hr]

/-- How a fold over nodes comes about: there is one node only, or the last one is joined to the fold
of the others. -/
theorem cases_concat (h : IsFold k ns n) :
    ns = [n] ∧ k.joins n = false ∨
      ∃ ms l r, ns = ms ++ [r] ∧ n = k.join l r ∧ IsFold k ms l ∧ k.joins r = false := by
  obtain rfl | ⟨ms, r, rfl⟩ := List.eq_nil_or_concat ns
  · cases h.eq_fold
  · rw [List.concat_eq_append] at h ⊢
    have hr : k.joins r = false := h.inner r (by simp)
    cases ms with
    | nil =>
      obtain rfl : r = n := Option.some.inj h.eq_fold
      exact .inl ⟨rfl, hr⟩
    | cons m ms =>
      have hfront : k.fold? (m :: ms) = some (ms.foldl k.join m) := rfl
      have hn := (k.fold?_concat hfront r).symm.trans h.eq_fold
      refine .inr ⟨m :: ms, ms.foldl k.join m, r, rfl, (Option.some.inj hn).symm, ⟨hfront, ?_⟩, hr⟩
      exact fun m' hm' => h.inner m' (List.mem_append_left _ hm')

/-- A tree without the connective outermost is the fold over itself only. -/
theorem eq_singleton (h : IsFold k ns n) (hn : k.joins n = false) : ns = [n] := by
  obtain ⟨rfl, -⟩ | ⟨ms, l, r, -, rfl, -⟩ := h.cases_concat
  · rfl
  · rw [k.joins_join] at hn
    cases hn

/-- Of a tree with the connective outermost, the right side is the last of the nodes. -/
theorem exists_concat (h : IsFold k ns (k.join l r)) : ∃ ms, ns = ms ++ [r] ∧ IsFold k ms l := by
  obtain ⟨-, hn⟩ | ⟨ms, l', r', rfl, hn, hl, -⟩ := h.cases_concat
  · rw [k.joins_join] at hn
    cases hn
  · obtain ⟨rfl, rfl⟩ := Connective.join_inj hn
    exact ⟨ms, rfl, hl⟩

/-- The nodes determine the fold. -/
theorem eq_of_same (h : IsFold k ns n) (h' : IsFold k ns m) : n = m :=
  Option.some.inj (h.eq_fold.symm.trans h'.eq_fold)

end IsFold

end Node

open Node (IsFold)

/-! ## Tokens of two queries -/

namespace Grammar

variable {d : Nat} {ts us sep : List Token} {t : Token} {l r c e n : Node}
  {as bs cs ds : List Node}

theorem Derives.joins_or (h : Derives .conjunction d ts n) : Connective.or.joins n = false :=
  Node.isOr_eq_false h.part_le

theorem Derives.joins_and (h : Derives .operand d ts n) : Connective.and.joins n = false :=
  Node.isAnd_eq_false h.part_le

/-- A conjunction is a fold over operands. -/
theorem Derives.exists_isFold_and (h : Derives .conjunction d ts n) : ∃ as, n.IsFold .and as := by
  generalize hpart : Part.conjunction = part at h
  induction h with
  | single h => exact ⟨_, .single h.joins_and⟩
  | besides hl hr ihl | and hl hk ht hr ihl =>
    obtain ⟨as, has⟩ := ihl rfl
    exact ⟨_, has.concat hr.joins_and⟩
  | _ => cases hpart

/-- A disjunction is a fold over conjunctions. -/
theorem Derives.exists_isFold_or (h : Derives .disjunction d ts n) :
    ∃ cs, n.IsFold .or cs ∧ ∀ c ∈ cs, ∃ as, c.IsFold .and as := by
  generalize hpart : Part.disjunction = part at h
  induction h with
  | branch h => exact ⟨_, .single h.joins_or, by simpa using h.exists_isFold_and⟩
  | or hl hk hr ihl =>
    obtain ⟨cs, hcs, hinner⟩ := ihl rfl
    refine ⟨_, hcs.concat hr.joins_or, fun c hc => ?_⟩
    rcases List.mem_append.mp hc with hc | hc
    · exact hinner c hc
    · rw [List.mem_singleton.mp hc]
      exact hr.exists_isFold_and
  | _ => cases hpart

/-- **With `OR` between two queries**, the branches of the second come after those of the first. -/
theorem Derives.disjoin (hl : Derives .disjunction d ts l) (hcs : l.IsFold .or cs)
    (hk : t.kind = .or) (hr : Derives .disjunction d us r) (hds : r.IsFold .or ds) :
    ∃ n, n.IsFold .or (cs ++ ds) ∧ Derives .disjunction d (ts ++ t :: us) n := by
  -- The branches are added from the last one back, as they are derived.
  induction ds using List.reverseRecOn generalizing us r with
  | nil => cases hds.eq_fold
  | append_singleton ds x ih =>
    cases hr with
    | branch h =>
      rw [hds.eq_singleton h.joins_or]
      exact ⟨.or l r, hcs.concat h.joins_or, .or hl hk h⟩
    | or hl' hk' hr' =>
      rename_i us' t' us'' l' r'
      obtain ⟨ds', heq, hds'⟩ := IsFold.exists_concat (k := .or) hds
      obtain ⟨rfl, hx⟩ := List.append_inj' heq rfl
      obtain ⟨n, hn, hderives⟩ := ih hl' hds'
      have hfold := hn.concat hr'.joins_or
      have hjoined := Derives.or hderives hk' hr'
      rw [← List.append_assoc, hx]
      rw [List.append_assoc, List.cons_append] at hjoined
      exact ⟨_, hfold, hjoined⟩

/-- What may stand between two operands of a conjunction: the word `AND`, or nothing. -/
inductive Between : List Token → Prop
  | nothing : Between []
  | and {t : Token} (hk : t.kind = .word) (ht : t.text = some andKeyword) : Between [t]

theorem Derives.beside (hl : Derives .conjunction d ts l) (hsep : Between sep)
    (hr : Derives .operand d us r) : Derives .conjunction d (ts ++ (sep ++ us)) (.and l r) := by
  cases hsep with
  | nothing => exact .besides hl hr
  | and hk ht => exact .and hl hk ht hr

/-- A conjunction is an operand, or a conjunction with one more operand beside it. -/
theorem Derives.cases_conjunction (h : Derives .conjunction d ts n) :
    Derives .operand d ts n ∨
      ∃ us sep vs l r, ts = us ++ (sep ++ vs) ∧ n = .and l r ∧ Derives .conjunction d us l ∧
        Between sep ∧ Derives .operand d vs r := by
  cases h with
  | single h => exact .inl h
  | besides hl hr => exact .inr ⟨_, [], _, _, _, rfl, rfl, hl, .nothing, hr⟩
  | and hl hk ht hr => exact .inr ⟨_, [_], _, _, _, rfl, rfl, hl, .and hk ht, hr⟩

/-- Two conjunctions side by side are one, with the operands of both. -/
theorem Derives.conjoin (hl : Derives .conjunction d ts l) (has : l.IsFold .and as)
    (hsep : Between sep) (hr : Derives .conjunction d us r) (hbs : r.IsFold .and bs) :
    ∃ n, n.IsFold .and (as ++ bs) ∧ Derives .conjunction d (ts ++ (sep ++ us)) n := by
  induction bs using List.reverseRecOn generalizing us r with
  | nil => cases hbs.eq_fold
  | append_singleton bs x ih =>
    obtain h | ⟨us, sep', vs, l', r', rfl, rfl, hl', hsep', hr'⟩ := hr.cases_conjunction
    · rw [hbs.eq_singleton h.joins_and]
      exact ⟨.and l r, has.concat h.joins_and, hl.beside hsep h⟩
    · obtain ⟨bs', heq, hbs'⟩ := IsFold.exists_concat (k := .and) hbs
      obtain ⟨rfl, hx⟩ := List.append_inj' heq rfl
      obtain ⟨n, hn, hderives⟩ := ih hl' hbs'
      have hfold := hn.concat hr'.joins_and
      have hjoined := hderives.beside hsep' hr'
      rw [← List.append_assoc, hx]
      rw [List.append_assoc, List.append_assoc] at hjoined
      exact ⟨_, hfold, hjoined⟩

/-- A conjunction after a query becomes one with its last branch. -/
theorem Derives.conjoin_last (hl : Derives .disjunction d ts l) (hcs : l.IsFold .or (cs ++ [c]))
    (has : c.IsFold .and as) (hsep : Between sep) (hr : Derives .conjunction d us e)
    (hbs : e.IsFold .and bs) :
    ∃ n m, n.IsFold .and (as ++ bs) ∧ m.IsFold .or (cs ++ [n]) ∧
      Derives .disjunction d (ts ++ (sep ++ us)) m := by
  cases hl with
  | branch h =>
    have hsingle : cs ++ [c] = [] ++ [l] := hcs.eq_singleton h.joins_or
    obtain ⟨rfl, hc⟩ := List.append_inj' hsingle rfl
    obtain rfl : c = l := by simpa using hc
    obtain ⟨n, hn, hderives⟩ := h.conjoin has hsep hr hbs
    exact ⟨n, n, hn, .single hderives.joins_or, .branch hderives⟩
  | or hl' hk hr' =>
    obtain ⟨cs', heq, hcs'⟩ := IsFold.exists_concat (k := .or) hcs
    obtain ⟨rfl, hc⟩ := List.append_inj' heq rfl
    obtain rfl : c = _ := by simpa using hc
    obtain ⟨n, hn, hderives⟩ := hr'.conjoin has hsep hr hbs
    have hjoined := Derives.or hl' hk hderives
    rw [← List.cons_append, ← List.append_assoc] at hjoined
    exact ⟨n, _, hn, hcs'.concat hderives.joins_or, hjoined⟩

/-- **With the word `AND` or nothing between two queries**, the last branch of the first and the first
branch of the second become one. -/
theorem Derives.conjoin_seam (hl : Derives .disjunction d ts l) (hcs : l.IsFold .or (cs ++ [c]))
    (has : c.IsFold .and as) (hsep : Between sep) (hr : Derives .disjunction d us r)
    (hds : r.IsFold .or (e :: ds)) (hbs : e.IsFold .and bs) :
    ∃ n m, n.IsFold .and (as ++ bs) ∧ m.IsFold .or (cs ++ n :: ds) ∧
      Derives .disjunction d (ts ++ (sep ++ us)) m := by
  induction ds using List.reverseRecOn generalizing us r with
  | nil =>
    cases hr with
    | branch h =>
      obtain rfl : e = r := by simpa using hds.eq_singleton h.joins_or
      exact hl.conjoin_last hcs has hsep h hbs
    | or hl' hk' hr' =>
      obtain ⟨ds', heq, hds'⟩ := IsFold.exists_concat (k := .or) hds
      have hnil : [] ++ [e] = ds' ++ [_] := heq
      obtain ⟨rfl, -⟩ := List.append_inj' hnil rfl
      cases hds'.eq_fold
  | append_singleton ds x ih =>
    cases hr with
    | branch h =>
      have hsingle := hds.eq_singleton h.joins_or
      simp at hsingle
    | or hl' hk' hr' =>
      obtain ⟨ds', heq, hds'⟩ := IsFold.exists_concat (k := .or) hds
      rw [← List.cons_append] at heq
      obtain ⟨rfl, hx⟩ := List.append_inj' heq rfl
      obtain ⟨n, m, hn, hm, hderives⟩ := ih hl' hds'
      have hfold := hm.concat hr'.joins_or
      have hjoined := Derives.or hderives hk' hr'
      rw [List.append_assoc, List.cons_append, ← hx] at hfold
      rw [List.append_assoc, List.append_assoc] at hjoined
      exact ⟨n, _, hn, hfold, hjoined⟩

end Grammar

/-! ## Texts of two queries -/

section Texts

variable {q₁ q₂ : String} {t₁ t₂ : Node}

/-- The tokens of two queries with a separator between them. -/
theorem exists_derives_of_concat (h₁ : parse q₁ = some (.ok t₁)) (h₂ : parse q₂ = some (.ok t₂))
    (sep : String) (between : Nat → List Token) (hsep : ∀ rest, Separated (sep.toList ++ rest))
    (hjoin : ∀ rest position, tokensFrom position (sep.toList ++ rest) =
      between position ++ tokensFrom (position + sep.length) rest) :
    ∃ ts us position, tokens (q₁ ++ sep ++ q₂) = ts ++ (between position ++ us) ∧
      Derives .disjunction maxNesting ts t₁ ∧ Derives .disjunction maxNesting us t₂ := by
  have hleft := spelling_of_parse h₁ (canonical_of_parse h₁).2
  have hright := spelling_of_parse h₂ (canonical_of_parse h₂).2
  obtain ⟨ts, htokens, hts⟩ := hleft (sep.toList ++ q₂.toList) (hsep _) 0
  obtain ⟨us, hrest, hus⟩ := hright [] rfl (0 + q₁.toList.length + sep.length)
  rw [tokensFrom, List.append_nil, List.append_nil] at hrest
  refine ⟨ts, us, 0 + q₁.toList.length, ?_, hts, hus⟩
  rw [tokens, String.toList_append, String.toList_append, List.append_assoc, htokens, hjoin, hrest]

/-- **Queries are put together as their texts are.** The tree of a query is a fold of `OR` over
conjunctions, and each of these a fold of `AND` over operands. With ` OR ` between two queries, the
branches of the second come after those of the first. With a blank or ` AND ` between them, both ways
alike, the last branch of the first and the first branch of the second become one branch, with the
operands of both. In parentheses, and with a minus before them, a query is a group, as long as its own
groups leave room for one more. -/
theorem parse_concat (h₁ : parse q₁ = some (.ok t₁)) (h₂ : parse q₂ = some (.ok t₂)) :
    (∃ cs, t₁.IsFold .or cs ∧ ∀ c ∈ cs, ∃ as, c.IsFold .and as) ∧
    (∃ ds, t₂.IsFold .or ds ∧ ∀ d ∈ ds, ∃ bs, d.IsFold .and bs) ∧
    (∀ cs ds, t₁.IsFold .or cs → t₂.IsFold .or ds →
      ∃ t, t.IsFold .or (cs ++ ds) ∧ parse (q₁ ++ " OR " ++ q₂) = some (.ok t)) ∧
    (∀ cs c d ds as bs, t₁.IsFold .or (cs ++ [c]) → t₂.IsFold .or (d :: ds) →
      c.IsFold .and as → d.IsFold .and bs →
        ∃ n t, n.IsFold .and (as ++ bs) ∧ t.IsFold .or (cs ++ n :: ds) ∧
          parse (q₁ ++ " " ++ q₂) = some (.ok t) ∧ parse (q₁ ++ " AND " ++ q₂) = some (.ok t)) ∧
    (t₁.nesting < maxNesting →
      parse ("(" ++ q₁ ++ ")") = some (.ok (.group t₁)) ∧
        parse ("-(" ++ q₁ ++ ")") = some (.ok (.not (.group t₁)))) := by
  refine ⟨?_, ?_, fun cs ds hcs hds => ?_, fun cs c d ds as bs hcs hds has hbs => ?_,
    fun hdepth => ?_⟩
  · exact ((parse_eq_ok_iff_derives q₁ t₁).mp h₁).exists_isFold_or
  · exact ((parse_eq_ok_iff_derives q₂ t₂).mp h₂).exists_isFold_or
  · obtain ⟨ts, us, position, htokens, hts, hus⟩ := exists_derives_of_concat h₁ h₂ " OR "
      (fun position => [⟨.or, some "OR", position + 1⟩])
      (fun _ => separated_cons continuesWord_space _) tokensFrom_or
    have hor : Token.kind ⟨.or, some "OR", position + 1⟩ = .or := rfl
    obtain ⟨t, ht, hderives⟩ := hts.disjoin hcs hor hus hds
    refine ⟨t, ht, ?_⟩
    rw [parse_eq_ok_iff_derives, htokens]
    exact hderives
  · obtain ⟨ts, us, position, htokens, hts, hus⟩ := exists_derives_of_concat h₁ h₂ " "
      (fun _ => []) (fun _ => separated_cons continuesWord_space _)
      (tokensFrom_blank isWhiteSpace_space)
    obtain ⟨n, t, hn, ht, hderives⟩ := hts.conjoin_seam hcs has .nothing hus hds hbs
    obtain ⟨ts', us', position', htokens', hts', hus'⟩ := exists_derives_of_concat h₁ h₂ " AND "
      (fun position => [⟨.word, some andKeyword, position + 1⟩])
      (fun _ => separated_cons continuesWord_space _) tokensFrom_and
    have hand : Between [⟨.word, some andKeyword, position' + 1⟩] := .and rfl rfl
    obtain ⟨n', t', hn', ht', hderives'⟩ := hts'.conjoin_seam hcs has hand hus' hds hbs
    obtain rfl := hn.eq_of_same hn'
    obtain rfl := ht.eq_of_same ht'
    refine ⟨n, t, hn, ht, ?_, ?_⟩
    · rw [parse_eq_ok_iff_derives, htokens]
      exact hderives
    · rw [parse_eq_ok_iff_derives, htokens']
      exact hderives'
  · have hgroup := (spelling_of_parse h₁ (Nat.le_of_lt_succ hdepth)).group
    have hopen : ("(" ++ q₁ ++ ")").toList = '(' :: q₁.toList ++ [')'] := by simp
    have hminus : ("-(" ++ q₁ ++ ")").toList = '-' :: ('(' :: q₁.toList ++ [')']) := by simp
    constructor
    · apply parse_of_spelling
      rw [hopen]
      exact hgroup
    · apply parse_of_spelling
      rw [hminus]
      exact hgroup.not

/-- Two disjunctions, of which the conjunctions that meet have a negation and a group in them. -/
theorem parse_concat_phrase :
    let c : Node := .and (.phrase "a b") (.not (.term "y"))
    let g : Node := .group (.or (.term "u") (.term "v"))
    let e : Node := .and g (.term "w")
    let meet : Node := .and (.and c g) (.term "w")
    parse "x OR \"a b\" -y" = some (.ok (.or (.term "x") c)) ∧
      parse "(u OR v) AND w OR z" = some (.ok (.or e (.term "z"))) ∧
      parse "x OR \"a b\" -y OR (u OR v) AND w OR z" =
        some (.ok (.or (.or (.or (.term "x") c) e) (.term "z"))) ∧
      parse "x OR \"a b\" -y (u OR v) AND w OR z" =
        some (.ok (.or (.or (.term "x") meet) (.term "z"))) ∧
      parse "-(x OR \"a b\" -y)" = some (.ok (.not (.group (.or (.term "x") c)))) := by
  intro c g e meet
  have h₁ : parse "x OR \"a b\" -y" = some (.ok (.or (.term "x") c)) := by decide +kernel
  have h₂ : parse "(u OR v) AND w OR z" = some (.ok (.or e (.term "z"))) := by decide +kernel
  have hleft : (Node.or (.term "x") c).IsFold .or ([.term "x"] ++ [c]) := ⟨rfl, by decide⟩
  have hright : (Node.or e (.term "z")).IsFold .or [e, .term "z"] := ⟨rfl, by decide⟩
  have hc : c.IsFold .and [.phrase "a b", .not (.term "y")] := ⟨rfl, by decide⟩
  have he : e.IsFold .and [g, .term "w"] := ⟨rfl, by decide⟩
  obtain ⟨-, -, hor, hand, hgroup⟩ := parse_concat h₁ h₂
  obtain ⟨t, ht, hparse⟩ := hor _ _ hleft hright
  obtain ⟨n, t', hn, ht', hblank, -⟩ := hand _ _ _ _ _ _ hleft hright hc he
  obtain rfl : _ = t := Option.some.inj ht.eq_fold
  obtain rfl : meet = n := Option.some.inj hn.eq_fold
  obtain rfl : _ = t' := Option.some.inj ht'.eq_fold
  exact ⟨h₁, h₂, hparse, hblank, (hgroup (by decide)).2⟩

end Texts

end SearchQuery
