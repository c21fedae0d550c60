import SearchQuery.Proofs.Continuation
import SearchQuery.Proofs.PatternReading
import SearchQuery.Rule

/-!
# Rules for a token alone and rules with two groups

A rule for a token alone is published with a pattern with two groups, and matches by another one,
which has no groups. The two patterns are read from different texts and searched for separately.

* The token is read as the same pattern in both texts (`Pattern.Reader.token_patterns`), because
  it makes sense by itself: it can neither close the group around it nor take in what follows.
* So the two patterns match alike (`Rule.match?_sequence`, `Pattern.match?_splitPattern`).

The main statement is `Rule.cut?_ofToken_eq_ofPattern`: both rules cut every text alike.
-/

namespace SearchQuery

open Pattern

namespace Pattern.Reader

/-! ## The texts around a token -/

theorem exists_reads_of_read? {source : String} {p : Pattern} (h : Pattern.read? source = some p) :
    ∃ r, Reads initial source.toList r ∧ r.outer = [] ∧ r.inner.pattern = p := by
  unfold Pattern.read? at h
  simp only [Option.bind_eq_bind, Option.bind_eq_some_iff] at h
  obtain ⟨r, hr, h⟩ := h
  split at h
  · cases h
  · next houter =>
    split at h
    · exact ⟨r, reads_of_readAll? hr, by simpa using houter, Option.some.inj h⟩
    · cases h

theorem Reads.exists_next {r r' : Reader} {c : Char} {cs : List Char} (h : Reads r (c :: cs) r')
    (hv : r.flags.verbose = false) :
    ∃ r₁ rest, r.readNext? c cs = some (r₁, rest) ∧ Reads r₁ rest r' := by
  have hskip : r.flags.skip (c :: cs) = c :: cs := by simp [Flags.skip, hv]
  cases h with
  | done h => simp [hskip] at h
  | next h hnext hrest =>
    obtain ⟨rfl, rfl⟩ := List.cons.inj (hskip.symm.trans h)
    exact ⟨_, _, hnext, hrest⟩

/-- The flags of a token: a dot stands for line breaks too. -/
def tokenFlags : Flags := Flags.initial.withDot true

/-- What stands before the group of a token. -/
def tokenStart : List Piece := [⟨.anchor .textStart, 0, false⟩, ⟨.empty, 0, true⟩]

/-- The reader at the beginning of a text where a dot stands for line breaks too. -/
def dotted : Reader := { initial with flags := tokenFlags }

/-- The reader before the group of a token. -/
def beforeToken : Reader := { dotted with items := tokenStart }

/-- The reader at the beginning of a token, in a group that has a number or not. -/
def atToken (index : Option Nat) : Reader :=
  { dotted with outer := [⟨index, tokenFlags, [], tokenStart⟩], groups := index.getD 0 }

theorem Reads.of_start {cs : List Char} {r : Reader}
    (h : Reads initial ("(?s)^(".toList ++ cs) r) :
    ∃ r₁ rest, beforeToken.readNext? '(' cs = some (r₁, rest) ∧ Reads r₁ rest r := by
  obtain ⟨r₁, rest, hnext, h⟩ := h.exists_next rfl
  obtain ⟨rfl, rfl⟩ : dotted.push ⟨.empty, 0, true⟩ = r₁ ∧ '^' :: '(' :: cs = rest :=
    Prod.mk.inj (Option.some.inj hnext)
  obtain ⟨r₂, rest, hnext, h⟩ := h.exists_next rfl
  obtain ⟨rfl, rfl⟩ : beforeToken = r₂ ∧ '(' :: cs = rest :=
    Prod.mk.inj (Option.some.inj hnext)
  exact h.exists_next rfl

theorem Reads.of_anchored {cs : List Char} {r : Reader}
    (h : Reads initial ("(?s)^(?:".toList ++ cs) r) : Reads (atToken none) cs r := by
  have hstart : Reads initial ("(?s)^(".toList ++ ('?' :: ':' :: cs)) r := h
  obtain ⟨r₁, rest, hnext, h⟩ := Reads.of_start hstart
  obtain ⟨rfl, rfl⟩ : atToken none = r₁ ∧ cs = rest := Prod.mk.inj (Option.some.inj hnext)
  exact h

theorem Reads.of_split {cs : List Char} (hcs : ∀ more, cs ≠ '?' :: more) {r : Reader}
    (h : Reads initial ("(?s)^(".toList ++ cs) r) : Reads (atToken (some 1)) cs r := by
  obtain ⟨r₁, rest, hnext, h⟩ := Reads.of_start h
  have hskip : beforeToken.flags.skip cs = cs := rfl
  have hopen : beforeToken.readNext? '(' cs = some (atToken (some 1), cs) := by
    rw [readNext?, readGroup?_eq, hskip, Move.readOpening?_of_ne hcs]
    rfl
  obtain ⟨rfl, rfl⟩ := Prod.mk.inj (Option.some.inj (hopen.symm.trans hnext))
  exact h

/-- A token does not begin with a sign of repetition. -/
theorem Reads.ne_cons {cs : List Char} {r : Reader} (h : Reads initial cs r) (more : List Char) :
    cs ≠ '?' :: more := by
  rintro rfl
  obtain ⟨r₁, rest, hnext, -⟩ := h.exists_next rfl
  cases hnext

theorem closing_anchored : Closing ")".toList where
  head := by simp
  noBreak := by decide
  noColon := by decide

theorem closing_split : Closing ")(.*)$".toList where
  head := by simp
  noBreak := by decide
  noColon := by decide

/-- The end of the group of a token. -/
theorem readNext?_close {r : Reader} {index : Option Nat}
    (h : r.outer = [⟨index, tokenFlags, [], tokenStart⟩]) (cs : List Char) :
    r.readNext? ')' cs = some ({ r with
      flags := tokenFlags
      branches := []
      items := ⟨index.elim r.inner.pattern (.group · r.inner.pattern), 1 + r.inner.depth, false⟩ ::
        tokenStart
      outer := [] }, cs) := by
  rw [readNext?, closeGroup?_eq_some.mpr ⟨_, _, h, rfl⟩]
  rfl

theorem reads_anchored {r : Reader} (h : r.outer = [⟨none, tokenFlags, [], tokenStart⟩]) :
    ∃ r', Reads r ")".toList r' ∧
      r'.inner.pattern = .sequence [.empty, .anchor .textStart, r.inner.pattern] := by
  refine ⟨_, .next (skip_of_closing closing_anchored _) (readNext?_close h []) (.done rfl), rfl⟩

theorem reads_split {r : Reader} (h : r.outer = [⟨some 1, tokenFlags, [], tokenStart⟩]) :
    ∃ r', Reads r ")(.*)$".toList r' ∧
      r'.inner.pattern = .seq (.anchor .textStart) (.seq (.group 1 r.inner.pattern)
        (.seq (.group (r.groups + 1) (Rule.many .all)) (.anchor .textEnd))) := by
  refine ⟨_, .next (skip_of_closing closing_split _) (readNext?_close h _)
    (.next rfl rfl (.next rfl rfl (.next rfl rfl (.next rfl rfl (.next rfl rfl (.done rfl)))))), ?_⟩
  rfl

/-! ## A token in its two places -/

theorem like_dotted : Like False [] 0 initial dotted where
  flags := rfl
  items := rfl
  outer := ⟨[], rfl, .nil⟩
  groups := rfl
  names := rfl
  eq he := nomatch he

theorem like_atToken (e : Prop) (index : Option Nat) :
    Like e [⟨index, tokenFlags, [], tokenStart⟩] (index.getD 0) dotted (atToken index) where
  flags := rfl
  items := rfl
  outer := ⟨[], rfl, .nil⟩
  groups := (Nat.zero_add _).symm
  names := rfl
  eq _ := ⟨rfl, rfl, rfl⟩

theorem Like.outer_eq {e : Prop} {below : List Frame} {before : Nat} {r r' : Reader}
    (h : Like e below before r r') (hr : r.outer = []) : r'.outer = below := by
  obtain ⟨outer, houter, hframes⟩ := h.outer
  rw [hr] at hframes
  cases hframes
  exact houter

/-- A text that makes sense by itself does so where a dot stands for line breaks. -/
theorem Reads.dotted {cs : List Char} {r : Reader} (h : Reads initial cs r) (hr : r.outer = []) :
    ∃ r', Reads dotted cs r' ∧ r'.outer = [] ∧ r'.groups = r.groups := by
  have hz : Closing [] := ⟨by simp, by simp, by simp⟩
  obtain ⟨r', hlike, hgo⟩ := h.like_of_goesOn hz like_dotted (fun he => nomatch he) (.inr rfl)
  refine ⟨r', ?_, hlike.outer_eq hr, hlike.groups⟩
  rcases hgo with hgo | hgo
  · exact hgo r' (.done (skip_of_closing hz _))
  · exact hgo

/-- **A token is read alike in its two places**, and there are no groups in it. A group inside the
token would count after the first one, so that there would be more than two. -/
theorem token_patterns {token : List Char} {r r₁ r₂ : Reader} (hr : Reads dotted token r)
    (houter : r.outer = []) (hsign : ∀ more, token ≠ '?' :: more)
    (h₁ : Reads initial ("(?s)^(?:".toList ++ (token ++ ")".toList)) r₁)
    (houter₁ : r₁.outer = [])
    (h₂ : Reads initial ("(?s)^(".toList ++ (token ++ ")(.*)$".toList)) r₂)
    (houter₂ : r₂.outer = []) (hgroups : r₂.inner.pattern.groupCount = Rule.groupCount) :
    r.groups = 0 ∧ r₁.inner.pattern = .sequence [.empty, .anchor .textStart, r.inner.pattern] ∧
      r₂.inner.pattern = Rule.splitPattern r.inner.pattern := by
  have hopen {r' : Reader} (h : r'.outer = []) (frame : Frame) :
      r'.outer.length < r.outer.length + [frame].length := by
    rw [h]
    simp
  -- Without groups, what is read in the two places is the very same.
  have hnone : r.groups = 0 → r.groups = dotted.groups := id
  have h₁' := h₁.of_anchored
  obtain ⟨s₁, hlike₁, hgo₁⟩ := hr.like closing_anchored (like_atToken _ none) hnone h₁'
    (hopen houter₁ _)
  obtain ⟨r₁', hr₁', hpattern₁⟩ := reads_anchored (hlike₁.outer_eq houter)
  obtain rfl := h₁'.unique (hgo₁ r₁' hr₁')
  have h₂' := h₂.of_split (closing_split.append_ne_cons (by decide) hsign)
  obtain ⟨s₂, hlike₂, hgo₂⟩ := hr.like closing_split (like_atToken _ (some 1)) hnone h₂'
    (hopen houter₂ _)
  obtain ⟨r₂', hr₂', hpattern₂⟩ := reads_split (hlike₂.outer_eq houter)
  obtain rfl := h₂'.unique (hgo₂ r₂' hr₂')
  have hcount : s₂.groups = r.groups + 1 := hlike₂.groups
  have hzero : r.groups = 0 := by
    have hle : s₂.groups + 1 ≤ r₂.inner.pattern.groupCount := by
      rw [hpattern₂]
      exact Nat.le_trans (Nat.le_max_left ..) (Nat.le_trans (Nat.le_max_left ..)
        (Nat.le_trans (Nat.le_max_right ..) (Nat.le_max_right ..)))
    rw [hgroups, Rule.groupCount] at hle
    omega
  refine ⟨hzero, ?_, ?_⟩
  · rw [hpattern₁, hlike₁.inner_eq hzero]
  · rw [hpattern₂, hlike₂.inner_eq hzero, hcount, hzero]
    rfl

theorem exists_token {token : List Char} {r₀ r₁ r₂ : Reader} (h₀ : Reads initial token r₀)
    (houter₀ : r₀.outer = []) (h₁ : Reads initial ("(?s)^(?:".toList ++ (token ++ ")".toList)) r₁)
    (houter₁ : r₁.outer = [])
    (h₂ : Reads initial ("(?s)^(".toList ++ (token ++ ")(.*)$".toList)) r₂)
    (houter₂ : r₂.outer = []) (hgroups : r₂.inner.pattern.groupCount = Rule.groupCount) :
    ∃ q : Pattern, q.Normal ∧
      r₁.inner.pattern = .sequence [.empty, .anchor .textStart, q] ∧
      r₂.inner.pattern = Rule.splitPattern q := by
  obtain ⟨r, hr, houter, -⟩ := h₀.dotted houter₀
  exact ⟨r.inner.pattern, (hr.normal (normal_initial _)).inner,
    (token_patterns hr houter h₀.ne_cons h₁ houter₁ h₂ houter₂ hgroups).2⟩

end Pattern.Reader

/-! ## The two rules -/

namespace Rule

/-- The pattern of a token at the beginning of a text. -/
theorem match?_sequence {q : Pattern} (hq : q.Normal) (text : List Char) :
    (Pattern.sequence [.empty, .anchor .textStart, q]).match? text = q.match? text := by
  have hfactors : Pattern.sequence [.empty, .anchor .textStart, q] =
      Pattern.ofFactors (.anchor .textStart :: q.factors) := by
    simp [Pattern.sequence, Pattern.factors]
  rw [hfactors]
  by_cases hempty : q = .empty
  · rw [hempty]
    exact match?_textStart
  · rw [ofFactors_cons_factors _ hq hempty]
    exact match?_anchored hq.ordered

theorem toList_anchoredSource (token : String) :
    (anchoredSource token).toList = "(?s)^(?:".toList ++ (token.toList ++ ")".toList) := by
  simp [anchoredSource]

theorem toList_splitSource (token : String) :
    (splitSource token).toList = "(?s)^(".toList ++ (token.toList ++ ")(.*)$".toList) := by
  simp [splitSource]

theorem ofPattern_of_ofToken {kind : Kind} {token : String} {r : Rule}
    (h : ofToken kind token = .ok r) :
    ∃ p, Pattern.read? (splitSource token) = some p ∧ p.groupCount = groupCount ∧
      ofPattern kind (splitSource token) = .ok ⟨kind, splitSource token, .split p⟩ := by
  unfold ofToken at h
  split at h
  · cases h
  · next rule hrule =>
    unfold ofPattern at hrule ⊢
    split at hrule
    · cases hrule
    · next p hread =>
      split at hrule
      · next hgroups => exact ⟨p, hread, hgroups, if_pos hgroups⟩
      · cases hrule

/-- A token that makes sense by itself is read as the same pattern in both rules for it. -/
theorem exists_pattern_of_ofToken {kind : Kind} {token : String} {p : Pattern} {r : Rule}
    (hvalid : Pattern.read? token = some p) (h : ofToken kind token = .ok r) :
    ∃ q p₁ p₂ : Pattern, q.Normal ∧ Pattern.read? (anchoredSource token) = some p₁ ∧
      Pattern.read? (splitSource token) = some p₂ ∧
      p₁ = .sequence [.empty, .anchor .textStart, q] ∧ p₂ = splitPattern q ∧
      r = ⟨kind, splitSource token, .token p₁⟩ ∧
      ofPattern kind (splitSource token) = .ok ⟨kind, splitSource token, .split p₂⟩ := by
  obtain ⟨p₁, hread₁, hr⟩ := ofToken_eq_ok h
  obtain ⟨p₂, hread₂, hgroups, hr'⟩ := ofPattern_of_ofToken h
  obtain ⟨r₀, h₀, houter₀, -⟩ := Reader.exists_reads_of_read? hvalid
  obtain ⟨r₁, h₁, houter₁, rfl⟩ := Reader.exists_reads_of_read? hread₁
  obtain ⟨r₂, h₂, houter₂, rfl⟩ := Reader.exists_reads_of_read? hread₂
  rw [toList_anchoredSource] at h₁
  rw [toList_splitSource] at h₂
  obtain ⟨q, hq, hq₁, hq₂⟩ := Reader.exists_token h₀ houter₀ h₁ houter₁ h₂ houter₂ hgroups
  exact ⟨q, _, _, hq, hread₁, hread₂, hq₁, hq₂, hr, hr'⟩

/-- **A rule for a token cuts as the rule with two groups does.** For a token that makes sense by
itself, the match of its pattern is the first group and what is left is the second; both rules
refuse a text that the pattern does not match, or of which it takes no character. (Groups inside the
token need no mention: with them, there is no rule.) -/
theorem cut?_ofToken_eq_ofPattern {kind : Kind} {token : String} {p : Pattern} {r : Rule}
    (hvalid : Pattern.read? token = some p) (h : ofToken kind token = .ok r) :
    ∃ r' p₁ p₂, ofPattern kind r.source = .ok r' ∧
      Pattern.read? (anchoredSource token) = some p₁ ∧
      Pattern.read? (splitSource token) = some p₂ ∧
      ∀ text, r.cut? text = r'.cut? text ∧
        (r.cut? text = none ↔ ∀ t, p₁.match? text = some t → t.pos = 0) ∧
        (p₁.match? text = none ↔ p₂.match? text = none) ∧
        ∀ t, p₁.match? text = some t → t.rest = text.drop t.pos ∧
          ∃ t', p₂.match? text = some t' ∧ t'.capture? 1 = some ⟨1, 0, t.pos⟩ ∧
            t'.capture? 2 = some ⟨2, t.pos, text.length⟩ := by
  obtain ⟨q, p₁, p₂, hq, hread₁, hread₂, hp₁, hp₂, rfl, hr'⟩ := exists_pattern_of_ofToken hvalid h
  refine ⟨_, p₁, p₂, hr', hread₁, hread₂, fun text => ?_⟩
  have hmatch : p₁.match? text = q.match? text := by rw [hp₁, match?_sequence hq]
  obtain ⟨hnone, hsome⟩ := match?_splitPattern hq.ordered text
  rw [← hp₂, ← hmatch] at hnone hsome
  cases hm : p₁.match? text with
  | none =>
    have hm' := hnone hm
    simp [cut?, hm, hm']
  | some t =>
    obtain ⟨t', hm', hfirst, hsecond⟩ := hsome t hm
    have hrest := (match?_inText hm).rest_eq
    have hcut : cut? ⟨kind, splitSource token, .token p₁⟩ text =
        if t.pos = 0 then none else some (text.take t.pos, text.drop t.pos) := by
      simp only [cut?, hm, hrest]
    have hcut' : cut? ⟨kind, splitSource token, .split p₂⟩ text =
        if t.pos = 0 then none else some (text.take t.pos, text.drop t.pos) := by
      simp only [cut?, hm', hfirst, hsecond, Option.map_some, Option.getD_some, true_and, ne_eq,
        ite_not]
    refine ⟨hcut.trans hcut'.symm, ?_, by simp [hm'], fun t₁ ht₁ => ?_⟩
    · rw [hcut]
      simp
    · obtain rfl := Option.some.inj ht₁
      exact ⟨hrest, t', hm', hfirst, hsecond⟩

/-- Choices, a lazy repetition, flags and anchors are taken over into the pattern with two groups. -/
theorem cut?_ofToken_eq_ofPattern_lazy :
    ∃ p r r', Pattern.read? "(?:a|ab)c??|(?mU)^\\bd+" = some p ∧
      ofToken (.field "tag") "(?:a|ab)c??|(?mU)^\\bd+" = .ok r ∧
      ofPattern (.field "tag") r.source = .ok r' ∧ ∀ text, r.cut? text = r'.cut? text := by
  have hvalid : (Pattern.read? "(?:a|ab)c??|(?mU)^\\bd+").isSome = true := by decide +kernel
  have hrule : (ofToken (.field "tag") "(?:a|ab)c??|(?mU)^\\bd+").toOption.isSome = true := by
    decide +kernel
  obtain ⟨p, hp⟩ := Option.isSome_iff_exists.mp hvalid
  cases hr : ofToken (.field "tag") "(?:a|ab)c??|(?mU)^\\bd+" with
  | error e => simp [hr, Except.toOption] at hrule
  | ok r =>
    obtain ⟨r', p₁, p₂, hr', -, -, hcut⟩ := cut?_ofToken_eq_ofPattern hp hr
    exact ⟨p, r, r', hp, rfl, hr', fun text => (hcut text).1⟩

end Rule

end SearchQuery
