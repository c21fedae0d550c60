import SearchQuery.Proofs.BareText
import SearchQuery.Proofs.GroupNumbers
import SearchQuery.Proofs.TokenRules

/-!
# Which tokens are patterns by themselves

A rule is made from a pattern for the token alone by putting its text into a group of two longer
patterns, and only these are looked at. So a token is accepted as well if it closes the group around
it and goes on behind it.

* `Reader.ClosesAround`: reading comes upon a closing parenthesis while no group is open.
* A move that is read in front of the parenthesis behind a token is also read without it
  (`Move.read?_back`), and can also be made without the group around the token
  (`Reader.Like.exists_make?`). So a token that is read to its end in a group either closes this group
  or makes sense by itself (`Reader.Reads.bare`).
* `Rule.ofToken_accepts`: of the tokens that are accepted, those that do not close the group around
  them are the ones that make sense by themselves. They have no groups, and the first group of their
  rule is what they match.
-/

namespace SearchQuery

namespace Pattern

open Text

/-! ## Moves without the parenthesis behind them -/

namespace Move

theorem readNamed?_back {cs rest' : List Char} {m : Move}
    (h : readNamed? (cs ++ [')']) = some (m, rest')) :
    ∃ rest, readNamed? cs = some (m, rest) ∧ rest' = rest ++ [')'] := by
  obtain ⟨⟨name, rest₀'⟩, hname, hpure⟩ := Option.map_eq_some_iff.mp h
  obtain ⟨rfl, rfl⟩ := Prod.mk.inj hpure
  obtain ⟨rest, hname', rfl⟩ := readName?_back hname
  exact ⟨rest, by rw [readNamed?, hname']; rfl, rfl⟩

theorem readFlags?_back {cs rest' : List Char} {m : Move}
    (h : readFlags? (cs ++ [')']) = some (m, rest')) :
    rest' = [] ∨ ∃ rest, readFlags? cs = some (m, rest) ∧ rest' = rest ++ [')'] := by
  unfold readFlags? at h ⊢
  simp only [Option.bind_eq_bind, Option.bind_eq_some_iff] at h
  obtain ⟨⟨changes, last, rest₀'⟩, hflags, h⟩ := h
  have hrest : rest' = rest₀' := by
    split at h
    · exact (Prod.mk.inj (Option.some.inj h)).2.symm
    · split at h
      · cases h
      · exact (Prod.mk.inj (Option.some.inj h)).2.symm
  rcases Flags.read?_back hflags with hnil | ⟨rest, hflags', heq⟩
  · exact .inl (hrest.trans hnil)
  · refine .inr ⟨rest, ?_, hrest.trans heq⟩
    simp only [hflags', Option.bind_eq_bind, Option.bind_some]
    split at h
    · next hlast =>
      obtain ⟨rfl, -⟩ := Prod.mk.inj (Option.some.inj h)
      rw [if_pos hlast]
      rfl
    · next hlast =>
      rw [if_neg hlast]
      split at h
      · cases h
      · next hempty =>
        obtain ⟨rfl, -⟩ := Prod.mk.inj (Option.some.inj h)
        rw [if_neg hempty]
        rfl

theorem readOpening?_back : ReadsBack readOpening? := by
  intro cs m rest' h
  unfold readOpening? at h
  split at h
  case h_1 | h_2 | h_3 | h_4 => cases h
  case h_5 heq =>
    obtain ⟨more₁, rfl, heq₁⟩ := exists_of_append_eq_cons (by decide) heq
    obtain ⟨more₂, rfl, heq₂⟩ := exists_of_append_eq_cons (by decide) heq₁.symm
    obtain ⟨more, rfl, rfl⟩ := exists_of_append_eq_cons (by decide) heq₂.symm
    obtain ⟨rest, h', rfl⟩ := readNamed?_back h
    exact .inr ⟨rest, h', .inl rfl⟩
  case h_6 h₁ h₂ heq =>
    obtain ⟨more₁, rfl, heq₁⟩ := exists_of_append_eq_cons (by decide) heq
    obtain ⟨more, rfl, rfl⟩ := exists_of_append_eq_cons (by decide) heq₁.symm
    obtain ⟨rest, h', rfl⟩ := readNamed?_back h
    refine .inr ⟨rest, ?_, .inl rfl⟩
    rw [readOpening?]
    · exact h'
    · exact fun more' heq => h₁ (more' ++ [')']) (by rw [heq]; rfl)
    · exact fun more' heq => h₂ (more' ++ [')']) (by rw [heq]; rfl)
  case h_7 heq =>
    obtain ⟨more, rfl, rfl⟩ := exists_of_append_eq_cons (by decide) heq
    rcases readFlags?_back h with hnil | ⟨rest, h', rfl⟩
    · exact .inl hnil
    · obtain ⟨c, more, rfl, h₁, h₂, h₃, h₄⟩ := exists_cons_of_readFlags? h'
      refine .inr ⟨rest, ?_, .inl rfl⟩
      rw [readOpening?]
      · exact h'
      all_goals simp [h₁, h₂, h₃, h₄]
  case h_8 hne =>
    obtain ⟨rfl, rfl⟩ := Prod.mk.inj (Option.some.inj h)
    refine .inr ⟨cs, readOpening?_of_ne fun more heq => hne (more ++ [')']) ?_, .inl rfl⟩
    rw [heq, List.cons_append]

theorem marked_back {min : Nat} {max : Option Nat} {cs cs' rest' : List Char} {m : Move}
    (hgo : GoesOn [')'] cs cs') (h : marked min max cs' = (m, rest')) :
    ∃ rest, marked min max cs = (m, rest) ∧ GoesOn [')'] rest rest' := by
  obtain ⟨rfl, rfl⟩ := Prod.mk.inj h
  obtain ⟨hlazy, hgo'⟩ := readLazy_goesOn closing_paren hgo
  exact ⟨_, by simp only [marked, hlazy], hgo'⟩

/-- **A move is the same without the parenthesis**, unless the parenthesis is taken, or what is left
is a brace that begins no repetition. -/
theorem read?_back {f : Flags} {c : Char} {cs cs' rest' : List Char} {m : Move}
    (hgo : GoesOn [')'] cs cs') (h : read? f c cs' = some (m, rest')) :
    (rest' = [] ∧ c ≠ ')') ∨ (∃ rest, read? f c cs = some (m, rest) ∧ GoesOn [')'] rest rest') ∨
      ∃ p more, m = .push p ∧ rest' = '\x7b' :: more ∧ f.skip more = [')'] := by
  rcases hgo with rfl | rfl
  · by_cases hc : c = ')'
    · subst hc
      obtain ⟨rfl, rfl⟩ := Prod.mk.inj (Option.some.inj h)
      exact .inr (.inl ⟨cs, rfl, .inl rfl⟩)
    · unfold read? at h ⊢
      split at h
      case h_1 =>
        rcases readOpening?_back.of_goesOn (f.skip_goesOn closing_paren cs) h with hnil | hback
        · exact .inl ⟨hnil, hc⟩
        · exact .inr (.inl hback)
      case h_2 => exact absurd rfl hc
      case h_4 =>
        obtain ⟨⟨part, rest₀'⟩, hpart, hpure⟩ := Option.map_eq_some_iff.mp h
        obtain ⟨rfl, rfl⟩ := Prod.mk.inj hpure
        obtain ⟨rest, hpart', hgo⟩ := Bracket.read?_back hpart
        exact .inr (.inl ⟨rest, by simp only [hpart', Option.map_some], hgo⟩)
      case h_5 | h_6 | h_7 =>
        obtain ⟨rest, hmarked, hgo⟩ := marked_back (.inl rfl) (Option.some.inj h)
        exact .inr (.inl ⟨rest, congrArg some hmarked, hgo⟩)
      case h_8 =>
        obtain ⟨⟨min, max, rest₀'⟩, hbounds, hmarked⟩ := Option.map_eq_some_iff.mp h
        obtain ⟨rest₀, hbounds', hgo⟩ := readBounds?_back hbounds
        obtain ⟨rest, hmarked', hgo'⟩ := marked_back (f.goesOn_skip closing_paren hgo) hmarked
        refine .inr (.inl ⟨rest, ?_, hgo'⟩)
        simp only [hbounds', Option.map_some, hmarked']
      case h_9 =>
        simp only [Option.bind_eq_bind, Option.bind_eq_some_iff] at h
        obtain ⟨⟨a, rest₀'⟩, hescape, h⟩ := h
        obtain ⟨m', hatom, hpure⟩ := Option.map_eq_some_iff.mp h
        obtain ⟨rfl, rfl⟩ := Prod.mk.inj hpure
        rcases Atom.readEscape?_back hescape with
          hnil | ⟨rest, hescape', hgo⟩ | ⟨edge, more, rfl, heq, hskip⟩
        · exact .inl ⟨hnil, hc⟩
        · refine .inr (.inl ⟨rest, ?_, hgo⟩)
          simp only [hescape', Option.bind_eq_bind, Option.bind_some, hatom, Option.map_some]
        · exact .inr (.inr ⟨_, more, (Option.some.inj hatom).symm, heq, hskip⟩)
      case h_10 =>
        split at h
        · next hall =>
          obtain ⟨rfl, rfl⟩ := Prod.mk.inj (Option.some.inj h)
          exact .inr (.inl ⟨cs, by rw [if_pos hall], .inl rfl⟩)
        · cases h
      case h_13 =>
        obtain ⟨m', hatom, hpure⟩ := Option.map_eq_some_iff.mp h
        obtain ⟨rfl, rfl⟩ := Prod.mk.inj hpure
        exact .inr (.inl ⟨cs, by rw [hatom]; rfl, .inl rfl⟩)
      all_goals
        obtain ⟨rfl, rfl⟩ := Prod.mk.inj (Option.some.inj h)
        exact .inr (.inl ⟨cs, rfl, .inl rfl⟩)
  · exact .inr (.inl ⟨rest', h, .inr rfl⟩)

end Move

/-! ## Readers without the group around them -/

namespace Reader

/-- Reading comes upon a closing parenthesis while no group is open. -/
inductive ClosesAround : Reader → List Char → Prop
  | here {r : Reader} {cs more : List Char} (h : r.flags.skip cs = ')' :: more)
      (houter : r.outer = []) : ClosesAround r cs
  | next {r r₁ : Reader} {cs more rest : List Char} {c : Char} (h : r.flags.skip cs = c :: more)
      (hnext : r.readNext? c more = some (r₁, rest)) (hrest : ClosesAround r₁ rest) :
      ClosesAround r cs

/-- What closes the group around it makes no sense by itself. -/
theorem ClosesAround.not_reads {r r' : Reader} {cs : List Char} (h : ClosesAround r cs) :
    ¬ Reads r cs r' := by
  induction h with
  | here h houter =>
    intro hreads
    cases hreads with
    | done h' => simp [h] at h'
    | next h' hnext _ =>
      obtain ⟨rfl, rfl⟩ := List.cons.inj (h.symm.trans h')
      obtain ⟨m, hread, hmake⟩ := readNext?_eq_some.mp hnext
      obtain ⟨rfl, -⟩ := Prod.mk.inj (Option.some.inj hread)
      obtain ⟨frame, outer, heq, -⟩ := closeGroup?_eq_some.mp hmake
      rw [houter] at heq
      cases heq
  | next h hnext _ ih =>
    intro hreads
    cases hreads with
    | done h' => simp [h] at h'
    | next h' hnext' hrest' =>
      obtain ⟨rfl, rfl⟩ := List.cons.inj (h.symm.trans h')
      obtain ⟨rfl, rfl⟩ := Prod.mk.inj (Option.some.inj (hnext.symm.trans hnext'))
      exact ih hrest'

theorem length_outer_make? {r r' : Reader} {m : Move} (hm : m ≠ .closeGroup)
    (h : r.make? m = some r') : r.outer.length ≤ r'.outer.length := by
  cases m with
  | push p | dot | set changes | branch =>
    obtain rfl := Option.some.inj h
    exact Nat.le_refl _
  | openGroup changes =>
    obtain rfl := Option.some.inj h
    exact Nat.le_succ _
  | openCapture name =>
    obtain ⟨-, rfl⟩ := make?_openCapture.mp h
    exact Nat.le_succ _
  | closeGroup => exact absurd rfl hm
  | repeatLast min max greedy =>
    obtain ⟨p, items, -, -, rfl⟩ := repeatLast?_eq_some.mp h
    exact Nat.le_refl _

/-- **A move that the second reader makes, the first can make too**, unless it closes a group that
is around the first. -/
theorem Like.exists_make? {e : Prop} {below : List Frame} {before : Nat} {r r' r₁' : Reader}
    (h : Like e below before r r') {m : Move} (hm : r'.make? m = some r₁')
    (hclose : m = .closeGroup → r.outer ≠ []) : ∃ r₁, r.make? m = some r₁ := by
  cases m with
  | push p | dot | set changes | openGroup changes | branch => exact ⟨_, rfl⟩
  | openCapture name =>
    obtain ⟨hname, -⟩ := make?_openCapture.mp hm
    exact ⟨_, make?_openCapture.mpr ⟨h.names ▸ hname, rfl⟩⟩
  | closeGroup =>
    obtain ⟨frame, outer, heq⟩ := List.exists_cons_of_ne_nil (hclose rfl)
    exact ⟨_, closeGroup?_eq_some.mpr ⟨frame, outer, heq, rfl⟩⟩
  | repeatLast min max greedy =>
    obtain ⟨p', items', heq, hsetting, -⟩ := repeatLast?_eq_some.mp hm
    have hitems := h.items
    rw [heq] at hitems
    obtain ⟨p, items, hr, hp, -⟩ := List.map_eq_cons_iff.mp hitems.symm
    exact ⟨_, repeatLast?_eq_some.mpr ⟨p, items, hr, hp.trans hsetting, rfl⟩⟩

/-- From nothing the reader goes nowhere. -/
theorem Reads.eq_of_nil {r r' : Reader} (h : Reads r [] r') : r = r' := by
  cases h with
  | done => rfl
  | next h => simp [skip_of_closing closing_nil] at h

/-- A brace that begins no repetition is not read on. -/
theorem not_reads_brace {r r' : Reader} {more : List Char} (h : r.flags.skip more = [')']) :
    ¬ Reads r ('\x7b' :: more) r' := by
  have hskip : r.flags.skip ('\x7b' :: more) = '\x7b' :: more := by
    have hblank : isWhiteSpace '\x7b' = false := by decide
    simp [Flags.skip, Flags.dropBlanks, hblank]
  intro hreads
  cases hreads with
  | done h' => simp [hskip] at h'
  | next h' hnext _ =>
    obtain ⟨rfl, rfl⟩ := List.cons.inj (hskip.symm.trans h')
    obtain ⟨m, hread, -⟩ := readNext?_eq_some.mp hnext
    simp [Move.read?, readBounds?_paren h] at hread

/-- **A text that is read to its end inside a group, with the parenthesis behind it that closes the
group, closes the group before or makes sense by itself.** -/
theorem Reads.bare {before : Nat} {frame : Frame} {r r' r₂' : Reader} {cs cs' : List Char}
    (h : Reads r' cs' r₂') (hlike : Like False [frame] before r r')
    (hgo : GoesOn [')'] cs cs') (hend : r₂'.outer = []) :
    ClosesAround r cs ∨ ∃ r₂, Reads r cs r₂ ∧ r₂.outer = [] := by
  induction h generalizing r cs with
  | done =>
    have hr := hlike.length_outer
    rw [hend] at hr
    cases hr
  | @next r' r₁' r₂' cs' more' rest' c hskip hnext hrest ih =>
    have hflags : r'.flags.skip = r.flags.skip := by rw [hlike.flags, Flags.skip_withDot]
    have hgo' : GoesOn [')'] (r.flags.skip cs) (c :: more') := by
      rw [← hskip, hflags]
      exact r.flags.goesOn_skip closing_paren hgo
    obtain ⟨m, hread, hmake⟩ := readNext?_eq_some.mp hnext
    cases hcs : r.flags.skip cs with
    | nil =>
      -- Only the parenthesis is left, and it closes the group around the text.
      rw [hcs] at hgo'
      rcases hgo' with heq | heq
      · obtain ⟨rfl, rfl⟩ := List.cons.inj heq
        obtain ⟨rfl, rfl⟩ := Prod.mk.inj (Option.some.inj hread)
        obtain ⟨frame', outer', houter, rfl⟩ := closeGroup?_eq_some.mp hmake
        obtain rfl := hrest.eq_of_nil
        have hr := hlike.length_outer
        rw [houter, show outer' = [] from hend] at hr
        exact .inr ⟨r, .done hcs,
          List.length_eq_zero_iff.mp (Nat.succ.inj hr).symm⟩
      · cases heq
    | cons d more =>
      rw [hcs] at hgo'
      obtain ⟨rfl, hmore⟩ := hgo'.of_cons
      by_cases hclose : d = ')' ∧ r.outer = []
      · obtain ⟨rfl, houter⟩ := hclose
        exact .inl (.here hcs houter)
      · have hplain (hd : d ≠ ')') : m ≠ .closeGroup := by
          rintro rfl
          exact Move.plain_read? hd hread
        rw [hlike.flags, Move.read?_withDot] at hread
        rcases Move.read?_back hmore hread with
          ⟨rfl, hd⟩ | ⟨rest, hread', hgo₁⟩ | ⟨p, more₂, rfl, rfl, hskip₂⟩
        · -- No group is closed where the parenthesis is taken otherwise.
          obtain rfl := hrest.eq_of_nil
          have hle := length_outer_make? (hplain hd) hmake
          rw [hend, hlike.length_outer] at hle
          cases hle
        · obtain ⟨r₁, hmake₁⟩ := hlike.exists_make? hmake fun hm houter =>
            hclose ⟨by_contra fun hd => hplain hd hm, houter⟩
          obtain ⟨r₁'', hmake', hlike'⟩ := hlike.make? hmake₁ False.elim
          obtain rfl := Option.some.inj (hmake.symm.trans hmake')
          have hnext₁ : r.readNext? d more = some (r₁, rest) :=
            readNext?_eq_some.mpr ⟨m, hread', hmake₁⟩
          rcases ih hlike' hgo₁ hend with hcloses | ⟨r₂, hreads, houter⟩
          · exact .inl (.next hcs hnext₁ hcloses)
          · exact .inr ⟨r₂, .next hcs hnext₁ hreads, houter⟩
        · obtain rfl := Option.some.inj hmake
          refine absurd hrest (not_reads_brace ?_)
          rw [← hskip₂, ← hflags]
          rfl

theorem like_bare (frame : Frame) :
    Like False [frame] 0 initial { atToken none with outer := [frame] } where
  flags := rfl
  items := rfl
  outer := ⟨[], rfl, .nil⟩
  groups := rfl
  names := rfl
  eq he := he.elim

end Reader

/-! ## Texts by themselves -/

/-- The expression that a text is by itself: it can be read to its end, with no group left open. -/
def expression? (f : Flags) (source : String) : Option Piece :=
  (Reader.readAll? source.toList.length { Reader.initial with flags := f } source.toList).bind
    fun r => if r.outer.isEmpty then some r.inner else none

/-- A pattern is a text that is an expression by itself, neither too deep nor too large. -/
theorem read?_eq (source : String) :
    read? source = (expression? .initial source).bind fun x =>
      if x.depth ≤ maxDepth && x.pattern.fits then some x.pattern else none := by
  unfold read? expression?
  simp only [Option.bind_eq_bind, Option.bind_assoc]
  refine congrArg (Option.bind _) (funext fun r => ?_)
  cases r.outer.isEmpty with
  | true => rfl
  | false => rfl

theorem expression?_eq_some_iff {f : Flags} {source : String} {x : Piece} :
    expression? f source = some x ↔ ∃ r, Reader.Reads { Reader.initial with flags := f }
      source.toList r ∧ r.outer = [] ∧ r.inner = x := by
  unfold expression?
  simp only [Option.bind_eq_some_iff, Reader.readAll?_eq_some_iff]
  refine exists_congr fun r => and_congr_right fun _ => ?_
  by_cases houter : r.outer = [] <;> simp [houter]

end Pattern

/-! ## Tokens that are accepted -/

namespace Rule

open Pattern Pattern.Reader

/-- A token that is accepted closes the group around it if it makes no sense by itself. -/
theorem closesAround_of_ofToken {kind : Kind} {token : String} {r : Rule}
    (h : ofToken kind token = .ok r) (hnone : expression? .initial token = none) :
    ClosesAround .initial token.toList := by
  obtain ⟨p₁, hread₁, -⟩ := ofToken_eq_ok h
  obtain ⟨r₁, h₁, houter₁, -⟩ := exists_reads_of_read? hread₁
  rw [toList_anchoredSource] at h₁
  refine (h₁.of_anchored.bare (like_bare _) (.inl rfl) houter₁).resolve_right ?_
  rintro ⟨x, hreads, houter⟩
  have hx : expression? .initial token = some x.inner :=
    expression?_eq_some_iff.mpr ⟨x, hreads, houter, rfl⟩
  simp [hnone] at hx

/-- **Which tokens are accepted.** A token that is accepted and closes the group around it is no
pattern by itself. Any other token that is accepted is an expression by itself, and a pattern unless
it is too deep or too large; there are no groups in it, and where the dot stands for line breaks too,
as it does in the pattern with two groups, the first of these groups is what the token matches. -/
theorem ofToken_accepts {kind : Kind} {token : String} {r : Rule}
    (h : ofToken kind token = .ok r) :
    (ClosesAround .initial token.toList → Pattern.read? token = none) ∧
      (¬ ClosesAround .initial token.toList →
        ∃ x y p, expression? .initial token = some x ∧ x.pattern.groupCount = 0 ∧
          Pattern.read? token =
            (if x.depth ≤ maxDepth ∧ x.pattern.fits = true then some x.pattern else none) ∧
          expression? tokenFlags token = some y ∧ y.pattern.groupCount = 0 ∧
          Pattern.read? (splitSource token) = some p ∧
          ∀ text, (y.pattern.match? text = none → p.match? text = none) ∧
            ∀ t, y.pattern.match? text = some t →
              ∃ t', p.match? text = some t' ∧ t'.capture? 1 = some ⟨1, 0, t.pos⟩) := by
  constructor
  · intro hcloses
    refine Option.eq_none_iff_forall_ne_some.mpr fun p hp => ?_
    obtain ⟨x, hreads, -⟩ := read?_eq_some_iff.mp hp
    exact hcloses.not_reads hreads
  · intro hopen
    obtain ⟨x, hx⟩ := Option.ne_none_iff_exists'.mp (mt (closesAround_of_ofToken h) hopen)
    obtain ⟨r₀, h₀, houter₀, rfl⟩ := expression?_eq_some_iff.mp hx
    obtain ⟨p₁, hread₁, -⟩ := ofToken_eq_ok h
    obtain ⟨p₂, hread₂, hgroups, -⟩ := ofPattern_of_ofToken h
    obtain ⟨r₁, h₁, houter₁, rfl⟩ := exists_reads_of_read? hread₁
    obtain ⟨r₂, h₂, houter₂, rfl⟩ := exists_reads_of_read? hread₂
    rw [toList_anchoredSource] at h₁
    rw [toList_splitSource] at h₂
    obtain ⟨y, hy, houter, hcount⟩ := Reads.dotted h₀ houter₀
    obtain ⟨hzero, -, hsplit⟩ := token_patterns hy houter h₀.ne_cons h₁ houter₁ h₂ houter₂ hgroups
    have hnormal : y.inner.pattern.Normal := (hy.normal (normal_initial _)).inner
    have hgroups₀ := @Reads.groupCount_le .initial _ _ h₀
    have hgroups₁ := @Reads.groupCount_le tokenFlags _ _ hy
    refine ⟨_, y.inner, _, hx, by omega, by simp [read?_eq, hx],
      expression?_eq_some_iff.mpr ⟨y, hy, houter, rfl⟩, by omega, hread₂, fun text => ?_⟩
    obtain ⟨hnone, hsome⟩ := match?_splitPattern hnormal.ordered text
    rw [hsplit]
    refine ⟨hnone, fun t ht => ?_⟩
    obtain ⟨t', ht', hfirst, -⟩ := hsome t ht
    exact ⟨t', ht', hfirst⟩

/-- A parenthesis in a set in brackets closes nothing. -/
theorem ofToken_accepts_bracket :
    ¬ ClosesAround .initial "(?:[)\\]]|\\)x)+".toList ∧
      ∃ x, expression? .initial "(?:[)\\]]|\\)x)+" = some x ∧ x.pattern.groupCount = 0 := by
  have hrule : (ofToken (.field "tag") "(?:[)\\]]|\\)x)+").toOption.isSome = true := by
    decide +kernel
  have hread : (Pattern.read? "(?:[)\\]]|\\)x)+").isSome = true := by decide +kernel
  cases hr : ofToken (.field "tag") "(?:[)\\]]|\\)x)+" with
  | error e => simp [hr, Except.toOption] at hrule
  | ok r =>
    obtain ⟨hcloses, hgenuine⟩ := ofToken_accepts hr
    have hopen : ¬ ClosesAround .initial "(?:[)\\]]|\\)x)+".toList := by
      intro h
      simp [hcloses h] at hread
    obtain ⟨x, -, -, hx, hcount, -⟩ := hgenuine hopen
    exact ⟨hopen, x, hx, hcount⟩

/-- Tokens that close the group around them are accepted, with a group of their own or without. -/
theorem closing_tokens_accepted :
    (ofToken (.field "X") "a)(?:b").toOption.isSome = true ∧ Pattern.read? "a)(?:b" = none ∧
      (ofToken (.field "X") "a)(b)(?x)#").toOption.isSome = true ∧
      Pattern.read? "a)(b)(?x)#" = none := by
  decide +kernel

end Rule

end SearchQuery
