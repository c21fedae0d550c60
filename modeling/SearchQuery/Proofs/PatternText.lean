import Mathlib.Data.List.TakeWhile
import SearchQuery.Pattern.Reader

/-!
# What follows a part of a pattern

A part of a pattern is read without a look at what follows it, as long as that can only close a
group (`Closing`). There is one exception: where comments are ignored, a comment at the end of a
text takes in what follows (`GoesOn`). `ReadsOn` says this of a function that reads from the front
of a text.

* `Flags.skip_goesOn`, `Flags.untilBrace_append`, `Flags.read?_append`: blanks, braces and flags;
* `Atom.readEscape?_readsOn`: what follows a backslash;
* `readBounds?_goesOn`, `readName?_append`: the bounds of a repetition and the names of groups.
-/

namespace SearchQuery.Pattern

open Text

/-! ## Texts that go on -/

/-- A text that can only end what is being read before it: it is empty or begins with a closing
parenthesis, and in it neither a comment ends nor the name of a class. -/
structure Closing (tail : List Char) : Prop where
  head : ∀ c ∈ tail.head?, c = ')'
  noBreak : '\n' ∉ tail
  noColon : ':' ∉ tail

/-- `cs'` is the text `cs` with `tail` after it, or a comment at the end of `cs` has taken `tail`
in. -/
def GoesOn (tail cs cs' : List Char) : Prop := cs' = cs ++ tail ∨ cs' = cs

/-- What `read` reads from the beginning of a text, it also reads when `tail` follows the text. -/
def ReadsOn {α : Type} (tail : List Char) (read : List Char → Option (α × List Char)) : Prop :=
  ∀ cs x rest, read cs = some (x, rest) →
    ∃ rest', read (cs ++ tail) = some (x, rest') ∧ GoesOn tail rest rest'

theorem ReadsOn.of_goesOn {α : Type} {tail cs cs' rest : List Char} {x : α}
    {read : List Char → Option (α × List Char)} (hread : ReadsOn tail read)
    (h : GoesOn tail cs cs') (hx : read cs = some (x, rest)) :
    ∃ rest', read cs' = some (x, rest') ∧ GoesOn tail rest rest' := by
  rcases h with rfl | rfl
  · exact hread cs x rest hx
  · exact ⟨rest, hx, .inr rfl⟩

variable {tail : List Char} (hz : Closing tail)

namespace Closing

include hz

theorem eq_nil_or_cons : tail = [] ∨ ∃ more, tail = ')' :: more := by
  cases tail with
  | nil => exact .inl rfl
  | cons c more => exact .inr ⟨more, by rw [hz.head c rfl]⟩

/-- A closing text begins nothing else. -/
theorem append_ne_cons {d : Char} (hd : d ≠ ')') {cs : List Char} (h : ∀ more, cs ≠ d :: more)
    (more : List Char) : cs ++ tail ≠ d :: more := by
  cases cs with
  | nil =>
    rcases hz.eq_nil_or_cons with rfl | ⟨more', rfl⟩
    · simp
    · rintro heq
      exact hd (List.cons.inj heq).1.symm
  | cons c cs =>
    intro heq
    obtain ⟨rfl, -⟩ := List.cons.inj heq
    exact h cs rfl

theorem dropWhile_append {p : Char → Bool} (hp : p ')' = false) (cs : List Char) :
    (cs ++ tail).dropWhile p = cs.dropWhile p ++ tail := by
  induction cs with
  | nil =>
    rcases hz.eq_nil_or_cons with rfl | ⟨more, rfl⟩
    · rfl
    · simp [hp]
  | cons c cs ih =>
    by_cases hc : p c
    · simp [hc, ih]
    · simp [hc]

end Closing

namespace Flags

theorem dropBlanks_comment {cs : List Char} (h : '\n' ∉ cs) : dropBlanks true cs = [] := by
  induction cs with
  | nil => rfl
  | cons c cs ih =>
    obtain ⟨hc, hcs⟩ := List.ne_and_not_mem_of_not_mem_cons h
    rw [dropBlanks, show (c != '\n') = true from bne_iff_ne.mpr (Ne.symm hc)]
    exact ih hcs

include hz

theorem dropBlanks_goesOn (comment : Bool) (cs : List Char) :
    GoesOn tail (dropBlanks comment cs) (dropBlanks comment (cs ++ tail)) := by
  induction cs generalizing comment with
  | nil =>
    cases comment with
    | true => exact .inr (dropBlanks_comment hz.noBreak)
    | false =>
      rcases hz.eq_nil_or_cons with rfl | ⟨more, rfl⟩
      · exact .inl rfl
      · exact .inl rfl
  | cons c cs ih =>
    cases comment with
    | true => exact ih _
    | false =>
      simp only [List.cons_append, dropBlanks]
      split
      · exact ih false
      · split
        · exact ih true
        · exact .inl rfl

theorem skip_goesOn (f : Flags) (cs : List Char) :
    GoesOn tail (f.skip cs) (f.skip (cs ++ tail)) := by
  unfold skip
  split
  · exact dropBlanks_goesOn hz false cs
  · exact .inl rfl

theorem goesOn_skip (f : Flags) {cs cs' : List Char} (h : GoesOn tail cs cs') :
    GoesOn tail (f.skip cs) (f.skip cs') := by
  rcases h with rfl | rfl
  · exact f.skip_goesOn hz cs
  · exact .inr rfl

omit hz

theorem untilBrace_append {f : Flags} {comment : Bool} {cs taken name rest : List Char}
    (h : f.untilBrace comment cs taken = some (name, rest)) (tail : List Char) :
    f.untilBrace comment (cs ++ tail) taken = some (name, rest ++ tail) := by
  induction cs generalizing comment taken with
  | nil => simp [untilBrace] at h
  | cons c cs ih =>
    cases comment with
    | true => exact ih h
    | false =>
      simp only [List.cons_append, untilBrace] at h ⊢
      split at h
      · next hc =>
        obtain ⟨rfl, rfl⟩ := Prod.mk.inj (Option.some.inj h)
        rw [if_pos hc]
      · next hc =>
        rw [if_neg hc]
        split at h
        · next hb => rw [if_pos hb, ih h]
        · next hb =>
          rw [if_neg hb]
          split at h
          · next hh => rw [if_pos hh, ih h]
          · next hh => rw [if_neg hh, ih h]

/-- The letters of flags end in the text that they begin in. -/
theorem read?_append {cs rest : List Char} {changes changes' : List (Flag × Bool)}
    {negated dangling : Bool} {last : Char}
    (h : read? cs changes negated dangling = some (changes', last, rest)) (tail : List Char) :
    read? (cs ++ tail) changes negated dangling = some (changes', last, rest ++ tail) := by
  induction cs generalizing changes negated dangling with
  | nil => simp [read?] at h
  | cons c cs ih =>
    simp only [List.cons_append, read?] at h ⊢
    split at h
    · next hc =>
      rw [if_pos hc]
      split at h
      · cases h
      · next hd =>
        simp only [Option.some.injEq, Prod.mk.injEq] at h
        obtain ⟨rfl, rfl, rfl⟩ := h
        rw [if_neg hd]
    · next hc =>
      rw [if_neg hc]
      split at h
      · next hm =>
        rw [if_pos hm]
        split at h
        · cases h
        · next hn => rw [if_neg hn, ih h]
      · next hm =>
        rw [if_neg hm]
        split at h
        · cases h
        · split at h
          · cases h
          · next hany => rw [if_neg hany, ih h]

end Flags

namespace Atom

include hz

theorem readHex?_readsOn (f : Flags) (n value : Nat) : ReadsOn tail (readHex? f n value) := by
  induction n generalizing value with
  | zero =>
    intro cs x rest h
    obtain ⟨rfl, rfl⟩ := Prod.mk.inj (Option.some.inj h)
    exact ⟨_, rfl, .inl rfl⟩
  | succ n ih =>
    intro cs x rest h
    cases cs with
    | nil => cases h
    | cons c cs =>
      simp only [List.cons_append, readHex?] at h ⊢
      split at h
      · exact (ih _).of_goesOn (f.skip_goesOn hz cs) h
      · cases h

theorem readCode?_readsOn (f : Flags) (width : Nat) : ReadsOn tail (readCode? f width) := by
  intro cs a rest h
  unfold readCode? at h ⊢
  rcases f.skip_goesOn hz cs with hskip | hskip
  · rw [hskip]
    split at h
    · next more heq =>
      simp only [Option.bind_eq_bind, Option.bind_eq_some_iff] at h
      obtain ⟨⟨digits, rest₀⟩, hdigits, n, hn, c, hc, hpure⟩ := h
      obtain ⟨rfl, rfl⟩ := Prod.mk.inj (Option.some.inj hpure)
      rw [heq]
      simp only [List.cons_append, Flags.untilBrace_append hdigits tail, Option.bind_eq_bind,
        Option.bind_some, hn, hc]
      exact ⟨_, rfl, f.skip_goesOn hz rest₀⟩
    · next hne =>
      simp only [Option.bind_eq_bind, Option.bind_eq_some_iff] at h
      obtain ⟨⟨n, rest₀⟩, hhex, c, hc, hpure⟩ := h
      obtain ⟨rfl, rfl⟩ := Prod.mk.inj (Option.some.inj hpure)
      obtain ⟨rest', hhex', hgo⟩ := readHex?_readsOn hz f width 0 _ _ _ hhex
      split
      · next more heq => exact absurd heq (hz.append_ne_cons (by decide) hne more)
      · simp only [hhex', Option.bind_eq_bind, Option.bind_some, hc]
        exact ⟨_, rfl, hgo⟩
  · rw [hskip]
    exact ⟨rest, h, .inr rfl⟩

theorem readPropertySet?_goesOn {f : Flags} {cs rest : List Char} {s : CharSet} {negated : Bool}
    (h : readPropertySet? f cs = some (s, negated, rest)) :
    ∃ rest', readPropertySet? f (cs ++ tail) = some (s, negated, rest') ∧
      GoesOn tail rest rest' := by
  unfold readPropertySet? at h ⊢
  rcases f.skip_goesOn hz cs with hskip | hskip
  · rw [hskip]
    split at h
    · cases h
    · next more heq =>
      simp only [Option.bind_eq_bind, Option.bind_eq_some_iff] at h
      obtain ⟨⟨name, rest₀⟩, hname, ⟨s', negated'⟩, hs, hpure⟩ := h
      obtain ⟨rfl, rfl, rfl⟩ := by simpa using hpure
      rw [heq]
      simp only [List.cons_append, Flags.untilBrace_append hname tail, Option.bind_eq_bind,
        Option.bind_some, hs]
      exact ⟨_, rfl, .inl rfl⟩
    · next c more hne heq =>
      rw [heq, List.cons_append]
      split at h
      · cases h
      · next hc =>
        obtain ⟨s', hs, hpure⟩ := Option.map_eq_some_iff.mp h
        obtain ⟨rfl, rfl, rfl⟩ := by simpa using hpure
        simp only [if_neg hc, hs, Option.map_some]
        exact ⟨_, rfl, .inl rfl⟩
  · rw [hskip]
    exact ⟨rest, h, .inr rfl⟩

theorem readProperty?_readsOn (f : Flags) (negated : Bool) :
    ReadsOn tail (readProperty? f negated) := by
  intro cs a rest h
  unfold readProperty? at h ⊢
  split at h
  · next hall =>
    obtain ⟨⟨s, negated', rest₀⟩, hs, hpure⟩ := Option.map_eq_some_iff.mp h
    obtain ⟨rfl, rfl⟩ := Prod.mk.inj hpure
    obtain ⟨rest', hs', hgo⟩ := readPropertySet?_goesOn hz hs
    simp only [if_pos hall, hs', Option.map_some]
    exact ⟨rest', rfl, hgo⟩
  · cases h

theorem readEdge?_readsOn (f : Flags) : ReadsOn tail (readEdge? f) := by
  intro cs edge rest h
  unfold readEdge? at h ⊢
  split at h
  · next more =>
    simp only [List.cons_append]
    split at h
    · cases h
    · next c more' hskip =>
      have hgo : GoesOn tail (c :: more') (f.skip (more ++ tail)) := hskip ▸ f.skip_goesOn hz more
      split at h
      · next hc =>
        simp only [Option.bind_eq_bind, Option.bind_eq_some_iff] at h
        obtain ⟨⟨name, after⟩, hname, edge', hedge, hpure⟩ := h
        obtain ⟨rfl, rfl⟩ := Prod.mk.inj (Option.some.inj hpure)
        rcases hgo with hgo | hgo
        · simp only [hgo, List.cons_append, if_pos hc, Option.bind_eq_bind]
          rw [← List.cons_append, Flags.untilBrace_append hname tail]
          simp only [Option.bind_some, hedge]
          exact ⟨_, rfl, .inl rfl⟩
        · simp only [hgo, if_pos hc, Option.bind_eq_bind, hname, Option.bind_some, hedge]
          exact ⟨_, rfl, .inr rfl⟩
      · next hc =>
        obtain ⟨rfl, rfl⟩ := Prod.mk.inj (Option.some.inj h)
        refine ⟨'\x7b' :: (more ++ tail), ?_, .inl rfl⟩
        rcases hgo with hgo | hgo
        · simp only [hgo, List.cons_append, if_neg hc]
        · simp only [hgo, if_neg hc]
  · next hne =>
    obtain ⟨rfl, rfl⟩ := Prod.mk.inj (Option.some.inj h)
    refine ⟨cs ++ tail, ?_, .inl rfl⟩
    split
    · next more heq => exact absurd heq (hz.append_ne_cons (by decide) hne more)
    · rfl

theorem readEscape?_readsOn (f : Flags) : ReadsOn tail (readEscape? f) := by
  intro cs a rest h
  cases cs with
  | nil => cases h
  | cons c cs =>
    simp only [List.cons_append, readEscape?] at h ⊢
    split at h
    case h_1 | h_2 | h_3 => exact readCode?_readsOn hz f _ cs a rest h
    case h_4 | h_5 => exact readProperty?_readsOn hz f _ cs a rest h
    case h_8 =>
      simp only [Option.bind_eq_bind, Option.bind_eq_some_iff] at h
      obtain ⟨⟨edge, rest₀⟩, hedge, hpure⟩ := h
      obtain ⟨rfl, rfl⟩ := Prod.mk.inj (Option.some.inj hpure)
      obtain ⟨rest', hedge', hgo⟩ := readEdge?_readsOn hz f cs edge rest₀ hedge
      simp only [hedge', Option.bind_eq_bind, Option.bind_some]
      exact ⟨rest', rfl, hgo⟩
    case h_12 =>
      split at h
      · next hc =>
        obtain ⟨rfl, rfl⟩ := Prod.mk.inj (Option.some.inj h)
        exact ⟨_, by rw [if_pos hc], .inl rfl⟩
      · next hc =>
        rw [if_neg hc]
        split at h
        · obtain ⟨rfl, rfl⟩ := Prod.mk.inj (Option.some.inj h)
          exact ⟨_, rfl, .inl rfl⟩
        · obtain ⟨a', ha, hpure⟩ := Option.map_eq_some_iff.mp h
          obtain ⟨rfl, rfl⟩ := Prod.mk.inj hpure
          exact ⟨_, by rw [ha]; rfl, .inl rfl⟩
    all_goals
      obtain ⟨rfl, rfl⟩ := Prod.mk.inj (Option.some.inj h)
      exact ⟨_, rfl, .inl rfl⟩

end Atom

/-! ## Bounds and names -/

theorem Flags.length_dropBlanks_le (comment : Bool) (cs : List Char) :
    (dropBlanks comment cs).length ≤ cs.length := by
  induction cs generalizing comment with
  | nil => cases comment <;> exact Nat.le_refl _
  | cons c cs ih =>
    cases comment with
    | true => exact Nat.le_succ_of_le (ih _)
    | false =>
      simp only [dropBlanks]
      split
      · exact Nat.le_succ_of_le (ih false)
      · split
        · exact Nat.le_succ_of_le (ih true)
        · exact Nat.le_refl _

theorem Flags.length_skip_le (f : Flags) (cs : List Char) : (f.skip cs).length ≤ cs.length := by
  unfold skip
  split
  · exact length_dropBlanks_le false cs
  · exact Nat.le_refl _

/-- More fuel than there are characters makes no difference. -/
theorem readDigits_fuel {f : Flags} {fuel fuel' : Nat} {cs : List Char} (h : cs.length ≤ fuel)
    (h' : fuel ≤ fuel') (digits : List Char) :
    readDigits f fuel' cs digits = readDigits f fuel cs digits := by
  induction fuel generalizing fuel' cs digits with
  | zero =>
    obtain rfl := List.length_eq_zero_iff.mp (Nat.le_zero.mp h)
    cases fuel' <;> rfl
  | succ fuel ih =>
    obtain ⟨fuel', rfl⟩ := Nat.exists_eq_add_of_lt (Nat.lt_of_lt_of_le (Nat.succ_pos _) h')
    cases cs with
    | nil => rw [Nat.zero_add]; rfl
    | cons c cs =>
      have hskip := f.length_skip_le cs
      simp only [List.length_cons] at h
      simp only [Nat.zero_add, readDigits]
      split
      · exact ih (by omega) (by omega) _
      · rfl

include hz

theorem readDigits_goesOn {f : Flags} {fuel : Nat} {cs : List Char}
    (h : (cs ++ tail).length ≤ fuel) (digits : List Char) :
    (readDigits f fuel (cs ++ tail) digits).1 = (readDigits f fuel cs digits).1 ∧
      GoesOn tail (readDigits f fuel cs digits).2 (readDigits f fuel (cs ++ tail) digits).2 := by
  induction fuel generalizing cs digits with
  | zero => exact ⟨rfl, .inl rfl⟩
  | succ fuel ih =>
    cases cs with
    | nil =>
      rcases hz.eq_nil_or_cons with rfl | ⟨more, rfl⟩
      · exact ⟨rfl, .inl rfl⟩
      · exact ⟨rfl, .inl rfl⟩
    | cons c cs =>
      simp only [List.cons_append, readDigits, List.length_cons] at h ⊢
      split
      · rcases f.skip_goesOn hz cs with hskip | hskip
        · have hlen := f.length_skip_le (cs ++ tail)
          rw [hskip] at hlen ⊢
          exact ih (by omega) _
        · rw [hskip]
          exact ⟨rfl, .inr rfl⟩
      · exact ⟨rfl, .inl rfl⟩

theorem readCount?_readsOn (f : Flags) : ReadsOn tail (readCount? f) := by
  intro cs n rest h
  have hdrop : (cs.dropWhile isWhiteSpace).length ≤ cs.length :=
    (List.dropWhile_sublist _).length_le
  have hws : (cs ++ tail).dropWhile isWhiteSpace = cs.dropWhile isWhiteSpace ++ tail :=
    hz.dropWhile_append (by decide) cs
  have hlen : (cs.dropWhile isWhiteSpace ++ tail).length ≤ (cs ++ tail).length := by
    simp only [List.length_append]
    omega
  obtain ⟨hdigits, hgo⟩ := readDigits_goesOn hz (f := f) hlen []
  rw [readDigits_fuel hdrop (by simp only [List.length_append]; omega)] at hdigits hgo
  unfold readCount? at h ⊢
  simp only at h ⊢
  rw [hws, hdigits]
  split at h
  · cases h
  · next hcond =>
    rw [if_neg hcond]
    obtain ⟨rfl, rfl⟩ := Prod.mk.inj (Option.some.inj h)
    refine ⟨_, rfl, ?_⟩
    rcases hgo with hgo | hgo
    · rw [hgo, hz.dropWhile_append (by decide)]
      exact .inl rfl
    · rw [hgo]
      exact .inr rfl

theorem readBounds?_goesOn {f : Flags} {cs rest : List Char} {min : Nat} {max : Option Nat}
    (h : readBounds? f cs = some (min, max, rest)) :
    ∃ rest', readBounds? f (cs ++ tail) = some (min, max, rest') ∧ GoesOn tail rest rest' := by
  unfold readBounds? at h ⊢
  simp only [Option.bind_eq_bind, Option.bind_eq_some_iff] at h
  obtain ⟨⟨min', rest₁⟩, hmin, h⟩ := h
  obtain ⟨rest₁', hmin', hgo⟩ := (readCount?_readsOn hz f).of_goesOn (f.skip_goesOn hz cs) hmin
  simp only [Option.bind_eq_bind, hmin', Option.bind_some]
  rcases hgo with rfl | rfl
  · split at h
    · next rest₂ heq =>
      obtain ⟨rfl, rfl, rfl⟩ := by simpa using h
      obtain rfl : rest₁ = '\x7d' :: rest₂ := heq
      exact ⟨_, rfl, .inl rfl⟩
    · next rest₂ heq =>
      obtain rfl : rest₁ = ',' :: rest₂ := heq
      simp only [List.cons_append]
      rcases f.skip_goesOn hz rest₂ with hskip | hskip
      · rw [hskip]
        split at h
        · next rest₃ heq =>
          obtain ⟨rfl, rfl, rfl⟩ := by simpa using h
          exact ⟨_, by rw [heq]; rfl, .inl rfl⟩
        · next hne =>
          simp only [Option.bind_eq_some_iff] at h
          obtain ⟨⟨max', rest₃⟩, hmax, h⟩ := h
          obtain ⟨rest₃', hmax', hgo⟩ := readCount?_readsOn hz f _ _ _ hmax
          split
          · next more heq =>
            exact absurd heq (hz.append_ne_cons (by decide) hne more)
          · simp only [hmax', Option.bind_some]
            rcases hgo with rfl | rfl
            · split at h
              · next rest₄ heq =>
                obtain rfl : rest₃ = '\x7d' :: rest₄ := heq
                split at h
                · next hle =>
                  obtain ⟨rfl, rfl, rfl⟩ := by simpa using h
                  exact ⟨_, by simp only [List.cons_append, if_pos hle]; rfl, .inl rfl⟩
                · cases h
              · cases h
            · exact ⟨rest, h, .inr rfl⟩
      · rw [hskip]
        exact ⟨rest, h, .inr rfl⟩
    · cases h
  · exact ⟨rest, h, .inr rfl⟩

theorem readLazy_goesOn {cs cs' : List Char} (h : GoesOn tail cs cs') :
    (readLazy cs').1 = (readLazy cs).1 ∧ GoesOn tail (readLazy cs).2 (readLazy cs').2 := by
  rcases h with rfl | rfl
  · unfold readLazy
    split
    · next more heq =>
      split
      · next more' => simp_all [GoesOn]
      · next hne => exact absurd heq (hz.append_ne_cons (by decide) hne more)
    · next hne =>
      split
      · next more => exact absurd rfl (hne (more ++ tail))
      · exact ⟨rfl, .inl rfl⟩
  · exact ⟨rfl, .inr rfl⟩

omit hz

/-- The characters before the first that is none of `p`, if there is one, are the same in a longer
text. -/
theorem takeWhile_append_of_dropWhile {p : Char → Bool} {cs rest : List Char} {d : Char}
    (h : cs.dropWhile p = d :: rest) (tail : List Char) :
    (cs ++ tail).takeWhile p = cs.takeWhile p ∧ (cs ++ tail).dropWhile p = d :: rest ++ tail := by
  induction cs with
  | nil => cases h
  | cons c cs ih =>
    by_cases hc : p c
    · rw [List.dropWhile_cons_of_pos hc] at h
      obtain ⟨htake, hdrop⟩ := ih h
      rw [List.cons_append, List.takeWhile_cons_of_pos hc, List.takeWhile_cons_of_pos hc,
        List.dropWhile_cons_of_pos hc, htake]
      exact ⟨rfl, hdrop⟩
    · rw [List.dropWhile_cons_of_neg hc] at h
      rw [List.cons_append, List.takeWhile_cons_of_neg hc, List.takeWhile_cons_of_neg hc,
        List.dropWhile_cons_of_neg hc, ← List.cons_append, h]
      exact ⟨rfl, rfl⟩

theorem readName?_append {cs name rest : List Char} (h : readName? cs = some (name, rest))
    (tail : List Char) : readName? (cs ++ tail) = some (name, rest ++ tail) := by
  unfold readName? at h ⊢
  simp only at h ⊢
  split at h
  · next c more d rest₀ hname hrest =>
    obtain ⟨htake, hdrop⟩ := takeWhile_append_of_dropWhile hrest tail
    rw [htake, hdrop, hname]
    split at h
    · next hall =>
      obtain ⟨rfl, rfl⟩ := Prod.mk.inj (Option.some.inj h)
      simp only [List.cons_append, if_pos hall, hname]
    · cases h
  · cases h

end SearchQuery.Pattern
