import SearchQuery.Proofs.Consumption

/-!
# Parts of a pattern without the parenthesis behind them

What is read from a text with a closing parenthesis behind it is also read from the text alone,
unless the parenthesis is taken (`ReadsBack`).

* `Flags.untilBrace_back`, `Flags.read?_back`, `readBounds?_back`, `readName?_back`: braces, flags,
  bounds and names end before the parenthesis, or the flags with it.
* `Atom.readEscape?_back`: what follows a backslash. After `\b` there may be a brace that is left
  alone only because of the parenthesis; nothing can go on there.
* `Bracket.read?_back`: inside brackets the parenthesis stands for itself, and then the brackets
  are never closed.
-/

namespace SearchQuery.Pattern

open Text

theorem closing_nil : Closing [] where
  head := by simp
  noBreak := by simp
  noColon := by simp

theorem closing_paren : Closing [')'] where
  head := by simp
  noBreak := by decide
  noColon := by decide

/-- What `read` reads from a text with a closing parenthesis behind it, it also reads from the text
alone, unless it takes the parenthesis. -/
def ReadsBack {α : Type} (read : List Char → Option (α × List Char)) : Prop :=
  ∀ cs x rest', read (cs ++ [')']) = some (x, rest') →
    rest' = [] ∨ ∃ rest, read cs = some (x, rest) ∧ GoesOn [')'] rest rest'

theorem ReadsBack.of_goesOn {α : Type} {cs cs' rest' : List Char} {x : α}
    {read : List Char → Option (α × List Char)} (hread : ReadsBack read)
    (h : GoesOn [')'] cs cs') (hx : read cs' = some (x, rest')) :
    rest' = [] ∨ ∃ rest, read cs = some (x, rest) ∧ GoesOn [')'] rest rest' := by
  rcases h with rfl | rfl
  · exact hread cs x rest' hx
  · exact .inr ⟨rest', hx, .inr rfl⟩

/-- What begins with another character begins with it without the parenthesis. -/
theorem exists_of_append_eq_cons {c : Char} (hc : c ≠ ')') {cs more' : List Char}
    (h : cs ++ [')'] = c :: more') : ∃ more, cs = c :: more ∧ more' = more ++ [')'] := by
  cases cs with
  | nil => exact absurd (List.cons.inj h).1.symm hc
  | cons d cs =>
    obtain ⟨rfl, rfl⟩ := List.cons.inj h
    exact ⟨cs, rfl, rfl⟩

theorem GoesOn.exists_cons {c : Char} (hc : c ≠ ')') {cs more' : List Char}
    (h : GoesOn [')'] cs (c :: more')) : ∃ more, cs = c :: more ∧ GoesOn [')'] more more' := by
  rcases h with h | rfl
  · obtain ⟨more, rfl, rfl⟩ := exists_of_append_eq_cons hc h.symm
    exact ⟨more, rfl, .inl rfl⟩
  · exact ⟨more', rfl, .inr rfl⟩

theorem GoesOn.of_cons {tail more more' : List Char} {c d : Char}
    (h : GoesOn tail (d :: more) (c :: more')) : d = c ∧ GoesOn tail more more' := by
  rcases h with h | h
  · obtain ⟨rfl, rfl⟩ := List.cons.inj h
    exact ⟨rfl, .inl rfl⟩
  · obtain ⟨rfl, rfl⟩ := List.cons.inj h
    exact ⟨rfl, .inr rfl⟩

namespace Flags

theorem untilBrace_back {f : Flags} {comment : Bool} {cs taken name rest' : List Char}
    (h : f.untilBrace comment (cs ++ [')']) taken = some (name, rest')) :
    ∃ rest, f.untilBrace comment cs taken = some (name, rest) ∧ rest' = rest ++ [')'] := by
  induction cs generalizing comment taken with
  | nil =>
    cases comment <;> simp [untilBrace, not_isWhiteSpace_paren] at h
  | cons c cs ih =>
    cases comment with
    | true => exact ih h
    | false =>
      simp only [List.cons_append, untilBrace] at h ⊢
      split at h
      · next hc =>
        obtain ⟨rfl, rfl⟩ := Prod.mk.inj (Option.some.inj h)
        exact ⟨cs, by rw [if_pos hc], rfl⟩
      · next hc =>
        rw [if_neg hc]
        split at h
        · next hb => rw [if_pos hb]; exact ih h
        · next hb =>
          rw [if_neg hb]
          split at h
          · next hh => rw [if_pos hh]; exact ih h
          · next hh => rw [if_neg hh]; exact ih h

theorem read?_back {cs rest' : List Char} {changes changes' : List (Flag × Bool)}
    {negated dangling : Bool} {last : Char}
    (h : read? (cs ++ [')']) changes negated dangling = some (changes', last, rest')) :
    rest' = [] ∨ ∃ rest, read? cs changes negated dangling = some (changes', last, rest) ∧
      rest' = rest ++ [')'] := by
  induction cs generalizing changes negated dangling with
  | nil =>
    simp only [List.nil_append, read?] at h
    split at h
    · split at h
      · cases h
      · simp only [Option.some.injEq, Prod.mk.injEq] at h
        exact .inl h.2.2.symm
    · simp at *
  | cons c cs ih =>
    simp only [List.cons_append, read?] at h ⊢
    split at h
    · next hc =>
      rw [if_pos hc]
      split at h
      · cases h
      · next hd =>
        simp only [Option.some.injEq, Prod.mk.injEq] at h
        obtain ⟨rfl, rfl, rfl⟩ := h
        exact .inr ⟨cs, by rw [if_neg hd], rfl⟩
    · next hc =>
      rw [if_neg hc]
      split at h
      · next hm =>
        rw [if_pos hm]
        split at h
        · cases h
        · next hn => rw [if_neg hn]; exact ih h
      · next hm =>
        rw [if_neg hm]
        split at h
        · cases h
        · split at h
          · cases h
          · next hany => rw [if_neg hany]; exact ih h

end Flags

namespace Atom

theorem readHex?_back (f : Flags) (n value : Nat) : ReadsBack (readHex? f n value) := by
  induction n generalizing value with
  | zero =>
    intro cs x rest' h
    obtain ⟨rfl, rfl⟩ := Prod.mk.inj (Option.some.inj h)
    exact .inr ⟨cs, rfl, .inl rfl⟩
  | succ n ih =>
    intro cs x rest' h
    cases cs with
    | nil => cases h
    | cons c cs =>
      simp only [List.cons_append, readHex?] at h ⊢
      split at h
      · exact (ih _).of_goesOn (f.skip_goesOn closing_paren cs) h
      · cases h

theorem readCode?_back (f : Flags) (width : Nat) : ReadsBack (readCode? f width) := by
  intro cs a rest' h
  unfold readCode? at h ⊢
  rcases f.skip_goesOn closing_paren cs with hskip | hskip
  · rw [hskip] at h
    generalize f.skip cs = ds at h
    split at h
    · next more' heq =>
      obtain ⟨more, rfl, rfl⟩ := exists_of_append_eq_cons (by decide) heq
      simp only [Option.bind_eq_bind, Option.bind_eq_some_iff] at h
      obtain ⟨⟨digits, rest₀'⟩, hdigits, n, hn, c, hc, hpure⟩ := h
      obtain ⟨rfl, rfl⟩ := Prod.mk.inj (Option.some.inj hpure)
      obtain ⟨rest₀, hdigits', rfl⟩ := Flags.untilBrace_back hdigits
      refine .inr ⟨f.skip rest₀, ?_, f.skip_goesOn closing_paren rest₀⟩
      simp only [hdigits', Option.bind_eq_bind, Option.bind_some, hn, hc]
      rfl
    · next hne =>
      simp only [Option.bind_eq_bind, Option.bind_eq_some_iff] at h
      obtain ⟨⟨n, rest₀'⟩, hhex, c, hc, hpure⟩ := h
      obtain ⟨rfl, rfl⟩ := Prod.mk.inj (Option.some.inj hpure)
      rcases readHex?_back f width 0 _ _ _ hhex with hnil | ⟨rest, hhex, hgo⟩
      · exact .inl hnil
      · refine .inr ⟨rest, ?_, hgo⟩
        split
        · exact (hne _ (List.cons_append ..)).elim
        · simp only [hhex, Option.bind_eq_bind, Option.bind_some, hc]
          rfl
  · rw [hskip] at h
    exact .inr ⟨rest', h, .inr rfl⟩

theorem readPropertySet?_back {f : Flags} {cs rest' : List Char} {s : CharSet} {negated : Bool}
    (h : readPropertySet? f (cs ++ [')']) = some (s, negated, rest')) :
    rest' = [] ∨ ∃ rest, readPropertySet? f cs = some (s, negated, rest) ∧
      GoesOn [')'] rest rest' := by
  unfold readPropertySet? at h ⊢
  rcases f.skip_goesOn closing_paren cs with hskip | hskip
  · rw [hskip] at h
    generalize f.skip cs = ds at h
    split at h
    · cases h
    · next more' heq =>
      obtain ⟨more, rfl, rfl⟩ := exists_of_append_eq_cons (by decide) heq
      simp only [Option.bind_eq_bind, Option.bind_eq_some_iff] at h
      obtain ⟨⟨name, rest₀'⟩, hname, ⟨s', negated'⟩, hs, hpure⟩ := h
      obtain ⟨rfl, rfl, rfl⟩ := by simpa using hpure
      obtain ⟨rest₀, hname', rfl⟩ := Flags.untilBrace_back hname
      refine .inr ⟨rest₀, ?_, .inl rfl⟩
      simp only [hname', Option.bind_eq_bind, Option.bind_some, hs]
      rfl
    · next c more' hne heq =>
      split at h
      · cases h
      · next hc =>
        obtain ⟨s', hs, hpure⟩ := Option.map_eq_some_iff.mp h
        obtain ⟨rfl, rfl, rfl⟩ := by simpa using hpure
        cases ds with
        | nil => exact .inl (List.cons.inj heq).2.symm
        | cons d ds =>
          obtain ⟨rfl, rfl⟩ := List.cons.inj heq
          refine .inr ⟨ds, ?_, .inl rfl⟩
          split
          · next heq => cases heq
          · next more heq => exact (hne (List.cons.inj heq).1).elim
          · next heq =>
            obtain ⟨rfl, rfl⟩ := List.cons.inj heq
            rw [if_neg hc, hs]
            rfl
  · rw [hskip] at h
    exact .inr ⟨rest', h, .inr rfl⟩

theorem readProperty?_back (f : Flags) (negated : Bool) : ReadsBack (readProperty? f negated) := by
  intro cs a rest' h
  unfold readProperty? at h ⊢
  split at h
  · next hall =>
    obtain ⟨⟨s, negated', rest₀'⟩, hs, hpure⟩ := Option.map_eq_some_iff.mp h
    obtain ⟨rfl, rfl⟩ := Prod.mk.inj hpure
    rcases readPropertySet?_back hs with hnil | ⟨rest, hs, hgo⟩
    · exact .inl hnil
    · exact .inr ⟨rest, by rw [if_pos hall, hs]; rfl, hgo⟩
  · cases h

/-- A brace behind `\b` may be left alone only because the parenthesis follows. -/
theorem readEdge?_back {f : Flags} {cs rest' : List Char} {edge : WordEdge}
    (h : readEdge? f (cs ++ [')']) = some (edge, rest')) :
    (∃ rest, readEdge? f cs = some (edge, rest) ∧ GoesOn [')'] rest rest') ∨
      ∃ more, rest' = '\x7b' :: more ∧ f.skip more = [')'] := by
  cases cs with
  | nil =>
    obtain ⟨rfl, rfl⟩ := Prod.mk.inj (Option.some.inj h)
    exact .inl ⟨[], rfl, .inl rfl⟩
  | cons c cs =>
    by_cases hc : c = '\x7b'
    · subst hc
      simp only [List.cons_append, readEdge?] at h ⊢
      rcases f.skip_goesOn closing_paren cs with hskip | hskip
      · rw [hskip] at h
        cases hds : f.skip cs with
        | nil =>
          rw [hds] at h hskip
          obtain ⟨rfl, rfl⟩ := Prod.mk.inj (Option.some.inj h)
          exact .inr ⟨cs ++ [')'], rfl, hskip⟩
        | cons d ds =>
          rw [hds, List.cons_append] at h
          simp only at h ⊢
          split at h
          · next hd =>
            simp only [Option.bind_eq_bind, Option.bind_eq_some_iff] at h
            obtain ⟨⟨name, after⟩, hname, edge', hedge, hpure⟩ := h
            obtain ⟨rfl, rfl⟩ := Prod.mk.inj (Option.some.inj hpure)
            rw [← List.cons_append] at hname
            obtain ⟨after', hname', rfl⟩ := Flags.untilBrace_back hname
            refine .inl ⟨after', ?_, .inl rfl⟩
            simp only [if_pos hd, hname', Option.bind_eq_bind, Option.bind_some, hedge]
            rfl
          · next hd =>
            obtain ⟨rfl, rfl⟩ := Prod.mk.inj (Option.some.inj h)
            exact .inl ⟨'\x7b' :: cs, by rw [if_neg hd], .inl rfl⟩
      · rw [hskip] at h
        left
        split at h
        · cases h
        · next d ds heq =>
          split at h
          · next hd => exact ⟨rest', by simpa [hd] using h, .inr rfl⟩
          · next hd =>
            obtain ⟨rfl, rfl⟩ := Prod.mk.inj (Option.some.inj h)
            exact ⟨'\x7b' :: cs, by simp [hd], .inl rfl⟩
    · have hne (more : List Char) : c :: cs ≠ '\x7b' :: more := fun heq => hc (List.cons.inj heq).1
      rw [List.cons_append, readEdge?] at h
      · obtain ⟨rfl, rfl⟩ := Prod.mk.inj (Option.some.inj h)
        refine .inl ⟨c :: cs, ?_, .inl rfl⟩
        rw [readEdge?]
        exact hne
      · exact fun more heq => hc (List.cons.inj heq).1

/-- The same of what is read after a backslash. -/
theorem readEscape?_back {f : Flags} {cs rest' : List Char} {a : Atom}
    (h : readEscape? f (cs ++ [')']) = some (a, rest')) :
    rest' = [] ∨ (∃ rest, readEscape? f cs = some (a, rest) ∧ GoesOn [')'] rest rest') ∨
      ∃ edge more, a = .anchor edge ∧ rest' = '\x7b' :: more ∧ f.skip more = [')'] := by
  cases cs with
  | nil =>
    obtain ⟨rfl, rfl⟩ := Prod.mk.inj (Option.some.inj h)
    exact .inl rfl
  | cons c cs =>
    simp only [List.cons_append, readEscape?] at h ⊢
    split at h
    case h_1 | h_2 | h_3 => exact (readCode?_back f _ cs a rest' h).imp_right .inl
    case h_4 | h_5 => exact (readProperty?_back f _ cs a rest' h).imp_right .inl
    case h_8 =>
      simp only [Option.bind_eq_bind, Option.bind_eq_some_iff] at h
      obtain ⟨⟨edge, rest₀'⟩, hedge, hpure⟩ := h
      obtain ⟨rfl, rfl⟩ := Prod.mk.inj (Option.some.inj hpure)
      rcases readEdge?_back hedge with ⟨rest, hedge', hgo⟩ | ⟨more, hrest, hskip⟩
      · refine .inr (.inl ⟨rest, ?_, hgo⟩)
        simp only [hedge', Option.bind_eq_bind, Option.bind_some]
        rfl
      · exact .inr (.inr ⟨_, more, rfl, hrest, hskip⟩)
    case h_12 =>
      split at h
      · next hc =>
        obtain ⟨rfl, rfl⟩ := Prod.mk.inj (Option.some.inj h)
        exact .inr (.inl ⟨_, by rw [if_pos hc], .inl rfl⟩)
      · next hc =>
        rw [if_neg hc]
        split at h
        · obtain ⟨rfl, rfl⟩ := Prod.mk.inj (Option.some.inj h)
          exact .inr (.inl ⟨_, rfl, .inl rfl⟩)
        · obtain ⟨a', ha, hpure⟩ := Option.map_eq_some_iff.mp h
          obtain ⟨rfl, rfl⟩ := Prod.mk.inj hpure
          exact .inr (.inl ⟨_, by rw [ha]; rfl, .inl rfl⟩)
    all_goals
      obtain ⟨rfl, rfl⟩ := Prod.mk.inj (Option.some.inj h)
      exact .inr (.inl ⟨_, rfl, .inl rfl⟩)

end Atom

/-! ## Bounds and names -/

theorem readCount?_back (f : Flags) : ReadsBack (readCount? f) := by
  intro cs n rest' h
  have hdrop : (cs.dropWhile isWhiteSpace).length ≤ cs.length :=
    (List.dropWhile_sublist _).length_le
  have hlen : (cs.dropWhile isWhiteSpace ++ [')']).length ≤ (cs ++ [')']).length := by
    simpa using hdrop
  obtain ⟨hdigits, hgo⟩ := readDigits_goesOn closing_paren (f := f) hlen []
  rw [readDigits_fuel hdrop (by simp)] at hdigits hgo
  unfold readCount? at h ⊢
  simp only [closing_paren.dropWhile_append not_isWhiteSpace_paren, hdigits] at h ⊢
  split at h
  · cases h
  · next hcond =>
    obtain ⟨rfl, rfl⟩ := Prod.mk.inj (Option.some.inj h)
    refine .inr ⟨_, if_neg hcond, ?_⟩
    rcases hgo with hgo | hgo
    · rw [hgo, closing_paren.dropWhile_append not_isWhiteSpace_paren]
      exact .inl rfl
    · rw [hgo]
      exact .inr rfl

/-- Before a parenthesis there is no number. -/
theorem readCount?_paren (f : Flags) : readCount? f [')'] = none := by
  have hdigit : Char.isDigit ')' = false := by decide
  simp [readCount?, readDigits, not_isWhiteSpace_paren, hdigit]

theorem readBounds?_paren {f : Flags} {cs : List Char} (h : f.skip cs = [')']) :
    readBounds? f cs = none := by
  unfold readBounds?
  rw [h, readCount?_paren]
  rfl

theorem readBounds?_back {f : Flags} {cs rest' : List Char} {min : Nat} {max : Option Nat}
    (h : readBounds? f (cs ++ [')']) = some (min, max, rest')) :
    ∃ rest, readBounds? f cs = some (min, max, rest) ∧ GoesOn [')'] rest rest' := by
  unfold readBounds? at h ⊢
  simp only [Option.bind_eq_bind, Option.bind_eq_some_iff] at h
  obtain ⟨⟨min', rest₁'⟩, hmin, h⟩ := h
  rcases (readCount?_back f).of_goesOn (f.skip_goesOn closing_paren cs) hmin with
    hnil | ⟨rest₁, hmin', hgo₁⟩
  · simp [hnil] at h
  · simp only [hmin', Option.bind_eq_bind, Option.bind_some]
    simp only at h
    split at h
    · obtain ⟨rest₂, rfl, hgo₂⟩ := hgo₁.exists_cons (by decide)
      obtain ⟨rfl, rfl, rfl⟩ := by simpa using h
      exact ⟨rest₂, rfl, hgo₂⟩
    · obtain ⟨rest₂, rfl, hgo₂⟩ := hgo₁.exists_cons (by decide)
      have hskip := f.goesOn_skip closing_paren hgo₂
      simp only
      generalize f.skip rest₂ = rest₃ at hskip
      split at h
      · next heq =>
        obtain ⟨rest₄, rfl, hgo₄⟩ := GoesOn.exists_cons (by decide) (heq ▸ hskip)
        obtain ⟨rfl, rfl, rfl⟩ := by simpa using h
        exact ⟨rest₄, rfl, hgo₄⟩
      · next hne =>
        simp only [Option.bind_eq_some_iff] at h
        obtain ⟨⟨max', rest₄'⟩, hmax, h⟩ := h
        split
        · rcases hskip with heq | heq
          · exact (hne _ heq).elim
          · exact (hne _ heq).elim
        · rcases (readCount?_back f).of_goesOn hskip hmax with hnil | ⟨rest₄, hmax', hgo₄⟩
          · simp [hnil] at h
          · simp only [hmax', Option.bind_some]
            simp only at h
            split at h
            · obtain ⟨rest₅, rfl, hgo₅⟩ := hgo₄.exists_cons (by decide)
              split at h
              · next hle =>
                obtain ⟨rfl, rfl, rfl⟩ := by simpa using h
                exact ⟨rest₅, by simp only [if_pos hle]; rfl, hgo₅⟩
              · cases h
            · cases h
    · cases h

theorem readName?_back {cs name rest' : List Char}
    (h : readName? (cs ++ [')']) = some (name, rest')) :
    ∃ rest, readName? cs = some (name, rest) ∧ rest' = rest ++ [')'] := by
  cases hcs : cs.dropWhile (· != '>') with
  | nil =>
    have hnone : (cs ++ [')']).dropWhile (· != '>') = [] := by
      rw [List.dropWhile_eq_nil_iff] at hcs ⊢
      intro c hc
      rcases List.mem_append.mp hc with hc | hc
      · exact hcs c hc
      · rw [List.mem_singleton.mp hc]
        rfl
    unfold readName? at h
    simp [hnone] at h
  | cons d rest =>
    obtain ⟨htake, hdrop⟩ := takeWhile_append_of_dropWhile hcs [')']
    unfold readName? at h ⊢
    simp only [htake, hdrop, hcs, List.cons_append] at h ⊢
    split at h
    · next c more d' rest₀ hname heq =>
      obtain ⟨rfl, rfl⟩ := List.cons.inj heq
      split at h
      · next hall =>
        obtain ⟨rfl, rfl⟩ := Prod.mk.inj (Option.some.inj h)
        exact ⟨rest, by simp only [hname, if_pos hall], rfl⟩
      · cases h
    · cases h

/-! ## Sets in brackets -/

namespace Bracket

theorem readOpening?_back {f : Flags} {cs rest' : List Char} {level : Level}
    (h : readOpening? f (cs ++ [')']) = some (level, rest')) :
    rest' <:+ [')'] ∨ ∃ rest, readOpening? f cs = some (level, rest) ∧ GoesOn [')'] rest rest' := by
  rw [readOpening?_eq] at h ⊢
  obtain ⟨hsign, hgo⟩ := readSign_goesOn closing_paren f (f.skip_goesOn closing_paren cs)
  obtain ⟨hhyphens, hgo⟩ := allHyphens_goesOn closing_paren f hgo
  simp only [hsign, hhyphens] at h ⊢
  obtain ⟨hfirst, hgo⟩ := readFirst_goesOn closing_paren f _ hgo
  split at h
  · cases h
  · obtain ⟨rfl, rfl⟩ := Prod.mk.inj (Option.some.inj h)
    rw [hfirst]
    split
    · next hempty =>
      rw [List.isEmpty_iff.mp hempty] at hgo
      left
      rcases hgo with hgo | hgo
      · rw [hgo]
        exact List.suffix_refl _
      · rw [hgo]
        exact List.nil_suffix
    · exact .inr ⟨_, rfl, hgo⟩

/-- An escape that is read otherwise without the parenthesis is an anchor. -/
theorem readItem?_back {f : Flags} {cs rest' : List Char} {a : Atom}
    (h : readItem? f (cs ++ [')']) = some (a, rest')) :
    rest' = [] ∨ (∃ rest, readItem? f cs = some (a, rest) ∧ GoesOn [')'] rest rest') ∨
      ∃ edge, a = .anchor edge := by
  cases cs with
  | nil =>
    obtain ⟨rfl, rfl⟩ := Prod.mk.inj (Option.some.inj h)
    exact .inl rfl
  | cons c cs =>
    by_cases hc : c = '\\'
    · subst hc
      rcases Atom.readEscape?_back h with hnil | hback | ⟨edge, more, ha, -⟩
      · exact .inl hnil
      · exact .inr (.inl hback)
      · exact .inr (.inr ⟨edge, ha⟩)
    · rw [List.cons_append, readItem?] at h
      · obtain ⟨rfl, rfl⟩ := Prod.mk.inj (Option.some.inj h)
        refine .inr (.inl ⟨cs, ?_, .inl rfl⟩)
        rw [readItem?]
        exact hc
      · exact hc

/-- What is seen after the hyphen of a range is the same without the parenthesis. -/
theorem peekAfter_of_append {f : Flags} {c d : Char} {after : List Char} (hd : d = ']' ∨ d = '-')
    (h : peekAfter f (c :: after ++ [')']) = some d) : peekAfter f (c :: after) = some d := by
  have hparen : d ≠ ')' := by
    rintro rfl
    simp at hd
  by_cases hf : f.verbose
  · rw [List.cons_append, peekAfter_verbose hf, seenAfter_append closing_paren] at h
    rw [peekAfter_verbose hf]
    cases hseen : seenAfter after with
    | nil =>
      rw [hseen] at h
      exact absurd (Option.some.inj h).symm hparen
    | cons e more =>
      rw [hseen] at h
      exact h
  · simp only [peekAfter, List.cons_append, hf, Bool.false_eq_true, if_false] at h ⊢
    cases after with
    | nil => exact absurd (Option.some.inj h).symm hparen
    | cons e more => exact h

/-- The same where the parenthesis may have been taken by a comment before. -/
theorem readItem?_back_of_goesOn {f : Flags} {cs cs' rest' : List Char} {a : Atom}
    (hgo : GoesOn [')'] cs cs') (h : readItem? f cs' = some (a, rest')) :
    rest' = [] ∨ (∃ rest, readItem? f cs = some (a, rest) ∧ GoesOn [')'] rest rest') ∨
      ∃ edge, a = .anchor edge := by
  rcases hgo with rfl | rfl
  · exact readItem?_back h
  · exact .inr (.inl ⟨rest', h, .inr rfl⟩)

theorem NoRange.of_append {f : Flags} {rest : List Char} (h : NoRange f (rest ++ [')'])) :
    NoRange f rest := by
  rintro after rfl
  exact (h _ (List.cons_append ..)).imp (peekAfter_of_append (.inl rfl))
    (peekAfter_of_append (.inr rfl))

/-- **A range without the parenthesis.** No set ends where only the parenthesis is left. -/
theorem readRange?_back {f : Flags} {cs rest' : List Char} {p : Part}
    (h : readRange? f (cs ++ [')']) = some (p, rest')) :
    rest' <:+ [')'] ∨ ∃ rest, readRange? f cs = some (p, rest) ∧ GoesOn [')'] rest rest' := by
  obtain ⟨first, rest₀', hfirst, h⟩ := readRange?_eq_some.mp h
  rcases readItem?_back hfirst with rfl | ⟨rest₀, hfirst', hgo⟩ | ⟨edge, rfl⟩
  · rw [Reader.skip_of_closing closing_nil] at h
    rcases h with ⟨rfl, hne, -⟩ | ⟨after, last, heq, -⟩
    · exact absurd rfl hne
    · cases heq
  · have hskip := f.goesOn_skip closing_paren hgo
    rcases h with ⟨rfl, hne, hno, hitem⟩ | ⟨after', last, hrest, hyes, hlast, hp⟩
    · by_cases hnil : f.skip rest₀ = []
      · left
        rcases hskip with heq | heq
        · rw [heq, hnil]
          exact List.suffix_refl _
        · exact absurd (heq.trans hnil) hne
      · have hno' : NoRange f (f.skip rest₀) := by
          rcases hskip with heq | heq
          · exact (heq ▸ hno).of_append
          · exact heq ▸ hno
        exact .inr ⟨_, readRange?_eq_some.mpr ⟨first, rest₀, hfirst', .inl ⟨rfl, hnil, hno', hitem⟩⟩,
          hskip⟩
    · rw [hrest] at hskip
      obtain ⟨after, hafter, hgo'⟩ := hskip.exists_cons (by decide)
      have hyes' : ¬ NoRange f ('-' :: after) :=
        fun hno => hyes (hno.of_goesOn closing_paren (hafter ▸ hskip))
      rcases readItem?_back_of_goesOn (f.goesOn_skip closing_paren hgo') hlast with
        rfl | ⟨rest, hlast', hgo''⟩ | ⟨edge, rfl⟩
      · exact .inl List.nil_suffix
      · exact .inr ⟨rest, readRange?_eq_some.mpr ⟨first, rest₀, hfirst',
          .inr ⟨after, last, hafter, hyes', hlast', hp⟩⟩, hgo''⟩
      · cases first <;> simp [rangeTo?] at hp
  · -- An anchor is no member of a set.
    rcases h with ⟨-, -, -, s, hs, -⟩ | ⟨after, last, -, -, -, hp⟩
    · simp [itemSet?] at hs
    · simp [rangeTo?] at hp

/-- **A round without the parenthesis.** Before the parenthesis alone the brackets are not
closed. -/
theorem round?_back {f : Flags} {outer : List Level} {level : Level} {cs rest' : List Char}
    {next : Part ⊕ List Level × Level}
    (h : round? f outer level (cs ++ [')']) = some (next, rest')) :
    (rest' <:+ [')'] ∧ ∃ levels, next = .inr levels) ∨
      ∃ rest, round? f outer level cs = some (next, rest) ∧ GoesOn [')'] rest rest' := by
  unfold round? at h
  split at h
  case h_1 heq => simp at heq
  case h_2 more' heq =>
    obtain ⟨more, rfl, rfl⟩ := exists_of_append_eq_cons (by decide) heq
    rw [readAsciiClass?_append closing_paren] at h
    rw [round?]
    cases hclass : readAsciiClass? more with
    | some x =>
      obtain ⟨s, negated, rest₀⟩ := x
      simp only [hclass, Option.map_some, Option.bind_eq_bind, Option.bind_eq_some_iff] at h
      obtain ⟨s', hs, h⟩ := h
      obtain ⟨rfl, rfl⟩ := Prod.mk.inj (Option.some.inj h)
      simp only [hs, Option.bind_eq_bind, Option.bind_some]
      exact .inr ⟨rest₀, rfl, .inl rfl⟩
    | none =>
      simp only [hclass, Option.map_none, Option.bind_eq_bind, Option.bind_eq_some_iff] at h
      obtain ⟨⟨inner, rest₀'⟩, hopen, h⟩ := h
      obtain ⟨rfl, rfl⟩ := Prod.mk.inj (Option.some.inj h)
      rcases readOpening?_back hopen with hsuffix | ⟨rest₀, hopen', hgo⟩
      · exact .inl ⟨hsuffix, _, rfl⟩
      · simp only [hopen', Option.bind_eq_bind, Option.bind_some]
        exact .inr ⟨rest₀, rfl, hgo⟩
  case h_3 more' heq =>
    obtain ⟨more, rfl, rfl⟩ := exists_of_append_eq_cons (by decide) heq
    rw [round?]
    simp only [Option.bind_eq_bind, Option.bind_eq_some_iff] at h
    obtain ⟨p', hp, h⟩ := h
    simp only [hp, Option.bind_eq_bind, Option.bind_some]
    cases outer with
    | nil | cons =>
      obtain ⟨rfl, rfl⟩ := Prod.mk.inj (Option.some.inj h)
      exact .inr ⟨more, rfl, .inl rfl⟩
  case h_4 heq | h_5 heq | h_6 heq =>
    obtain ⟨more, rfl, heq'⟩ := exists_of_append_eq_cons (by decide) heq
    obtain ⟨more', rfl, rfl⟩ := exists_of_append_eq_cons (by decide) heq'.symm
    obtain ⟨rfl, rfl⟩ := Prod.mk.inj (Option.some.inj h)
    exact .inr ⟨more', rfl, .inl rfl⟩
  case h_7 h₁ h₂ h₃ h₄ h₅ h₆ =>
    simp only [Option.bind_eq_bind, Option.bind_eq_some_iff] at h
    obtain ⟨⟨p', rest₀'⟩, hrange, h⟩ := h
    obtain ⟨rfl, rfl⟩ := Prod.mk.inj (Option.some.inj h)
    rcases readRange?_back hrange with hsuffix | ⟨rest₀, hrange', hgo⟩
    · exact .inl ⟨hsuffix, _, rfl⟩
    · refine .inr ⟨rest₀, ?_, hgo⟩
      obtain ⟨c, d, more, rfl⟩ := exists_cons_cons_of_readRange? hrange'
      rw [round?]
      · simp only [hrange', Option.bind_eq_bind, Option.bind_some]
        rfl
      all_goals simp_all

/-- Before the parenthesis alone brackets do not end. -/
theorem readLevels?_suffix {f : Flags} {fuel : Nat} {outer : List Level} {level : Level}
    {cs : List Char} (h : cs <:+ [')']) : readLevels? f fuel outer level cs = none := by
  cases fuel with
  | zero => rfl
  | succ fuel =>
    rw [readLevels?_succ]
    rcases List.suffix_cons_iff.mp h with rfl | h
    · have hrange : readRange? f [')'] = none := by
        refine Option.eq_none_iff_forall_ne_some.mpr fun x hx => ?_
        obtain ⟨c, d, more, heq⟩ := exists_cons_cons_of_readRange? hx
        simp at heq
      rw [Reader.skip_of_closing closing_paren]
      simp [round?, hrange]
    · obtain rfl := List.suffix_nil.mp h
      rw [Reader.skip_of_closing closing_nil]
      rfl

theorem readLevels?_back {f : Flags} {fuel : Nat} {outer : List Level} {level : Level}
    {cs cs' rest' : List Char} {p : Part} (hgo : GoesOn [')'] cs cs')
    (h : readLevels? f fuel outer level cs' = some (p, rest')) :
    ∃ rest, readLevels? f fuel outer level cs = some (p, rest) ∧ GoesOn [')'] rest rest' := by
  induction fuel generalizing outer level cs cs' with
  | zero => cases h
  | succ fuel ih =>
    rw [readLevels?_succ] at h ⊢
    obtain ⟨⟨next, more'⟩, hround, h⟩ := Option.bind_eq_some_iff.mp h
    have hback : (more' <:+ [')'] ∧ ∃ levels, next = .inr levels) ∨
        ∃ more, round? f outer level (f.skip cs) = some (next, more) ∧
          GoesOn [')'] more more' := by
      rcases f.goesOn_skip closing_paren hgo with hskip | hskip
      · exact round?_back (hskip ▸ hround)
      · exact .inr ⟨more', hskip ▸ hround, .inr rfl⟩
    rcases hback with ⟨hsuffix, levels, rfl⟩ | ⟨more, hround', hgo'⟩
    · simp [readLevels?_suffix hsuffix] at h
    · rw [hround', Option.bind_some]
      cases next with
      | inl p =>
        obtain ⟨rfl, rfl⟩ := Prod.mk.inj (Option.some.inj h)
        exact ⟨more, rfl, hgo'⟩
      | inr levels => exact ih hgo' h

/-- **A set in brackets ends before the parenthesis.** -/
theorem read?_back {f : Flags} {cs rest' : List Char} {p : Part}
    (h : read? f (cs ++ [')']) = some (p, rest')) :
    ∃ rest, read? f cs = some (p, rest) ∧ GoesOn [')'] rest rest' := by
  unfold read? at h ⊢
  simp only [Option.bind_eq_bind, Option.bind_eq_some_iff] at h
  obtain ⟨⟨level, rest₀'⟩, hopen, h⟩ := h
  rcases readOpening?_back hopen with hsuffix | ⟨rest₀, hopen', hgo⟩
  · simp [readLevels?_suffix hsuffix] at h
  · obtain ⟨rest, hlevels, hgo'⟩ := readLevels?_back hgo h
    have hlen := readOpening?_shortens f cs level rest₀ hopen'
    have hfuel : cs.length + 1 ≤ (cs ++ [')']).length + 1 := by simp
    simp only [hopen', Option.bind_eq_bind, Option.bind_some]
    rw [← readLevels?_fuel (Nat.lt_succ_of_le hlen) hfuel]
    exact ⟨rest, hlevels, hgo'⟩

end Bracket

end SearchQuery.Pattern
