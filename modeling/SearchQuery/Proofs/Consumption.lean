import SearchQuery.Proofs.PatternReading

/-!
# Every item of a pattern takes a character

The readers of brackets and of patterns go on in rounds, and are given the length of the text as
fuel. This is enough, because every round takes a character.

* `Atom.length_readEscape?_lt`, `readBounds?_length_le`, `Bracket.length_round?_lt` and so on: what
  is left after a part of a pattern is shorter than the text was.
* `Bracket.readLevels?_fuel`: more fuel than there are characters makes no difference.
* `Reader.readAll?_eq_some_iff`: reading with fuel is reading to the end of the text, so a text is a
  pattern just if it can be read to its end with no group left open (`read?_eq_some_iff`).
-/

namespace SearchQuery.Pattern

open Text

namespace Flags

theorem length_untilBrace_lt {f : Flags} {comment : Bool} {cs taken name rest : List Char}
    (h : f.untilBrace comment cs taken = some (name, rest)) : rest.length < cs.length := by
  induction cs generalizing comment taken with
  | nil => simp [untilBrace] at h
  | cons c cs ih =>
    cases comment with
    | true => exact Nat.lt_succ_of_lt (ih h)
    | false =>
      simp only [untilBrace] at h
      split at h
      · obtain ⟨-, rfl⟩ := Prod.mk.inj (Option.some.inj h)
        exact Nat.lt_succ_self _
      · split at h
        · exact Nat.lt_succ_of_lt (ih h)
        · split at h
          · exact Nat.lt_succ_of_lt (ih h)
          · exact Nat.lt_succ_of_lt (ih h)

theorem length_read?_lt {cs rest : List Char} {changes changes' : List (Flag × Bool)}
    {negated dangling : Bool} {last : Char}
    (h : read? cs changes negated dangling = some (changes', last, rest)) :
    rest.length < cs.length := by
  induction cs generalizing changes negated dangling with
  | nil => simp [read?] at h
  | cons c cs ih =>
    simp only [read?] at h
    split at h
    · split at h
      · cases h
      · simp only [Option.some.injEq, Prod.mk.injEq] at h
        rw [h.2.2]
        exact Nat.lt_succ_self _
    · split at h
      · split at h
        · cases h
        · exact Nat.lt_succ_of_lt (ih h)
      · split at h
        · cases h
        · split at h
          · cases h
          · exact Nat.lt_succ_of_lt (ih h)

end Flags

/-- What `read` leaves is no longer than the text. -/
def Shortens {α : Type} (read : List Char → Option (α × List Char)) : Prop :=
  ∀ cs x rest, read cs = some (x, rest) → rest.length ≤ cs.length

namespace Atom

theorem readHex?_shortens (f : Flags) (n value : Nat) : Shortens (readHex? f n value) := by
  induction n generalizing value with
  | zero =>
    intro cs x rest h
    obtain ⟨-, rfl⟩ := Prod.mk.inj (Option.some.inj h)
    exact Nat.le_refl _
  | succ n ih =>
    intro cs x rest h
    cases cs with
    | nil => cases h
    | cons c cs =>
      simp only [readHex?] at h
      split at h
      · have hle := ih _ _ _ _ h
        have hskip := f.length_skip_le cs
        simp only [List.length_cons]
        omega
      · cases h

theorem readCode?_shortens (f : Flags) (width : Nat) : Shortens (readCode? f width) := by
  intro cs a rest h
  have hskip := f.length_skip_le cs
  unfold readCode? at h
  split at h
  · next more heq =>
    simp only [Option.bind_eq_bind, Option.bind_eq_some_iff] at h
    obtain ⟨⟨digits, rest₀⟩, hdigits, n, -, c, -, hpure⟩ := h
    obtain ⟨-, rfl⟩ : _ ∧ f.skip rest₀ = rest := Prod.mk.inj (Option.some.inj hpure)
    have hlt := Flags.length_untilBrace_lt hdigits
    have hskip' := f.length_skip_le rest₀
    rw [heq, List.length_cons] at hskip
    omega
  · simp only [Option.bind_eq_bind, Option.bind_eq_some_iff] at h
    obtain ⟨⟨n, rest₀⟩, hhex, c, -, hpure⟩ := h
    obtain ⟨-, rfl⟩ := Prod.mk.inj (Option.some.inj hpure)
    exact (readHex?_shortens f width 0 _ _ _ hhex).trans hskip

theorem length_readPropertySet?_le {f : Flags} {cs rest : List Char} {s : CharSet} {negated : Bool}
    (h : readPropertySet? f cs = some (s, negated, rest)) : rest.length ≤ cs.length := by
  have hskip := f.length_skip_le cs
  unfold readPropertySet? at h
  split at h
  · cases h
  · next more heq =>
    simp only [Option.bind_eq_bind, Option.bind_eq_some_iff] at h
    obtain ⟨⟨name, rest₀⟩, hname, ⟨s', negated'⟩, -, hpure⟩ := h
    obtain ⟨-, -, rfl⟩ := by simpa using hpure
    have hlt := Flags.length_untilBrace_lt hname
    rw [heq, List.length_cons] at hskip
    omega
  · next c more hne heq =>
    split at h
    · cases h
    · obtain ⟨s', -, hpure⟩ := Option.map_eq_some_iff.mp h
      obtain ⟨-, -, rfl⟩ := by simpa using hpure
      rw [heq, List.length_cons] at hskip
      omega

theorem readProperty?_shortens (f : Flags) (negated : Bool) :
    Shortens (readProperty? f negated) := by
  intro cs a rest h
  unfold readProperty? at h
  split at h
  · obtain ⟨⟨s, negated', rest₀⟩, hs, hpure⟩ := Option.map_eq_some_iff.mp h
    obtain ⟨-, rfl⟩ := Prod.mk.inj hpure
    exact length_readPropertySet?_le hs
  · cases h

theorem readEdge?_shortens (f : Flags) : Shortens (readEdge? f) := by
  intro cs edge rest h
  unfold readEdge? at h
  split at h
  · next more =>
    have hskip := f.length_skip_le more
    split at h
    · cases h
    · next c more' heq =>
      split at h
      · simp only [Option.bind_eq_bind, Option.bind_eq_some_iff] at h
        obtain ⟨⟨name, after⟩, hname, edge', -, hpure⟩ := h
        obtain ⟨-, rfl⟩ := Prod.mk.inj (Option.some.inj hpure)
        have hlt := Flags.length_untilBrace_lt hname
        rw [← heq] at hlt
        simp only [List.length_cons] at hlt ⊢
        omega
      · obtain ⟨-, rfl⟩ := Prod.mk.inj (Option.some.inj h)
        exact Nat.le_refl _
  · obtain ⟨-, rfl⟩ := Prod.mk.inj (Option.some.inj h)
    exact Nat.le_refl _

/-- An escape takes at least the character after the backslash. -/
theorem length_readEscape?_lt {f : Flags} {cs rest : List Char} {a : Atom}
    (h : readEscape? f cs = some (a, rest)) : rest.length < cs.length := by
  cases cs with
  | nil => cases h
  | cons c cs =>
    refine Nat.lt_succ_of_le ?_
    simp only [readEscape?] at h
    split at h
    case h_1 | h_2 | h_3 => exact readCode?_shortens f _ cs a rest h
    case h_4 | h_5 => exact readProperty?_shortens f _ cs a rest h
    case h_8 =>
      simp only [Option.bind_eq_bind, Option.bind_eq_some_iff] at h
      obtain ⟨⟨edge, rest₀⟩, hedge, hpure⟩ := h
      obtain ⟨-, rfl⟩ := Prod.mk.inj (Option.some.inj hpure)
      exact readEdge?_shortens f cs edge rest₀ hedge
    case h_12 =>
      split at h
      · obtain ⟨-, rfl⟩ := Prod.mk.inj (Option.some.inj h)
        exact Nat.le_refl _
      · split at h
        · obtain ⟨-, rfl⟩ := Prod.mk.inj (Option.some.inj h)
          exact Nat.le_refl _
        · obtain ⟨a', -, hpure⟩ := Option.map_eq_some_iff.mp h
          obtain ⟨-, rfl⟩ := Prod.mk.inj hpure
          exact Nat.le_refl _
    all_goals
      obtain ⟨-, rfl⟩ := Prod.mk.inj (Option.some.inj h)
      exact Nat.le_refl _

end Atom

/-! ## Bounds and names -/

theorem length_readDigits_le (f : Flags) (fuel : Nat) (cs digits : List Char) :
    (readDigits f fuel cs digits).2.length ≤ cs.length := by
  induction fuel generalizing cs digits with
  | zero => exact Nat.le_refl _
  | succ fuel ih =>
    cases cs with
    | nil => exact Nat.le_refl _
    | cons c cs =>
      simp only [readDigits]
      split
      · have hle := ih (f.skip cs) (c :: digits)
        have hskip := f.length_skip_le cs
        simp only [List.length_cons]
        omega
      · exact Nat.le_refl _

theorem readCount?_shortens (f : Flags) : Shortens (readCount? f) := by
  intro cs n rest h
  unfold readCount? at h
  simp only at h
  split at h
  · cases h
  · obtain ⟨-, rfl⟩ := Prod.mk.inj (Option.some.inj h)
    calc
      _ ≤ _ := (List.dropWhile_sublist _).length_le
      _ ≤ _ := length_readDigits_le ..
      _ ≤ _ := (List.dropWhile_sublist _).length_le

theorem length_readBounds?_le {f : Flags} {cs rest : List Char} {min : Nat} {max : Option Nat}
    (h : readBounds? f cs = some (min, max, rest)) : rest.length ≤ cs.length := by
  have hskip := f.length_skip_le cs
  unfold readBounds? at h
  simp only [Option.bind_eq_bind, Option.bind_eq_some_iff] at h
  obtain ⟨⟨min', rest₁⟩, hmin, h⟩ := h
  have hle := (readCount?_shortens f _ _ _ hmin).trans hskip
  split at h
  · next rest₂ heq =>
    obtain ⟨-, -, rfl⟩ := by simpa using h
    obtain rfl : rest₁ = '\x7d' :: rest₂ := heq
    exact Nat.le_of_succ_le hle
  · next rest₂ heq =>
    obtain rfl : rest₁ = ',' :: rest₂ := heq
    have hskip' := f.length_skip_le rest₂
    rw [List.length_cons] at hle
    split at h
    · next rest₃ heq =>
      obtain ⟨-, -, rfl⟩ := by simpa using h
      rw [heq, List.length_cons] at hskip'
      omega
    · simp only [Option.bind_eq_some_iff] at h
      obtain ⟨⟨max', rest₃⟩, hmax, h⟩ := h
      have hle' := readCount?_shortens f _ _ _ hmax
      split at h
      · next rest₄ heq =>
        obtain rfl : rest₃ = '\x7d' :: rest₄ := heq
        rw [List.length_cons] at hle'
        split at h
        · obtain ⟨-, -, rfl⟩ := by simpa using h
          omega
        · cases h
      · cases h
  · cases h

theorem length_readLazy_le (cs : List Char) : (readLazy cs).2.length ≤ cs.length := by
  unfold readLazy
  split
  · exact Nat.le_succ _
  · exact Nat.le_refl _

theorem length_readName?_le {cs name rest : List Char} (h : readName? cs = some (name, rest)) :
    rest.length ≤ cs.length := by
  unfold readName? at h
  simp only at h
  split at h
  · next c more d rest₀ hname hrest =>
    split at h
    · obtain ⟨-, rfl⟩ := Prod.mk.inj (Option.some.inj h)
      have hle := (List.dropWhile_sublist (l := cs) (· != '>')).length_le
      rw [hrest, List.length_cons] at hle
      exact Nat.le_of_succ_le hle
    · cases h
  · cases h

/-! ## Sets in brackets -/

namespace Bracket

theorem length_readSign_le (f : Flags) (cs : List Char) :
    (readSign f cs).2.length ≤ cs.length := by
  unfold readSign
  split
  · exact Nat.le_succ_of_le (f.length_skip_le _)
  · exact Nat.le_refl _

theorem length_leadingHyphens_le (f : Flags) (fuel : Nat) (cs : List Char) (items : List Part) :
    (leadingHyphens f fuel cs items).2.length ≤ cs.length := by
  induction fuel generalizing cs items with
  | zero => exact Nat.le_refl _
  | succ fuel ih =>
    unfold leadingHyphens
    split
    · exact Nat.le_succ_of_le ((ih _ _).trans (f.length_skip_le _))
    · exact Nat.le_refl _

theorem length_readFirst_le (f : Flags) (items : List Part) (cs : List Char) :
    (readFirst f items cs).2.length ≤ cs.length := by
  unfold readFirst
  split
  · exact Nat.le_succ_of_le (f.length_skip_le _)
  · exact Nat.le_refl _

theorem readOpening?_shortens (f : Flags) : Shortens (readOpening? f) := by
  intro cs level rest h
  rw [readOpening?_eq] at h
  simp only at h
  split at h
  · cases h
  · obtain ⟨-, rfl⟩ := Prod.mk.inj (Option.some.inj h)
    calc
      _ ≤ _ := length_readFirst_le ..
      _ ≤ _ := length_leadingHyphens_le ..
      _ ≤ _ := length_readSign_le ..
      _ ≤ _ := f.length_skip_le cs

theorem length_readItem?_lt {f : Flags} {cs rest : List Char} {a : Atom}
    (h : readItem? f cs = some (a, rest)) : rest.length < cs.length := by
  unfold readItem? at h
  split at h
  · cases h
  · exact Nat.lt_succ_of_lt (Atom.length_readEscape?_lt h)
  · obtain ⟨-, rfl⟩ := Prod.mk.inj (Option.some.inj h)
    exact Nat.lt_succ_self _

theorem length_readRange?_lt {f : Flags} {cs rest : List Char} {p : Part}
    (h : readRange? f cs = some (p, rest)) : rest.length < cs.length := by
  obtain ⟨first, rest₀, hfirst, h⟩ := readRange?_eq_some.mp h
  have hlt := (f.length_skip_le rest₀).trans_lt (length_readItem?_lt hfirst)
  rcases h with ⟨rfl, -⟩ | ⟨after, last, hrest, -, hlast, -⟩
  · exact hlt
  · have hlt' := (length_readItem?_lt hlast).trans_le (f.length_skip_le after)
    rw [hrest, List.length_cons] at hlt
    omega

theorem length_readAsciiClass?_le {cs rest : List Char} {s : CharSet} {negated : Bool}
    (h : readAsciiClass? cs = some (s, negated, rest)) : rest.length ≤ cs.length := by
  cases cs with
  | nil => cases h
  | cons c cs =>
    by_cases hc : c = ':'
    · subst hc
      rw [readAsciiClass?_colon] at h
      obtain ⟨after, hafter, h⟩ := Option.bind_eq_some_iff.mp h
      obtain ⟨s', -, hpure⟩ := Option.map_eq_some_iff.mp h
      obtain ⟨-, -, rfl⟩ := by simpa using hpure
      have hsign : (classSign cs).2.length ≤ cs.length := by
        unfold classSign
        split
        · exact Nat.le_succ _
        · exact Nat.le_refl _
      have hdrop := (List.dropWhile_sublist (l := (classSign cs).2) (· != ':')).length_le
      unfold classEnd? at hafter
      split at hafter
      · next more heq =>
        obtain rfl := Option.some.inj hafter
        rw [heq] at hdrop
        simp only [List.length_cons] at hdrop ⊢
        omega
      · cases hafter
    · rw [readAsciiClass?_of_ne hc] at h
      cases h

/-- **A round of a bracket takes a character.** -/
theorem length_round?_lt {f : Flags} {outer : List Level} {level : Level} {cs rest : List Char}
    {next : Part ⊕ List Level × Level} (h : round? f outer level cs = some (next, rest)) :
    rest.length < cs.length := by
  unfold round? at h
  split at h
  case h_1 => cases h
  case h_2 more =>
    refine Nat.lt_succ_of_le ?_
    split at h
    · next s negated rest₀ hclass =>
      simp only [Option.bind_eq_bind, Option.bind_eq_some_iff] at h
      obtain ⟨s', -, h⟩ := h
      obtain ⟨-, rfl⟩ := Prod.mk.inj (Option.some.inj h)
      exact length_readAsciiClass?_le hclass
    · simp only [Option.bind_eq_bind, Option.bind_eq_some_iff] at h
      obtain ⟨⟨inner, rest₀⟩, hopen, h⟩ := h
      obtain ⟨-, rfl⟩ := Prod.mk.inj (Option.some.inj h)
      exact readOpening?_shortens f more inner rest₀ hopen
  case h_3 more =>
    simp only [Option.bind_eq_bind, Option.bind_eq_some_iff] at h
    obtain ⟨p', -, h⟩ := h
    cases outer with
    | nil | cons =>
      obtain ⟨-, rfl⟩ := Prod.mk.inj (Option.some.inj h)
      exact Nat.lt_succ_self _
  case h_4 | h_5 | h_6 =>
    obtain ⟨-, rfl⟩ := Prod.mk.inj (Option.some.inj h)
    exact Nat.lt_succ_of_lt (Nat.lt_succ_self _)
  case h_7 =>
    simp only [Option.bind_eq_bind, Option.bind_eq_some_iff] at h
    obtain ⟨⟨p', rest₀⟩, hrange, h⟩ := h
    obtain ⟨-, rfl⟩ := Prod.mk.inj (Option.some.inj h)
    exact length_readRange?_lt hrange

theorem readLevels?_shortens (f : Flags) (fuel : Nat) (outer : List Level) (level : Level) :
    Shortens (readLevels? f fuel outer level) := by
  induction fuel generalizing outer level with
  | zero => exact fun cs p rest h => nomatch h
  | succ fuel ih =>
    intro cs p rest h
    rw [readLevels?_succ] at h
    obtain ⟨⟨next, more⟩, hround, h⟩ := Option.bind_eq_some_iff.mp h
    have hlt := (length_round?_lt hround).trans_le (f.length_skip_le cs)
    cases next with
    | inl p =>
      obtain ⟨-, rfl⟩ := Prod.mk.inj (Option.some.inj h)
      exact hlt.le
    | inr levels => exact (ih levels.1 levels.2 more p rest h).trans hlt.le

/-- More fuel than there are characters makes no difference. -/
theorem readLevels?_fuel {f : Flags} {fuel fuel' : Nat} {outer : List Level} {level : Level}
    {cs : List Char} (h : cs.length < fuel) (h' : fuel ≤ fuel') :
    readLevels? f fuel' outer level cs = readLevels? f fuel outer level cs := by
  induction fuel generalizing fuel' outer level cs with
  | zero => omega
  | succ fuel ih =>
    obtain ⟨fuel', rfl⟩ := Nat.exists_eq_add_of_le' (Nat.le_trans (Nat.le_add_left 1 fuel) h')
    rw [readLevels?_succ, readLevels?_succ]
    cases hround : round? f outer level (f.skip cs) with
    | none => rfl
    | some x =>
      obtain ⟨next, more⟩ := x
      have hlt := (length_round?_lt hround).trans_le (f.length_skip_le cs)
      cases next with
      | inl p => rfl
      | inr levels => exact ih (by omega) (by omega)

theorem read?_shortens (f : Flags) : Shortens (read? f) := by
  intro cs p rest h
  unfold read? at h
  simp only [Option.bind_eq_bind, Option.bind_eq_some_iff] at h
  obtain ⟨⟨level, rest₀⟩, hopen, h⟩ := h
  exact (readLevels?_shortens f _ _ _ _ _ _ h).trans (readOpening?_shortens f cs level rest₀ hopen)

end Bracket

/-! ## Moves -/

namespace Move

theorem readFlags?_shortens : Shortens readFlags? := by
  intro cs m rest h
  unfold readFlags? at h
  simp only [Option.bind_eq_bind, Option.bind_eq_some_iff] at h
  obtain ⟨⟨changes, last, rest₀⟩, hflags, h⟩ := h
  have hlt := Flags.length_read?_lt hflags
  split at h
  · obtain ⟨-, rfl⟩ := Prod.mk.inj (Option.some.inj h)
    exact hlt.le
  · split at h
    · cases h
    · obtain ⟨-, rfl⟩ := Prod.mk.inj (Option.some.inj h)
      exact hlt.le

theorem readNamed?_shortens : Shortens readNamed? := by
  intro cs m rest h
  obtain ⟨⟨name, rest₀⟩, hname, hpure⟩ := Option.map_eq_some_iff.mp h
  obtain ⟨-, rfl⟩ := Prod.mk.inj hpure
  exact length_readName?_le hname

theorem readOpening?_shortens : Shortens readOpening? := by
  intro cs m rest h
  unfold readOpening? at h
  split at h
  case h_1 | h_2 | h_3 | h_4 => cases h
  case h_5 more =>
    have hle := readNamed?_shortens _ _ _ h
    simp only [List.length_cons]
    omega
  case h_6 more _ _ =>
    have hle := readNamed?_shortens _ _ _ h
    simp only [List.length_cons]
    omega
  case h_7 => exact Nat.le_succ_of_le (readFlags?_shortens _ _ _ h)
  case h_8 =>
    obtain ⟨-, rfl⟩ := Prod.mk.inj (Option.some.inj h)
    exact Nat.le_refl _

/-- **What is left after a move is no longer than what stands behind its first character.** -/
theorem read?_shortens (f : Flags) (c : Char) : Shortens (read? f c) := by
  intro cs m rest h
  unfold read? at h
  split at h
  case h_1 => exact (readOpening?_shortens _ _ _ h).trans (f.length_skip_le cs)
  case h_4 =>
    obtain ⟨⟨part, rest₀⟩, hpart, hpure⟩ := Option.map_eq_some_iff.mp h
    obtain ⟨-, rfl⟩ := Prod.mk.inj hpure
    exact Bracket.read?_shortens f cs part rest₀ hpart
  case h_5 | h_6 | h_7 =>
    obtain ⟨-, rfl⟩ := Prod.mk.inj (Option.some.inj h)
    exact length_readLazy_le cs
  case h_8 =>
    obtain ⟨⟨min, max, rest₀⟩, hbounds, hmarked⟩ := Option.map_eq_some_iff.mp h
    obtain ⟨-, rfl⟩ := Prod.mk.inj hmarked
    exact ((length_readLazy_le _).trans (f.length_skip_le rest₀)).trans
      (length_readBounds?_le hbounds)
  case h_9 =>
    simp only [Option.bind_eq_bind, Option.bind_eq_some_iff] at h
    obtain ⟨⟨a, rest₀⟩, hescape, h⟩ := h
    obtain ⟨m', -, hpure⟩ := Option.map_eq_some_iff.mp h
    obtain ⟨-, rfl⟩ := Prod.mk.inj hpure
    exact (Atom.length_readEscape?_lt hescape).le
  case h_10 =>
    split at h
    · obtain ⟨-, rfl⟩ := Prod.mk.inj (Option.some.inj h)
      exact Nat.le_refl _
    · cases h
  case h_13 =>
    obtain ⟨m', -, hpure⟩ := Option.map_eq_some_iff.mp h
    obtain ⟨-, rfl⟩ := Prod.mk.inj hpure
    exact Nat.le_refl _
  all_goals
    obtain ⟨-, rfl⟩ := Prod.mk.inj (Option.some.inj h)
    exact Nat.le_refl _

end Move

/-! ## Whole patterns -/

namespace Reader

theorem readAll?_of_reads {fuel : Nat} {r r' : Reader} {cs : List Char} (h : Reads r cs r')
    (hfuel : cs.length ≤ fuel) : readAll? fuel r cs = some r' := by
  induction h generalizing fuel with
  | @done r cs hskip => cases fuel <;> simp [readAll?, hskip]
  | @next r r₁ r' cs more rest c hskip hnext hrest ih =>
    obtain ⟨m, hread, -⟩ := readNext?_eq_some.mp hnext
    have hle := Move.read?_shortens r.flags c _ _ _ hread
    have hlen := r.flags.length_skip_le cs
    rw [hskip, List.length_cons] at hlen
    obtain ⟨fuel, rfl⟩ := Nat.exists_eq_add_one_of_ne_zero (n := fuel) (by omega)
    simp only [readAll?, hskip, hnext, Option.bind_eq_bind, Option.bind_some]
    exact ih (by omega)

/-- **The length of the text is fuel enough.** -/
theorem readAll?_eq_some_iff {r r' : Reader} {cs : List Char} :
    readAll? cs.length r cs = some r' ↔ Reads r cs r' :=
  ⟨reads_of_readAll?, fun h => readAll?_of_reads h (Nat.le_refl _)⟩

end Reader

/-- **What a pattern is**: a text that can be read to its end with no group left open, as an
expression that is neither too deep nor too large. -/
theorem read?_eq_some_iff {source : String} {p : Pattern} :
    read? source = some p ↔ ∃ r, Reader.Reads .initial source.toList r ∧ r.outer = [] ∧
      r.inner.depth ≤ maxDepth ∧ r.inner.pattern.fits = true ∧ r.inner.pattern = p := by
  unfold read?
  simp only [Option.bind_eq_bind, Option.bind_eq_some_iff, Reader.readAll?_eq_some_iff]
  refine exists_congr fun r => and_congr_right fun _ => ?_
  by_cases houter : r.outer = []
  · simp [houter, and_assoc]
  · simp [houter]

end SearchQuery.Pattern
