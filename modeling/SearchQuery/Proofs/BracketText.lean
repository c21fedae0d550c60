import SearchQuery.Proofs.PatternText

/-!
# What follows a set in brackets

A set in brackets is read without a look at what closes the pattern (`Bracket.read?_readsOn`).
Inside the brackets the reader does look ahead, after the hyphen of a range and for the end of a
class's name: a bracket that ends has something there to be seen (`Bracket.peekAfter_append`,
`Bracket.readAsciiClass?_append`). An item stands by itself or begins a range
(`Bracket.readRange?_eq_some`). The brackets are read in rounds (`Bracket.readLevels?_succ`), and what
one round reads, all of them do (`Bracket.round?_readsOn`).
-/

namespace SearchQuery.Pattern

open Text

variable {tail : List Char} (hz : Closing tail)

theorem not_isWhiteSpace_paren : isWhiteSpace ')' = false := by decide

namespace Bracket

/-- The sign of a complement, and what follows it. -/
def readSign (f : Flags) (cs : List Char) : Bool × List Char :=
  match cs with
  | '^' :: rest => (true, f.skip rest)
  | _ => (false, cs)

/-- A closing bracket that stands first, and what follows it. -/
def readFirst (f : Flags) (items : List Part) (cs : List Char) : List Part × List Char :=
  match items, cs with
  | [], ']' :: rest => ([Part.mk (.single ']') 0], f.skip rest)
  | _, _ => (items, cs)

theorem readOpening?_eq (f : Flags) (cs : List Char) :
    readOpening? f cs =
      let sign := readSign f (f.skip cs)
      let hyphens := leadingHyphens f sign.2.length sign.2 []
      let first := readFirst f hyphens.1 hyphens.2
      if first.2.isEmpty then none else some (⟨sign.1, none, first.1⟩, first.2) := rfl

theorem leadingHyphens_fuel {f : Flags} {fuel fuel' : Nat} {cs : List Char} (h : cs.length ≤ fuel)
    (h' : fuel ≤ fuel') (items : List Part) :
    leadingHyphens f fuel' cs items = leadingHyphens f fuel cs items := by
  induction fuel generalizing fuel' cs items with
  | zero =>
    obtain rfl := List.length_eq_zero_iff.mp (Nat.le_zero.mp h)
    cases fuel' <;> rfl
  | succ fuel ih =>
    obtain ⟨fuel', rfl⟩ := Nat.exists_eq_add_of_lt (Nat.lt_of_lt_of_le (Nat.succ_pos _) h')
    simp only [Nat.zero_add, leadingHyphens]
    split
    · next rest =>
      have hskip := f.length_skip_le rest
      simp only [List.length_cons] at h
      exact ih (by omega) (by omega) _
    · rfl

include hz

theorem readSign_goesOn (f : Flags) {cs cs' : List Char} (h : GoesOn tail cs cs') :
    (readSign f cs').1 = (readSign f cs).1 ∧ GoesOn tail (readSign f cs).2 (readSign f cs').2 := by
  rcases h with rfl | rfl
  · by_cases hsign : ∃ more, cs = '^' :: more
    · obtain ⟨more, rfl⟩ := hsign
      exact ⟨rfl, f.skip_goesOn hz more⟩
    · simp only [not_exists] at hsign
      have hsign' := hz.append_ne_cons (by decide) hsign
      rw [readSign, readSign]
      · exact ⟨rfl, .inl rfl⟩
      · exact fun rest h => hsign rest h
      · exact fun rest h => hsign' rest h
  · exact ⟨rfl, .inr rfl⟩

theorem leadingHyphens_goesOn {f : Flags} {fuel : Nat} {cs : List Char} (items : List Part) :
    (leadingHyphens f fuel (cs ++ tail) items).1 = (leadingHyphens f fuel cs items).1 ∧
      GoesOn tail (leadingHyphens f fuel cs items).2
        (leadingHyphens f fuel (cs ++ tail) items).2 := by
  induction fuel generalizing cs items with
  | zero => exact ⟨rfl, .inl rfl⟩
  | succ fuel ih =>
    by_cases hhyphen : ∃ more, cs = '-' :: more
    · obtain ⟨more, rfl⟩ := hhyphen
      simp only [List.cons_append, leadingHyphens]
      rcases f.skip_goesOn hz more with hskip | hskip
      · rw [hskip]
        exact ih _
      · rw [hskip]
        exact ⟨rfl, .inr rfl⟩
    · simp only [not_exists] at hhyphen
      have hhyphen' := hz.append_ne_cons (by decide) hhyphen
      rw [leadingHyphens, leadingHyphens]
      · exact ⟨rfl, .inl rfl⟩
      · exact fun rest h => hhyphen rest h
      · exact fun rest h => hhyphen' rest h

theorem allHyphens_goesOn (f : Flags) {cs cs' : List Char} (h : GoesOn tail cs cs') :
    (leadingHyphens f cs'.length cs' []).1 = (leadingHyphens f cs.length cs []).1 ∧
      GoesOn tail (leadingHyphens f cs.length cs []).2 (leadingHyphens f cs'.length cs' []).2 := by
  rcases h with rfl | rfl
  · have hlen : cs.length ≤ (cs ++ tail).length := by simp
    rw [← leadingHyphens_fuel (Nat.le_refl _) hlen]
    exact leadingHyphens_goesOn hz []
  · exact ⟨rfl, .inr rfl⟩

theorem readFirst_goesOn (f : Flags) (items : List Part) {cs cs' : List Char}
    (h : GoesOn tail cs cs') :
    (readFirst f items cs').1 = (readFirst f items cs).1 ∧
      GoesOn tail (readFirst f items cs).2 (readFirst f items cs').2 := by
  rcases h with rfl | rfl
  · cases items with
    | cons p items => exact ⟨rfl, .inl rfl⟩
    | nil =>
      by_cases hfirst : ∃ more, cs = ']' :: more
      · obtain ⟨more, rfl⟩ := hfirst
        exact ⟨rfl, f.skip_goesOn hz more⟩
      · simp only [not_exists] at hfirst
        have hfirst' := hz.append_ne_cons (by decide) hfirst
        rw [readFirst, readFirst]
        · exact ⟨rfl, .inl rfl⟩
        · exact fun rest _ h => hfirst rest h
        · exact fun rest _ h => hfirst' rest h
  · exact ⟨rfl, .inr rfl⟩

theorem readOpening?_readsOn (f : Flags) : ReadsOn tail (readOpening? f) := by
  intro cs level rest h
  rw [readOpening?_eq] at h ⊢
  obtain ⟨hsign, hgo⟩ := readSign_goesOn hz f (f.skip_goesOn hz cs)
  obtain ⟨hhyphens, hgo⟩ := allHyphens_goesOn hz f hgo
  simp only [hsign, hhyphens] at h ⊢
  obtain ⟨hfirst, hgo⟩ := readFirst_goesOn hz f _ hgo
  split at h
  · cases h
  · next hne =>
    obtain ⟨rfl, rfl⟩ := Prod.mk.inj (Option.some.inj h)
    refine ⟨_, ?_, hgo⟩
    rw [hfirst, if_neg]
    rcases hgo with hgo | hgo
    · rw [hgo, List.isEmpty_iff, List.append_eq_nil_iff, ← List.isEmpty_iff]
      exact fun hnil => hne hnil.1
    · rwa [hgo]

theorem readItem?_readsOn (f : Flags) : ReadsOn tail (readItem? f) := by
  intro cs a rest h
  unfold readItem? at h
  split at h
  · cases h
  · exact Atom.readEscape?_readsOn hz f _ a rest h
  · next c rest₀ hne =>
    obtain ⟨rfl, rfl⟩ := Prod.mk.inj (Option.some.inj h)
    rw [List.cons_append, readItem?]
    · exact ⟨_, rfl, .inl rfl⟩
    · exact hne

omit hz

/-- The sign of a complement in the name of a class, and what follows it. -/
def classSign (cs : List Char) : Bool × List Char :=
  match cs with
  | '^' :: rest => (true, rest)
  | _ => (false, cs)

/-- The end of the name of a class. -/
def classEnd? (cs : List Char) : Option (List Char) :=
  match cs with
  | ':' :: ']' :: after => some after
  | _ => none

theorem readAsciiClass?_colon (cs : List Char) :
    readAsciiClass? (':' :: cs) =
      (classEnd? ((classSign cs).2.dropWhile (· != ':'))).bind fun after =>
        (asciiClass? ((classSign cs).2.takeWhile (· != ':'))).map (·, (classSign cs).1, after) := by
  have hread : readAsciiClass? (':' :: cs) =
      match (classSign cs).2.dropWhile (· != ':') with
      | ':' :: ']' :: after =>
        (asciiClass? ((classSign cs).2.takeWhile (· != ':'))).map (·, (classSign cs).1, after)
      | _ => none := rfl
  rw [hread]
  unfold classEnd?
  split <;> rfl

theorem readAsciiClass?_of_ne {c : Char} (hc : c ≠ ':') (cs : List Char) :
    readAsciiClass? (c :: cs) = none := by
  unfold readAsciiClass?
  split
  · next heq => exact absurd (List.cons.inj heq).1 hc
  · rfl

include hz

theorem classSign_append (cs : List Char) :
    classSign (cs ++ tail) = ((classSign cs).1, (classSign cs).2 ++ tail) := by
  by_cases hsign : ∃ more, cs = '^' :: more
  · obtain ⟨more, rfl⟩ := hsign
    rfl
  · simp only [not_exists] at hsign
    have hsign' := hz.append_ne_cons (by decide) hsign
    rw [classSign, classSign]
    · exact fun rest h => hsign rest h
    · exact fun rest h => hsign' rest h

theorem classEnd?_append (c : Char) (cs : List Char) :
    classEnd? (c :: cs ++ tail) = (classEnd? (c :: cs)).map (· ++ tail) := by
  by_cases hend : c = ':' ∧ ∃ after, cs = ']' :: after
  · obtain ⟨rfl, after, rfl⟩ := hend
    rfl
  · have hne (after : List Char) (hc : c = ':') : cs ++ tail ≠ ']' :: after :=
      hz.append_ne_cons (by decide) (fun more h => hend ⟨hc, more, h⟩) after
    rw [List.cons_append, classEnd?, classEnd?]
    · rfl
    · exact fun after h => hend ⟨(List.cons.inj h).1, after, (List.cons.inj h).2⟩
    · exact fun after h => hne after (List.cons.inj h).1 (List.cons.inj h).2

/-- Whether the name of a class is read does not depend on what closes the pattern. -/
theorem readAsciiClass?_append (cs : List Char) :
    readAsciiClass? (cs ++ tail) =
      (readAsciiClass? cs).map fun (s, negated, rest) => (s, negated, rest ++ tail) := by
  cases cs with
  | nil =>
    rcases hz.eq_nil_or_cons with rfl | ⟨more, rfl⟩
    · rfl
    · exact readAsciiClass?_of_ne (by decide) more
  | cons c cs =>
    by_cases hc : c = ':'
    · subst hc
      rw [List.cons_append, readAsciiClass?_colon, readAsciiClass?_colon, classSign_append hz]
      generalize classSign cs = sign
      obtain ⟨negated, rest⟩ := sign
      simp only
      cases hdrop : rest.dropWhile (· != ':') with
      | nil =>
        have hnone : (rest ++ tail).dropWhile (· != ':') = [] := by
          rw [List.dropWhile_eq_nil_iff] at hdrop ⊢
          intro d hd
          rcases List.mem_append.mp hd with hd | hd
          · exact hdrop d hd
          · exact bne_iff_ne.mpr fun heq => hz.noColon (heq ▸ hd)
        rw [hnone]
        rfl
      | cons d more =>
        obtain ⟨htake, hdrop'⟩ := takeWhile_append_of_dropWhile hdrop tail
        rw [htake, hdrop', classEnd?_append hz]
        cases classEnd? (d :: more) with
        | none => rfl
        | some after => cases asciiClass? (rest.takeWhile (· != ':')) <;> rfl
    · rw [List.cons_append, readAsciiClass?_of_ne hc, readAsciiClass?_of_ne hc]
      rfl

omit hz

/-- What stands after blanks, or after the sign of a comment and more blanks. -/
def seenAfter (cs : List Char) : List Char :=
  match cs.dropWhile isWhiteSpace with
  | '#' :: comment => comment.dropWhile isWhiteSpace
  | other => other

theorem peekAfter_verbose {f : Flags} (hf : f.verbose = true) (c : Char) (cs : List Char) :
    peekAfter f (c :: cs) = (seenAfter cs).head?.or cs.head? := by
  simp only [peekAfter, hf, if_true]
  rfl

theorem dropBlanks_dropWhile (cs : List Char) :
    Flags.dropBlanks false (cs.dropWhile isWhiteSpace) = Flags.dropBlanks false cs := by
  induction cs with
  | nil => rfl
  | cons c cs ih =>
    by_cases hc : isWhiteSpace c
    · rw [List.dropWhile_cons_of_pos hc, ih, Flags.dropBlanks, if_pos hc]
    · rw [List.dropWhile_cons_of_neg hc]

theorem dropBlanks_of_dropWhile {cs : List Char} (h : cs.dropWhile isWhiteSpace = [])
    (comment : Bool) : Flags.dropBlanks comment cs = [] := by
  induction cs generalizing comment with
  | nil => cases comment <;> rfl
  | cons c cs ih =>
    have hc : isWhiteSpace c = true := by
      by_contra hc
      rw [List.dropWhile_cons_of_neg hc] at h
      cases h
    rw [List.dropWhile_cons_of_pos hc] at h
    cases comment with
    | true => exact ih h _
    | false => rw [Flags.dropBlanks, if_pos hc, ih h]

/-- Where nothing is seen, there are only blanks. -/
theorem dropBlanks_of_seenAfter {cs : List Char} (h : seenAfter cs = []) :
    Flags.dropBlanks false cs = [] := by
  unfold seenAfter at h
  split at h
  · next comment heq =>
    rw [← dropBlanks_dropWhile, heq]
    exact dropBlanks_of_dropWhile h true
  · exact dropBlanks_of_dropWhile h false

include hz

theorem seenAfter_append (cs : List Char) : seenAfter (cs ++ tail) = seenAfter cs ++ tail := by
  unfold seenAfter
  rw [hz.dropWhile_append not_isWhiteSpace_paren]
  generalize cs.dropWhile isWhiteSpace = ds
  by_cases hsign : ∃ comment, ds = '#' :: comment
  · obtain ⟨comment, rfl⟩ := hsign
    exact hz.dropWhile_append not_isWhiteSpace_paren comment
  · simp only [not_exists] at hsign
    have hsign' := hz.append_ne_cons (by decide) hsign
    split
    · next comment heq => exact absurd heq (hsign' comment)
    · rfl

/-- Where the hyphen of a range stands before something, the character after it is the same. -/
theorem peekAfter_append {f : Flags} {c : Char} {after : List Char}
    (h : f.skip after ≠ [] ∨ peekAfter f (c :: after) = some ']' ∨
      peekAfter f (c :: after) = some '-') :
    peekAfter f (c :: after ++ tail) = peekAfter f (c :: after) := by
  by_cases hf : f.verbose
  · rw [List.cons_append, peekAfter_verbose hf, peekAfter_verbose hf, seenAfter_append hz]
    cases hseen : seenAfter after with
    | cons d more => rfl
    | nil =>
      have hskip : f.skip after = [] := by
        rw [Flags.skip, if_pos hf]
        exact dropBlanks_of_seenAfter hseen
      have hhead {d : Char} (hd : isWhiteSpace d = false) (hd' : d ≠ '#') :
          after.head? ≠ some d := by
        intro hhead
        obtain ⟨more, rfl⟩ := List.head?_eq_some_iff.mp hhead
        rw [seenAfter, List.dropWhile_cons_of_neg (by simp [hd])] at hseen
        split at hseen
        · next heq => exact hd' (List.cons.inj heq).1
        · cases hseen
      rw [peekAfter_verbose hf, hseen] at h
      rcases h with h | h | h
      · exact absurd hskip h
      · exact absurd h (hhead (by decide) (by decide))
      · exact absurd h (hhead (by decide) (by decide))
  · have hskip : f.skip after = after := by rw [Flags.skip, if_neg hf]
    simp only [peekAfter, List.cons_append, hf, Bool.false_eq_true, if_false, hskip] at h ⊢
    cases after with
    | nil => simp at h
    | cons d more => rfl

omit hz

/-! ### Ranges -/

/-- No range goes on here: there is no hyphen, or one with a closing bracket or a hyphen behind it. -/
def NoRange (f : Flags) (rest : List Char) : Prop :=
  ∀ after, rest = '-' :: after →
    peekAfter f rest = some ']' ∨ peekAfter f rest = some '-'

/-- The range from one item to another, if both are characters. -/
def rangeTo? (f : Flags) (first last : Atom) : Option Part :=
  match first, last with
  | .literal a _, .literal b _ =>
    if a ≤ b && (f.allScripts || b.toNat < 128) then some ⟨.range a b, 0⟩ else none
  | _, _ => none

/-- What is read is an item by itself or a range of two. -/
theorem readRange?_eq_some {f : Flags} {cs rest : List Char} {p : Part} :
    readRange? f cs = some (p, rest) ↔ ∃ first rest₀, readItem? f cs = some (first, rest₀) ∧
      ((f.skip rest₀ = rest ∧ rest ≠ [] ∧ NoRange f rest ∧
          ∃ s, itemSet? f first = some s ∧ p = ⟨s, 0⟩) ∨
        ∃ after last, f.skip rest₀ = '-' :: after ∧ ¬ NoRange f ('-' :: after) ∧
          readItem? f (f.skip after) = some (last, rest) ∧ rangeTo? f first last = some p) := by
  have hitem {first : Atom} {rest₁ : List Char} :
      ((itemSet? f first).bind fun s => pure (Part.mk s 0, rest₁)) = some (p, rest) ↔
        rest₁ = rest ∧ ∃ s, itemSet? f first = some s ∧ p = ⟨s, 0⟩ := by
    cases itemSet? f first <;> simp [eq_comm, and_comm]
  have hrange (first last : Atom) (rest₂ : List Char) :
      (match first, last with
        | .literal a _, .literal b _ =>
          if a ≤ b && (f.allScripts || b.toNat < 128) then pure (Part.mk (.range a b) 0, rest₂)
          else none
        | _, _ => none) = some (p, rest) ↔ rest₂ = rest ∧ rangeTo? f first last = some p := by
    unfold rangeTo?
    split
    · split
      · simp [and_comm]
      · simp
    · simp
  unfold readRange?
  simp only [Option.bind_eq_bind, Option.bind_eq_some_iff, Prod.exists]
  refine exists_congr fun first => exists_congr fun rest₀ => and_congr_right fun _ => ?_
  generalize f.skip rest₀ = rest₁
  split
  · simp +contextual
  · next after =>
    have hcond : (peekAfter f ('-' :: after) = some ']' || peekAfter f ('-' :: after) = some '-') =
        true ↔ NoRange f ('-' :: after) := by
      simp [NoRange]
    by_cases hno : NoRange f ('-' :: after)
    · rw [if_pos (hcond.mpr hno), hitem]
      constructor
      · rintro ⟨rfl, hs⟩
        exact .inl ⟨rfl, List.cons_ne_nil _ _, hno, hs⟩
      · rintro (⟨rfl, -, -, hs⟩ | ⟨after', last, heq, hne, -⟩)
        · exact ⟨rfl, hs⟩
        · exact absurd (heq ▸ hno) hne
    · rw [if_neg (mt hcond.mp hno)]
      simp only [Option.bind_eq_some_iff, Prod.exists]
      constructor
      · rintro ⟨last, rest₂, hlast, h⟩
        obtain ⟨rfl, hp⟩ := (hrange first last rest₂).mp h
        exact .inr ⟨after, last, rfl, hno, hlast, hp⟩
      · rintro (⟨rfl, -, hyes, -⟩ | ⟨after', last, heq, -, hlast, hp⟩)
        · exact absurd hyes hno
        · obtain ⟨-, rfl⟩ := List.cons.inj heq
          exact ⟨last, rest, hlast, (hrange first last rest).mpr ⟨rfl, hp⟩⟩
  · next hnil hhyphen =>
    have hno : NoRange f rest₁ := fun after heq => absurd heq (hhyphen after)
    rw [hitem]
    constructor
    · rintro ⟨rfl, hs⟩
      exact .inl ⟨rfl, hnil, hno, hs⟩
    · rintro (⟨rfl, -, -, hs⟩ | ⟨after, last, heq, -⟩)
      · exact ⟨rfl, hs⟩
      · exact absurd heq (hhyphen after)

theorem readItem?_nil (f : Flags) : readItem? f [] = none := rfl

include hz

theorem NoRange.of_goesOn {f : Flags} {rest rest' : List Char} (hgo : GoesOn tail rest rest')
    (h : NoRange f rest) : NoRange f rest' := by
  rcases hgo with rfl | rfl
  · intro after' heq
    by_cases hhyphen : ∃ after, rest = '-' :: after
    · obtain ⟨after, rfl⟩ := hhyphen
      rw [peekAfter_append hz (.inr (h after rfl))]
      exact h after rfl
    · simp only [not_exists] at hhyphen
      exact absurd heq (hz.append_ne_cons (by decide) hhyphen after')
  · exact h

/-- A range that goes on with a character does so with more behind it. -/
theorem noRange_of_append {f : Flags} {after : List Char} (hafter : f.skip after ≠ [])
    (h : NoRange f ('-' :: after ++ tail)) : NoRange f ('-' :: after) := by
  intro after' _
  rw [← peekAfter_append hz (.inl hafter)]
  exact h _ rfl

theorem readRange?_readsOn (f : Flags) : ReadsOn tail (readRange? f) := by
  intro cs p rest h
  obtain ⟨first, rest₀, hfirst, h⟩ := readRange?_eq_some.mp h
  obtain ⟨rest₀', hfirst', hgo⟩ := readItem?_readsOn hz f cs first rest₀ hfirst
  have hskip := f.goesOn_skip hz hgo
  rcases h with ⟨rfl, hne, hno, hitem⟩ | ⟨after, last, hrest, hyes, hlast, hp⟩
  · have hne' : f.skip rest₀' ≠ [] := by
      rcases hskip with heq | heq
      · simp [heq, hne]
      · rwa [heq]
    exact ⟨_, readRange?_eq_some.mpr ⟨first, rest₀', hfirst',
      .inl ⟨rfl, hne', hno.of_goesOn hz hskip, hitem⟩⟩, hskip⟩
  · rw [hrest] at hskip
    rcases hskip with heq | heq
    · have hafter : f.skip after ≠ [] := by
        intro hnil
        simp [hnil, readItem?_nil] at hlast
      obtain ⟨rest', hlast', hgo'⟩ :=
        (readItem?_readsOn hz f).of_goesOn (f.skip_goesOn hz after) hlast
      exact ⟨rest', readRange?_eq_some.mpr ⟨first, rest₀', hfirst', .inr ⟨after ++ tail, last, heq,
        mt (noRange_of_append hz hafter) hyes, hlast', hp⟩⟩, hgo'⟩
    · exact ⟨rest, readRange?_eq_some.mpr ⟨first, rest₀', hfirst',
        .inr ⟨after, last, heq, hyes, hlast, hp⟩⟩, .inr rfl⟩

omit hz

/-- An item is never the last character of a text. -/
theorem exists_cons_cons_of_readRange? {f : Flags} {cs rest : List Char} {p : Part}
    (h : readRange? f cs = some (p, rest)) : ∃ c d more, cs = c :: d :: more := by
  match cs with
  | [] => cases h
  | [c] =>
    exfalso
    obtain ⟨first, rest₀, hfirst, h⟩ := readRange?_eq_some.mp h
    have hrest : rest₀ = [] := by
      unfold readItem? at hfirst
      split at hfirst
      · cases hfirst
      · next heq =>
        obtain ⟨-, rfl⟩ := List.cons.inj heq
        cases hfirst
      · next heq =>
        obtain ⟨-, rfl⟩ := List.cons.inj heq
        exact (Prod.mk.inj (Option.some.inj hfirst)).2.symm
    have hskip : f.skip ([] : List Char) = [] := by cases f; simp [Flags.skip, Flags.dropBlanks]
    rw [hrest, hskip] at h
    rcases h with ⟨rfl, hne, -⟩ | ⟨after, last, heq, -⟩
    · exact hne rfl
    · cases heq
  | c :: d :: more => exact ⟨c, d, more, rfl⟩

/-! ### Rounds -/

/-- One round of `readLevels?`, from where nothing is ignored: it ends with the set that has been
read, or leaves levels to go on with. -/
def round? (f : Flags) (outer : List Level) (level : Level) (cs : List Char) :
    Option ((Part ⊕ List Level × Level) × List Char) :=
  match cs with
  | [] => none
  | '[' :: rest =>
    match readAsciiClass? rest with
    | some (s, negated, rest) => do
      let s ← foldAndNegate? f negated s
      return (.inr (outer, level.push ⟨s, 0⟩), rest)
    | none => do
      let (inner, rest) ← readOpening? f rest
      return (.inr (level :: outer, inner), rest)
  | ']' :: rest => do
    let p ← level.close? f
    match outer with
    | [] => return (.inl p, rest)
    | parent :: outer => return (.inr (outer, parent.push p), rest)
  | '&' :: '&' :: rest => some (.inr (outer, level.begin f .inter), rest)
  | '-' :: '-' :: rest => some (.inr (outer, level.begin f .diff), rest)
  | '~' :: '~' :: rest => some (.inr (outer, level.begin f .symmDiff), rest)
  | cs => do
    let (p, rest) ← readRange? f cs
    return (.inr (outer, level.push p), rest)

theorem readLevels?_succ (f : Flags) (fuel : Nat) (outer : List Level) (level : Level)
    (cs : List Char) :
    readLevels? f (fuel + 1) outer level cs =
      (round? f outer level (f.skip cs)).bind fun (next, rest) =>
        next.elim (fun p => some (p, rest)) fun (outer, level) =>
          readLevels? f fuel outer level rest := by
  rw [readLevels?]
  generalize f.skip cs = ds
  split
  case h_1 | h_4 | h_5 | h_6 => rfl
  case h_2 rest =>
    rw [round?]
    cases readAsciiClass? rest with
    | none => cases readOpening? f rest <;> rfl
    | some x =>
      obtain ⟨s, negated, rest⟩ := x
      dsimp only
      cases foldAndNegate? f negated s <;> rfl
  case h_3 =>
    rw [round?]
    cases level.close? f with
    | none => rfl
    | some p => cases outer <;> rfl
  case h_7 =>
    rw [round?]
    · cases readRange? f ds <;> rfl
    all_goals assumption

theorem readLevels?_mono {f : Flags} {fuel fuel' : Nat} {outer : List Level} {level : Level}
    {cs rest : List Char} {p : Part} (hfuel : fuel ≤ fuel')
    (h : readLevels? f fuel outer level cs = some (p, rest)) :
    readLevels? f fuel' outer level cs = some (p, rest) := by
  induction fuel generalizing fuel' outer level cs with
  | zero => cases h
  | succ fuel ih =>
    obtain ⟨fuel', rfl⟩ := Nat.exists_eq_add_of_le' (Nat.le_trans (Nat.le_add_left 1 fuel) hfuel)
    rw [readLevels?_succ] at h ⊢
    obtain ⟨⟨next, more⟩, hround, h⟩ := Option.bind_eq_some_iff.mp h
    refine Option.bind_eq_some_iff.mpr ⟨_, hround, ?_⟩
    cases next with
    | inl p => exact h
    | inr levels => exact ih (Nat.le_of_succ_le_succ hfuel) h

include hz

theorem round?_readsOn (f : Flags) (outer : List Level) (level : Level) :
    ReadsOn tail (round? f outer level) := by
  intro cs next rest h
  unfold round? at h
  split at h
  case h_1 => cases h
  case h_2 more =>
    rw [List.cons_append, round?, readAsciiClass?_append hz]
    split at h
    · next s negated rest₀ hclass =>
      simp only [Option.bind_eq_bind, Option.bind_eq_some_iff] at h
      obtain ⟨s', hs, h⟩ := h
      obtain ⟨rfl, rfl⟩ := Prod.mk.inj (Option.some.inj h)
      simp only [hclass, Option.map_some, Option.bind_eq_bind, hs, Option.bind_some]
      exact ⟨_, rfl, .inl rfl⟩
    · next hclass =>
      simp only [Option.bind_eq_bind, Option.bind_eq_some_iff] at h
      obtain ⟨⟨inner, rest₀⟩, hopen, h⟩ := h
      obtain ⟨rfl, rfl⟩ := Prod.mk.inj (Option.some.inj h)
      obtain ⟨rest₀', hopen', hgo⟩ := readOpening?_readsOn hz f more inner rest₀ hopen
      simp only [hclass, Option.map_none, Option.bind_eq_bind, hopen', Option.bind_some]
      exact ⟨_, rfl, hgo⟩
  case h_3 more =>
    rw [List.cons_append, round?]
    simp only [Option.bind_eq_bind, Option.bind_eq_some_iff] at h
    obtain ⟨p', hp, h⟩ := h
    simp only [Option.bind_eq_bind, hp, Option.bind_some]
    cases outer with
    | nil | cons =>
      obtain ⟨rfl, rfl⟩ := Prod.mk.inj (Option.some.inj h)
      exact ⟨_, rfl, .inl rfl⟩
  case h_4 | h_5 | h_6 =>
    obtain ⟨rfl, rfl⟩ := Prod.mk.inj (Option.some.inj h)
    exact ⟨_, rfl, .inl rfl⟩
  case h_7 h₁ h₂ h₃ h₄ h₅ h₆ =>
    simp only [Option.bind_eq_bind, Option.bind_eq_some_iff] at h
    obtain ⟨⟨p', rest₀⟩, hrange, h⟩ := h
    obtain ⟨rfl, rfl⟩ := Prod.mk.inj (Option.some.inj h)
    obtain ⟨rest₀', hrange', hgo⟩ := readRange?_readsOn hz f cs p' rest₀ hrange
    -- The first two characters decide what is read, and they are the same.
    obtain ⟨c, d, more, rfl⟩ := exists_cons_cons_of_readRange? hrange
    rw [List.cons_append, List.cons_append, round?]
    · simp only [List.cons_append] at hrange'
      simp only [hrange', Option.bind_eq_bind, Option.bind_some]
      exact ⟨_, rfl, hgo⟩
    all_goals simp_all

theorem readLevels?_readsOn (f : Flags) (fuel : Nat) (outer : List Level) (level : Level) :
    ReadsOn tail (readLevels? f fuel outer level) := by
  induction fuel generalizing outer level with
  | zero => exact fun cs p rest h => nomatch h
  | succ fuel ih =>
    intro cs p rest h
    rw [readLevels?_succ] at h ⊢
    obtain ⟨⟨next, more⟩, hround, h⟩ := Option.bind_eq_some_iff.mp h
    obtain ⟨more', hround', hgo⟩ :=
      (round?_readsOn hz f outer level).of_goesOn (f.skip_goesOn hz cs) hround
    rw [hround', Option.bind_some]
    cases next with
    | inl p =>
      obtain ⟨rfl, rfl⟩ := Prod.mk.inj (Option.some.inj h)
      exact ⟨more', rfl, hgo⟩
    | inr levels => exact (ih levels.1 levels.2).of_goesOn hgo h

theorem read?_readsOn (f : Flags) : ReadsOn tail (read? f) := by
  intro cs p rest h
  unfold read? at h ⊢
  simp only [Option.bind_eq_bind, Option.bind_eq_some_iff] at h
  obtain ⟨⟨level, rest₀⟩, hopen, h⟩ := h
  obtain ⟨rest₀', hopen', hgo⟩ := readOpening?_readsOn hz f cs level rest₀ hopen
  obtain ⟨rest', hlevels, hgo'⟩ := (readLevels?_readsOn hz f _ [] level).of_goesOn hgo h
  simp only [hopen', Option.bind_eq_bind, Option.bind_some]
  exact ⟨rest', readLevels?_mono (by simp) hlevels, hgo'⟩

end Bracket

end SearchQuery.Pattern
