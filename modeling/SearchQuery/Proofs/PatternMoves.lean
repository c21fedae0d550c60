import SearchQuery.Proofs.BracketText

/-!
# Reading a pattern, move by move

What the reader does with the next item of a pattern falls into two parts: a `Move` is read from the
text, and then it is made (`Reader.readNext?_eq`). The move depends on little:

* not on the flag for dots, which is looked at when the move is made (`Move.read?_withDot`);
* not on what closes the pattern (`Move.read?_readsOn`);
* not on the groups around it.

Where a move can fail, `Reader.make?_openCapture`, `Reader.closeGroup?_eq_some` and
`Reader.repeatLast?_eq_some` say when it does not and what it leaves.
-/

namespace SearchQuery.Pattern

/-! ## The flag for dots -/

/-- The flags with the one for dots set to `b`. -/
def Flags.withDot (f : Flags) (b : Bool) : Flags := { f with dotAll := b }

variable (f : Flags) (b : Bool)

@[simp] theorem Flags.skip_withDot : (f.withDot b).skip = f.skip := rfl
@[simp] theorem Flags.verbose_withDot : (f.withDot b).verbose = f.verbose := rfl
@[simp] theorem Flags.allScripts_withDot : (f.withDot b).allScripts = f.allScripts := rfl

@[simp] theorem Flags.untilBrace_withDot : (f.withDot b).untilBrace = f.untilBrace := by
  funext comment cs taken
  induction cs generalizing comment taken with
  | nil => cases comment <;> rfl
  | cons c cs ih => cases comment <;> simp only [untilBrace, verbose_withDot, ih]

namespace Atom

@[simp] theorem readHex?_withDot : readHex? (f.withDot b) = readHex? f := by
  funext n value cs
  induction n generalizing value cs with
  | zero => rfl
  | succ n ih => cases cs <;> simp only [readHex?, ih, Flags.skip_withDot]

@[simp] theorem readCode?_withDot : readCode? (f.withDot b) = readCode? f := by
  funext width cs
  simp [readCode?]

@[simp] theorem readPropertySet?_withDot : readPropertySet? (f.withDot b) = readPropertySet? f := by
  funext cs
  simp [readPropertySet?]

@[simp] theorem readProperty?_withDot : readProperty? (f.withDot b) = readProperty? f := by
  funext negated cs
  simp only [readProperty?, readPropertySet?_withDot]
  rfl

@[simp] theorem readEdge?_withDot : readEdge? (f.withDot b) = readEdge? f := by
  funext cs
  simp [readEdge?]

@[simp] theorem readEscape?_withDot : readEscape? (f.withDot b) = readEscape? f := by
  funext cs
  cases cs with
  | nil => rfl
  | cons c cs =>
    simp only [readEscape?, readCode?_withDot, readProperty?_withDot, readEdge?_withDot]
    rfl

end Atom

@[simp] theorem readDigits_withDot : readDigits (f.withDot b) = readDigits f := by
  funext fuel cs digits
  induction fuel generalizing cs digits with
  | zero => rfl
  | succ fuel ih => simp only [readDigits, ih, Flags.skip_withDot]

@[simp] theorem readCount?_withDot : readCount? (f.withDot b) = readCount? f := by
  funext cs
  simp only [readCount?, readDigits_withDot]

@[simp] theorem readBounds?_withDot : readBounds? (f.withDot b) = readBounds? f := by
  funext cs
  simp only [readBounds?, readCount?_withDot, Flags.skip_withDot]

namespace Bracket

@[simp] theorem leadingHyphens_withDot : leadingHyphens (f.withDot b) = leadingHyphens f := by
  funext fuel cs items
  induction fuel generalizing cs items with
  | zero => rfl
  | succ fuel ih => simp only [leadingHyphens, ih, Flags.skip_withDot]

@[simp] theorem readOpening?_withDot : readOpening? (f.withDot b) = readOpening? f := by
  funext cs
  simp only [readOpening?, leadingHyphens_withDot, Flags.skip_withDot]

@[simp] theorem readItem?_withDot : readItem? (f.withDot b) = readItem? f := by
  funext cs
  unfold readItem?
  simp only [Atom.readEscape?_withDot]

@[simp] theorem peekAfter_withDot : peekAfter (f.withDot b) = peekAfter f := rfl
@[simp] theorem itemSet?_withDot : itemSet? (f.withDot b) = itemSet? f := rfl
@[simp] theorem foldAndNegate?_withDot : foldAndNegate? (f.withDot b) = foldAndNegate? f := rfl
@[simp] theorem close?_withDot : Level.close? (f.withDot b) = Level.close? f := rfl
@[simp] theorem begin_withDot : Level.begin (f.withDot b) = Level.begin f := rfl

@[simp] theorem readRange?_withDot : readRange? (f.withDot b) = readRange? f := by
  funext cs
  simp only [readRange?, readItem?_withDot, itemSet?_withDot, peekAfter_withDot, Flags.skip_withDot,
    Flags.allScripts_withDot]
  rfl

@[simp] theorem readLevels?_withDot : readLevels? (f.withDot b) = readLevels? f := by
  funext fuel outer level cs
  induction fuel generalizing outer level cs with
  | zero => rfl
  | succ fuel ih =>
    simp only [readLevels?, ih, Flags.skip_withDot, readOpening?_withDot, readRange?_withDot,
      begin_withDot, close?_withDot, foldAndNegate?_withDot]

@[simp] theorem read?_withDot : read? (f.withDot b) = read? f := by
  funext cs
  simp only [read?, readOpening?_withDot, readLevels?_withDot]

end Bracket

/-! ## Moves -/

/-- What the next item of a pattern does to the state of reading. -/
inductive Move where
  | push (p : Piece)
  | dot
  /-- Sets flags up to the end of the enclosing group. -/
  | set (changes : List (Flag × Bool))
  | openGroup (changes : List (Flag × Bool))
  | openCapture (name : Option (List Char))
  | closeGroup
  | branch
  | repeatLast (min : Nat) (max : Option Nat) (greedy : Bool)

/-- Makes a move. -/
def Reader.make? (r : Reader) : Move → Option Reader
  | .push p => some (r.push p)
  | .dot => some (r.push ⟨.one r.flags.dotSet, 0, false⟩)
  | .set changes => some ({ r with flags := r.flags.setAll changes }.push ⟨.empty, 0, true⟩)
  | .openGroup changes => some (r.openGroup none (r.flags.setAll changes))
  | .openCapture none => some r.openCapture
  | .openCapture (some name) =>
    if r.names.contains name then none else some { r.openCapture with names := name :: r.names }
  | .closeGroup => r.closeGroup?
  | .branch => some r.branch
  | .repeatLast min max greedy => r.repeatLast? min max greedy

namespace Move

/-- The move of a single item. -/
def ofAtom? (f : Flags) : Atom → Option Move
  | .literal c byte =>
    if byte && !f.allScripts && 128 ≤ c.toNat then none
    else some (.push ⟨.one (f.literalSet c), 0, false⟩)
  | .set s => some (.push ⟨.one s, 0, false⟩)
  | .anchor a => some (.push ⟨.anchor a, 0, false⟩)

/-- A repetition with the mark that may follow its sign. -/
def marked (min : Nat) (max : Option Nat) (cs : List Char) : Move × List Char :=
  (.repeatLast min max (readLazy cs).1, (readLazy cs).2)

/-- Reads the name of a group that captures. -/
def readNamed? (cs : List Char) : Option (Move × List Char) :=
  (readName? cs).map fun (name, rest) => (.openCapture (some name), rest)

/-- Reads flags, which are set for a group or for the rest of the enclosing one. -/
def readFlags? (cs : List Char) : Option (Move × List Char) := do
  let (changes, last, rest) ← Flags.read? cs [] false false
  if last = ':' then return (.openGroup changes, rest)
  else if changes.isEmpty then none
  else return (.set changes, rest)

/-- Reads the beginning of a group, from where nothing is ignored. -/
def readOpening? (cs : List Char) : Option (Move × List Char) :=
  match cs with
  | '?' :: '=' :: _ | '?' :: '!' :: _ => none
  | '?' :: '<' :: '=' :: _ | '?' :: '<' :: '!' :: _ => none
  | '?' :: 'P' :: '<' :: rest => readNamed? rest
  | '?' :: '<' :: rest => readNamed? rest
  | '?' :: rest => readFlags? rest
  | cs => some (.openCapture none, cs)

/-- Reads the move of the next item, which begins with `c`. -/
def read? (f : Flags) (c : Char) (cs : List Char) : Option (Move × List Char) :=
  match c with
  | '(' => readOpening? (f.skip cs)
  | ')' => some (.closeGroup, cs)
  | '|' => some (.branch, cs)
  | '[' => (Bracket.read? f cs).map fun (part, rest) =>
      (.push ⟨.one part.set, part.depth, false⟩, rest)
  | '?' => some (marked 0 (some 1) cs)
  | '*' => some (marked 0 none cs)
  | '+' => some (marked 1 none cs)
  | '\x7b' => (readBounds? f cs).map fun (min, max, rest) => marked min max (f.skip rest)
  | '\\' => do
    let (a, rest) ← Atom.readEscape? f cs
    (ofAtom? f a).map (·, rest)
  | '.' => if f.allScripts then some (.dot, cs) else none
  | '^' => some (.push ⟨.anchor (Reader.caret f), 0, false⟩, cs)
  | '$' => some (.push ⟨.anchor (Reader.dollar f), 0, false⟩, cs)
  | c => (ofAtom? f (.literal c false)).map (·, cs)

end Move

namespace Reader

theorem pushAtom?_eq (r : Reader) (a : Atom) :
    r.pushAtom? a = (Move.ofAtom? r.flags a).bind r.make? := by
  cases a with
  | literal c byte =>
    simp only [pushAtom?, Move.ofAtom?]
    split <;> rfl
  | set s | anchor a => rfl

theorem openNamed?_eq (r : Reader) (cs : List Char) :
    r.openNamed? cs = (Move.readNamed? cs).bind fun (m, rest) => (r.make? m).map (·, rest) := by
  unfold openNamed? Move.readNamed?
  cases readName? cs with
  | none => rfl
  | some x =>
    simp only [Option.bind_eq_bind, Option.bind_some, Option.map_some, make?]
    split <;> rfl

theorem readGroup?_eq (r : Reader) (cs : List Char) :
    r.readGroup? cs =
      (Move.readOpening? (r.flags.skip cs)).bind fun (m, rest) => (r.make? m).map (·, rest) := by
  unfold readGroup?
  generalize r.flags.skip cs = ds
  split
  case h_1 | h_2 | h_3 | h_4 => rfl
  case h_5 rest => exact openNamed?_eq r rest
  case h_6 rest h₁ h₂ =>
    rw [Move.readOpening?]
    · exact openNamed?_eq r rest
    · exact h₁
    · exact h₂
  case h_7 rest h₁ h₂ h₃ h₄ h₅ h₆ =>
    rw [Move.readOpening?]
    · unfold Move.readFlags?
      cases Flags.read? rest [] false false with
      | none => rfl
      | some x =>
        obtain ⟨changes, last, rest'⟩ := x
        simp only [Option.bind_eq_bind, Option.bind_some]
        split
        · rfl
        · split <;> rfl
    all_goals assumption
  case h_8 =>
    rw [Move.readOpening?]
    · rfl
    all_goals assumption

/-- **The reader makes the move of the next item.** -/
theorem readNext?_eq (r : Reader) (c : Char) (cs : List Char) :
    r.readNext? c cs =
      (Move.read? r.flags c cs).bind fun (m, rest) => (r.make? m).map (·, rest) := by
  unfold readNext?
  split
  case h_1 => exact readGroup?_eq r cs
  case h_2 => rfl
  case h_3 => rfl
  case h_4 =>
    simp only [Move.read?]
    cases Bracket.read? r.flags cs <;> rfl
  case h_5 | h_6 | h_7 => rfl
  case h_8 =>
    simp only [Move.read?]
    cases readBounds? r.flags cs <;> rfl
  case h_9 =>
    simp only [Move.read?]
    cases Atom.readEscape? r.flags cs with
    | none => rfl
    | some x =>
      simp only [Option.bind_eq_bind, Option.bind_some, pushAtom?_eq]
      cases Move.ofAtom? r.flags x.1 with
      | none => rfl
      | some m => simp only [Option.bind_some, Option.map_some]; cases r.make? m <;> rfl
  case h_10 =>
    simp only [Move.read?]
    split <;> rfl
  case h_11 | h_12 => rfl
  case h_13 =>
    rw [Move.read?]
    · rw [pushAtom?_eq]
      cases Move.ofAtom? r.flags (.literal c false) <;> rfl
    all_goals assumption

theorem readNext?_eq_some {r r₁ : Reader} {c : Char} {cs rest : List Char} :
    r.readNext? c cs = some (r₁, rest) ↔
      ∃ m, Move.read? r.flags c cs = some (m, rest) ∧ r.make? m = some r₁ := by
  rw [readNext?_eq]
  constructor
  · intro h
    obtain ⟨⟨m, rest'⟩, hread, h⟩ := Option.bind_eq_some_iff.mp h
    obtain ⟨r', hmake, hpure⟩ := Option.map_eq_some_iff.mp h
    obtain ⟨rfl, rfl⟩ := Prod.mk.inj hpure
    exact ⟨m, hread, hmake⟩
  · rintro ⟨m, hread, hmake⟩
    simp only [hread, Option.bind_some, hmake, Option.map_some]

/-! ### Moves that can fail -/

theorem make?_openCapture {r r' : Reader} {name : Option (List Char)} :
    r.make? (.openCapture name) = some r' ↔ (∀ n ∈ name, n ∉ r.names) ∧
      r' = { r.openCapture with names := name.toList ++ r.names } := by
  cases name with
  | none => simp [make?, eq_comm, openCapture, openGroup]
  | some name =>
    simp only [make?]
    split <;> simp_all [eq_comm]

theorem closeGroup?_eq_some {r r' : Reader} :
    r.closeGroup? = some r' ↔ ∃ frame outer, r.outer = frame :: outer ∧
      r' = { r with
        flags := frame.flags
        branches := frame.branches
        items := ⟨frame.index.elim r.inner.pattern (.group · r.inner.pattern), 1 + r.inner.depth,
          false⟩ :: frame.items
        outer := outer } := by
  unfold closeGroup?
  constructor
  · intro h
    split at h
    · cases h
    · next frame outer houter =>
      obtain rfl := Option.some.inj h
      refine ⟨frame, outer, houter, ?_⟩
      cases frame.index <;> rfl
  · rintro ⟨⟨index, flags, branches, items⟩, outer, houter, rfl⟩
    rw [houter]
    cases index <;> rfl

theorem repeatLast?_eq_some {r r' : Reader} {min : Nat} {max : Option Nat} {greedy : Bool} :
    r.repeatLast? min max greedy = some r' ↔ ∃ p items, r.items = p :: items ∧
      p.isSetting = false ∧
      r' = { r with items := p.repeated min max (greedy != r.flags.swapGreed) :: items } := by
  unfold repeatLast?
  constructor
  · intro h
    split at h
    · next p items hitems =>
      split at h
      · cases h
      · next hsetting =>
        obtain rfl := Option.some.inj h
        exact ⟨p, items, hitems, by simpa using hsetting, rfl⟩
    · cases h
  · rintro ⟨p, items, hitems, hsetting, rfl⟩
    rw [hitems]
    exact if_neg (by simp [hsetting])

end Reader

namespace Move

/-- **Only the dot looks at the flag for dots.** -/
@[simp] theorem read?_withDot (f : Flags) (b : Bool) : read? (f.withDot b) = read? f := by
  funext c cs
  simp only [read?, Flags.skip_withDot, Bracket.read?_withDot, readBounds?_withDot,
    Atom.readEscape?_withDot, Flags.allScripts_withDot]
  rfl

variable {tail : List Char}

theorem readNamed?_append {cs rest : List Char} {m : Move} (h : readNamed? cs = some (m, rest))
    (tail : List Char) : readNamed? (cs ++ tail) = some (m, rest ++ tail) := by
  obtain ⟨⟨name, rest₀⟩, hname, hpure⟩ := Option.map_eq_some_iff.mp h
  obtain ⟨rfl, rfl⟩ := Prod.mk.inj hpure
  rw [readNamed?, readName?_append hname tail]
  rfl

theorem readFlags?_append {cs rest : List Char} {m : Move} (h : readFlags? cs = some (m, rest))
    (tail : List Char) : readFlags? (cs ++ tail) = some (m, rest ++ tail) := by
  unfold readFlags? at h ⊢
  simp only [Option.bind_eq_bind, Option.bind_eq_some_iff] at h
  obtain ⟨⟨changes, last, rest₀⟩, hflags, h⟩ := h
  simp only [Option.bind_eq_bind, Flags.read?_append hflags tail, Option.bind_some]
  split at h
  · next hlast =>
    obtain ⟨rfl, rfl⟩ := Prod.mk.inj (Option.some.inj h)
    rw [if_pos hlast]
    rfl
  · next hlast =>
    rw [if_neg hlast]
    split at h
    · cases h
    · next hempty =>
      obtain ⟨rfl, rfl⟩ := Prod.mk.inj (Option.some.inj h)
      rw [if_neg hempty]
      rfl

/-- Flags begin with nothing that could begin something else. -/
theorem exists_cons_of_readFlags? {cs rest : List Char} {m : Move}
    (h : readFlags? cs = some (m, rest)) :
    ∃ c more, cs = c :: more ∧ c ≠ '=' ∧ c ≠ '!' ∧ c ≠ '<' ∧ c ≠ 'P' := by
  cases cs with
  | nil => cases h
  | cons c more =>
    refine ⟨c, more, rfl, ?_, ?_, ?_, ?_⟩ <;> rintro rfl <;> cases h

theorem readOpening?_of_ne {cs : List Char} (h : ∀ more, cs ≠ '?' :: more) :
    readOpening? cs = some (.openCapture none, cs) := by
  rw [readOpening?] <;> exact fun _ heq => h _ heq

theorem readOpening?_readsOn (hz : Closing tail) : ReadsOn tail readOpening? := by
  intro cs m rest h
  unfold readOpening? at h
  split at h
  case h_1 | h_2 | h_3 | h_4 => cases h
  case h_5 more => exact ⟨_, readNamed?_append h tail, .inl rfl⟩
  case h_6 more h₁ h₂ =>
    cases more with
    | nil => cases h
    | cons c more =>
      refine ⟨_, ?_, .inl rfl⟩
      rw [List.cons_append, List.cons_append, List.cons_append, readOpening?]
      · exact readNamed?_append h tail
      · exact fun _ heq => h₁ more (by rw [(List.cons.inj heq).1])
      · exact fun _ heq => h₂ more (by rw [(List.cons.inj heq).1])
  case h_7 more _ _ _ _ _ _ =>
    obtain ⟨c, more, rfl, h₁, h₂, h₃, h₄⟩ := exists_cons_of_readFlags? h
    refine ⟨_, ?_, .inl rfl⟩
    rw [List.cons_append, List.cons_append, readOpening?]
    · exact readFlags?_append h tail
    all_goals simp [h₁, h₂, h₃, h₄]
  case h_8 _ _ _ _ _ _ hne =>
    obtain ⟨rfl, rfl⟩ := Prod.mk.inj (Option.some.inj h)
    exact ⟨_, readOpening?_of_ne (hz.append_ne_cons (by decide) fun more heq => hne more heq),
      .inl rfl⟩

theorem marked_readsOn (hz : Closing tail) (min : Nat) (max : Option Nat) :
    ReadsOn tail fun cs => some (marked min max cs) := by
  intro cs m rest h
  obtain ⟨rfl, rfl⟩ := Prod.mk.inj (Option.some.inj h)
  obtain ⟨hlazy, hgo⟩ := readLazy_goesOn hz (.inl (Eq.refl (cs ++ tail)))
  exact ⟨_, by simp only [marked, hlazy], hgo⟩

/-- **A move is the same when a closing text follows.** -/
theorem read?_readsOn (hz : Closing tail) (f : Flags) (c : Char) : ReadsOn tail (read? f c) := by
  intro cs m rest h
  unfold read? at h ⊢
  split at h
  case h_1 => exact (readOpening?_readsOn hz).of_goesOn (f.skip_goesOn hz cs) h
  case h_4 =>
    obtain ⟨⟨part, rest₀⟩, hpart, hpure⟩ := Option.map_eq_some_iff.mp h
    obtain ⟨rfl, rfl⟩ := Prod.mk.inj hpure
    obtain ⟨rest', hpart', hgo⟩ := Bracket.read?_readsOn hz f cs part rest₀ hpart
    simp only [hpart', Option.map_some]
    exact ⟨rest', rfl, hgo⟩
  case h_5 | h_6 | h_7 => exact marked_readsOn hz _ _ cs m rest h
  case h_8 =>
    obtain ⟨⟨min, max, rest₀⟩, hbounds, hmarked⟩ := Option.map_eq_some_iff.mp h
    obtain ⟨rest₀', hbounds', hgo⟩ := readBounds?_goesOn hz hbounds
    simp only [hbounds', Option.map_some]
    exact (marked_readsOn hz min max).of_goesOn (f.goesOn_skip hz hgo) (congrArg some hmarked)
  case h_9 =>
    simp only [Option.bind_eq_bind, Option.bind_eq_some_iff] at h
    obtain ⟨⟨a, rest₀⟩, hescape, h⟩ := h
    obtain ⟨m', hatom, hpure⟩ := Option.map_eq_some_iff.mp h
    obtain ⟨rfl, rfl⟩ := Prod.mk.inj hpure
    obtain ⟨rest', hescape', hgo⟩ := Atom.readEscape?_readsOn hz f cs a rest₀ hescape
    simp only [hescape', Option.bind_eq_bind, Option.bind_some, hatom, Option.map_some]
    exact ⟨rest', rfl, hgo⟩
  case h_10 =>
    split at h
    · next hall =>
      obtain ⟨rfl, rfl⟩ := Prod.mk.inj (Option.some.inj h)
      exact ⟨_, by rw [if_pos hall], .inl rfl⟩
    · cases h
  case h_13 =>
    obtain ⟨m', hatom, hpure⟩ := Option.map_eq_some_iff.mp h
    obtain ⟨rfl, rfl⟩ := Prod.mk.inj hpure
    exact ⟨_, by rw [hatom]; rfl, .inl rfl⟩
  all_goals
    obtain ⟨rfl, rfl⟩ := Prod.mk.inj (Option.some.inj h)
    exact ⟨_, rfl, .inl rfl⟩

end Move

end SearchQuery.Pattern
