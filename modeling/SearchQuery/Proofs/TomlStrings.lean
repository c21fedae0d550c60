import Mathlib.Data.List.Basic
import SearchQuery.Toml.Writer

/-!
# Strings in TOML, written and read

A string is written in one of four forms, and every form is read back as it was
(`readString?_writeString`).

* An escape is read as the character that it was written for (`readEscape?_of_escape?`).
* On one line, one round of reading takes what was written for one character (`readBasic?_flatMap`,
  `readLiteral?_append`).
* Over several lines, a string must not end early: at no point before its end do more than two of its
  quotes stand in a row, and those at its very end are told from the closing ones
  (`closing?_of_few`, `closing?_at_end`).
-/

namespace SearchQuery.Toml

open Text

/-! ## Escapes -/

theorem hexValue?_hexDigit : ∀ n < 16, hexValue? (hexDigit n) = some n := by decide

theorem toNat_le_of_isControl {c : Char} (h : isControl c = true) : c.toNat ≤ 127 := by
  simp only [isControl, Bool.or_eq_true, Bool.and_eq_true, decide_eq_true_eq] at h
  rcases h with ⟨hlt, -⟩ | rfl
  · omega
  · decide

/-- A control character is read back from its code. -/
theorem readEscape?_code {c : Char} (h : isControl c = true) (rest : List Char) :
    readEscape? ('u' :: '0' :: '0' :: hexDigit (c.toNat / 16) :: hexDigit (c.toNat % 16) :: rest) =
      some (c, rest) := by
  have hle := toNat_le_of_isControl h
  have hhigh : hexValue? (hexDigit (c.toNat / 16)) = some (c.toNat / 16) :=
    hexValue?_hexDigit _ (by omega)
  have hlow : hexValue? (hexDigit (c.toNat % 16)) = some (c.toNat % 16) :=
    hexValue?_hexDigit _ (by omega)
  have hzero : hexValue? '0' = some 0 := by decide
  have hcode : 16 * (c.toNat / 16) + c.toNat % 16 = c.toNat := Nat.div_add_mod _ _
  have hvalid : c.toNat.isValidChar := c.valid
  have hlen : ¬ ('0' :: '0' :: hexDigit (c.toNat / 16) :: hexDigit (c.toNat % 16) :: rest).length < 4 := by
    simp only [List.length_cons]
    omega
  simp only [readEscape?, readCode?, if_neg hlen]
  simp [hzero, hhigh, hlow, hcode, hvalid, List.foldlM]

/-- The characters that a backslash at the end of a line may stand before. -/
def foldedChars : List Char := [' ', '\t', '\n', '\r']

/-- **An escape is read as the character that it was written for.** -/
theorem readEscape?_of_escape? {c : Char} {e : List Char} (h : escape? c = some e) :
    ∃ d e', e = '\\' :: d :: e' ∧ d ∉ foldedChars ∧
      ∀ rest, readEscape? (d :: e' ++ rest) = some (c, rest) := by
  unfold escape? at h
  split at h
  · next hc => exact ⟨'b', [], (Option.some.inj h).symm, by decide, fun rest => by rw [hc]; rfl⟩
  split at h
  · next hc => exact ⟨'t', [], (Option.some.inj h).symm, by decide, fun rest => by rw [hc]; rfl⟩
  split at h
  · next hc => exact ⟨'f', [], (Option.some.inj h).symm, by decide, fun rest => by rw [hc]; rfl⟩
  split at h
  · next hc => exact ⟨'r', [], (Option.some.inj h).symm, by decide, fun rest => by rw [hc]; rfl⟩
  split at h
  · next hc => exact ⟨'\\', [], (Option.some.inj h).symm, by decide, fun rest => by rw [hc]; rfl⟩
  split at h
  · next hcode =>
    have hcontrol : isControl c = true := by
      simp only [needsCode, Bool.and_eq_true] at hcode
      exact hcode.1
    exact ⟨'u', _, (Option.some.inj h).symm, by decide, readEscape?_code hcontrol⟩
  · cases h

theorem of_escape?_eq_none {c : Char} (h : escape? c = none) :
    c ≠ '\\' ∧ c ≠ '\r' ∧ needsCode c = false := by
  refine ⟨?_, ?_, ?_⟩
  · rintro rfl
    simp [escape?] at h
  · rintro rfl
    simp [escape?] at h
  · by_contra hcode
    rw [Bool.not_eq_false] at hcode
    unfold escape? at h
    simp only [hcode, if_true] at h
    repeat' split at h
    all_goals cases h

theorem isControl_of_needsCode {c : Char} (h : needsCode c = false) (hn : c ≠ '\n') :
    isControl c = false := by
  simpa [needsCode, hn] using h

/-! ## Strings on one line -/

theorem readBasic?_escape {c : Char} {e : List Char}
    (h : ∀ rest, readEscape? (e ++ rest) = some (c, rest)) (n : Nat) (rest taken : List Char) :
    readBasic? (n + 1) ('\\' :: e ++ rest) taken = readBasic? n rest (c :: taken) := by
  rw [List.cons_append, readBasic?]
  simp [h]

theorem readBasic?_plain {c : Char} (hq : c ≠ '"') (hb : c ≠ '\\') (hc : isControl c = false)
    (n : Nat) (rest taken : List Char) :
    readBasic? (n + 1) (c :: rest) taken = readBasic? n rest (c :: taken) := by
  rw [readBasic?]
  · simp [hc]
  · exact hq
  · exact hb

/-- One round takes what is written for one character. -/
theorem readBasic?_basicChar (c : Char) (n : Nat) (rest taken : List Char) :
    readBasic? (n + 1) (basicChar c ++ rest) taken = readBasic? n rest (c :: taken) := by
  unfold basicChar
  split
  · next hc => exact readBasic?_escape (e := ['n']) (fun rest => by rw [hc]; rfl) n rest taken
  · next hn =>
    split
    · next hc => exact readBasic?_escape (e := ['"']) (fun rest => by rw [hc]; rfl) n rest taken
    · next hq =>
      cases he : escape? c with
      | some e =>
        obtain ⟨d, e', rfl, -, hread⟩ := readEscape?_of_escape? he
        exact readBasic?_escape hread n rest taken
      | none =>
        obtain ⟨hb, -, hcode⟩ := of_escape?_eq_none he
        exact readBasic?_plain hq hb (isControl_of_needsCode hcode hn) n rest taken

theorem readBasic?_flatMap {cs : List Char} {n : Nat} (hn : cs.length < n) (rest taken : List Char) :
    readBasic? n (cs.flatMap basicChar ++ '"' :: rest) taken =
      some (String.ofList (taken.reverse ++ cs), rest) := by
  induction cs generalizing n taken with
  | nil =>
    obtain ⟨n, rfl⟩ := Nat.exists_eq_succ_of_ne_zero (Nat.ne_zero_of_lt hn)
    simp [readBasic?]
  | cons c cs ih =>
    obtain ⟨n, rfl⟩ := Nat.exists_eq_succ_of_ne_zero (Nat.ne_zero_of_lt hn)
    rw [List.flatMap_cons, List.append_assoc, Nat.succ_eq_add_one, readBasic?_basicChar,
      ih (Nat.lt_of_succ_lt_succ hn), List.reverse_cons, List.append_assoc, List.singleton_append]

theorem readLiteral?_append {cs : List Char} (hq : '\'' ∉ cs)
    (hc : ∀ c ∈ cs, isControl c = false) (rest taken : List Char) :
    readLiteral? (cs ++ '\'' :: rest) taken =
      some (String.ofList (taken.reverse ++ cs), rest) := by
  induction cs generalizing taken with
  | nil => simp [readLiteral?]
  | cons c cs ih =>
    have hne : c ≠ '\'' := fun h => hq (h ▸ List.mem_cons_self ..)
    rw [List.cons_append, readLiteral?, if_neg (by simp [hc c (List.mem_cons_self ..)]),
      ih (fun h => hq (List.mem_cons_of_mem c h)) (fun d hd => hc d (List.mem_cons_of_mem c hd)),
      List.reverse_cons, List.append_assoc, List.singleton_append]
    exact hne

/-! ## Rows of quotes -/

theorem takeWhile_replicate_append {q c : Char} (hc : c ≠ q) (k : Nat) (more : List Char) :
    (List.replicate k q ++ c :: more).takeWhile (· = q) = List.replicate k q := by
  rw [List.takeWhile_append_of_pos (by simp +contextual), List.takeWhile_cons_of_neg (by simpa using hc),
    List.append_nil]

/-- Few quotes in a row do not end a string. -/
theorem closing?_of_few {q c : Char} (hc : c ≠ q) {k : Nat} (hk : k < 3) (more : List Char) :
    closing? q (List.replicate k q ++ c :: more) = none := by
  rw [closing?, takeWhile_replicate_append hc, List.length_replicate, if_pos hk]

/-- The quotes in front of the closing ones belong to the string. -/
theorem closing?_at_end {q c : Char} (hc : c ≠ q) {k : Nat} (hk : k ≤ 2) (more : List Char) :
    closing? q (List.replicate k q ++ q :: q :: q :: c :: more) =
      some (List.replicate k q, c :: more) := by
  have hrow : List.replicate k q ++ q :: q :: q :: c :: more =
      List.replicate (k + 3) q ++ c :: more := by
    rw [List.replicate_add, List.append_assoc]
    rfl
  have hmin : Nat.min (k + 3 - 3) 2 = k := Nat.min_eq_left (by omega)
  have hdrop : (List.replicate (k + 3) q ++ c :: more).drop (k + 3) = c :: more :=
    List.drop_left' (List.length_replicate ..)
  simp only [hrow, closing?, takeWhile_replicate_append hc, List.length_replicate, hmin, hdrop]
  exact if_neg (by omega)

/-- A text that goes on with few quotes in a row: up to its end, or up to another character. `row`
counts the quotes in front. -/
def FewQuotes (q : Char) (row : Nat) (cs : List Char) : Prop :=
  (∃ k, k + row ≤ 2 ∧ cs = List.replicate k q) ∨
    ∃ k c more, k + row ≤ 2 ∧ c ≠ q ∧ cs = List.replicate k q ++ c :: more

theorem fewQuotes_nil {q : Char} {row : Nat} (h : row ≤ 2) : FewQuotes q row [] :=
  .inl ⟨0, by omega, rfl⟩

theorem fewQuotes_other {q c : Char} (hc : c ≠ q) {row : Nat} (h : row ≤ 2) (cs : List Char) :
    FewQuotes q row (c :: cs) :=
  .inr ⟨0, c, cs, by omega, hc, rfl⟩

theorem FewQuotes.cons {q : Char} {row : Nat} {cs : List Char} (h : FewQuotes q (row + 1) cs) :
    FewQuotes q row (q :: cs) := by
  rcases h with ⟨k, hk, rfl⟩ | ⟨k, c, more, hk, hc, rfl⟩
  · exact .inl ⟨k + 1, by omega, rfl⟩
  · exact .inr ⟨k + 1, c, more, by omega, hc, rfl⟩

/-- Before its end, a text with few quotes in a row does not end a string. At its end it does, and
the quotes that are left of it belong to the string. -/
theorem closing?_of_fewQuotes {q : Char} {cs : List Char} (h : FewQuotes q 0 cs) {c : Char}
    (hc : c ≠ q) (rest : List Char) :
    (closing? q (cs ++ q :: q :: q :: c :: rest) = none ∧ cs ≠ []) ∨
      closing? q (cs ++ q :: q :: q :: c :: rest) = some (cs, c :: rest) := by
  rcases h with ⟨k, hk, rfl⟩ | ⟨k, d, more, hk, hd, rfl⟩
  · exact .inr (closing?_at_end hc (by omega) rest)
  · refine .inl ⟨?_, by simp⟩
    rw [List.append_assoc, List.cons_append]
    exact closing?_of_few hd (by omega) _

/-! ## Strings over several lines -/

theorem dropFirstBreak_of_ne {c : Char} (hn : c ≠ '\n') (hr : c ≠ '\r') (cs : List Char) :
    dropFirstBreak (c :: cs) = c :: cs := by
  rw [dropFirstBreak, lineBreak?]
  · rfl
  · rintro rest heq
    exact hn (List.cons.inj heq).1
  · rintro rest heq
    exact hr (List.cons.inj heq).1

theorem longestRow_le_of_le {q : Char} {row row' : Nat} (h : row ≤ row') (cs : List Char) :
    longestRow q row cs ≤ longestRow q row' cs := by
  induction cs generalizing row row' with
  | nil => exact h
  | cons c cs ih =>
    unfold longestRow
    split
    · exact ih (Nat.succ_le_succ h)
    · exact Nat.max_le.mpr ⟨Nat.le_trans h (Nat.le_max_left ..), Nat.le_max_right ..⟩

theorem fewQuotes_of_longestRow {q : Char} {row : Nat} {cs : List Char}
    (h : longestRow q row cs ≤ 2) : FewQuotes q row cs := by
  induction cs generalizing row with
  | nil => exact fewQuotes_nil h
  | cons c cs ih =>
    unfold longestRow at h
    split at h
    · next hc => exact hc ▸ (ih h).cons
    · next hc => exact fewQuotes_other hc (Nat.le_trans (Nat.le_max_left ..) h) cs

theorem longestRow_tail {q c : Char} {cs : List Char} (h : longestRow q 0 (c :: cs) ≤ 2) :
    longestRow q 0 cs ≤ 2 := by
  unfold longestRow at h
  split at h
  · exact Nat.le_trans (longestRow_le_of_le (Nat.zero_le _) cs) h
  · exact Nat.le_trans (Nat.le_max_right ..) h

theorem readLiteralLines?_close {cs own rest : List Char} (h : closing? '\'' cs = some (own, rest))
    (n : Nat) (taken : List Char) :
    readLiteralLines? (n + 1) cs taken = some (String.ofList (taken.reverse ++ own), rest) := by
  unfold readLiteralLines?
  simp only [h]

theorem readLiteralLines?_plain {c : Char} {cs : List Char} (h : closing? '\'' (c :: cs) = none)
    (hcode : needsCode c = false) (n : Nat) (taken : List Char) :
    readLiteralLines? (n + 1) (c :: cs) taken = readLiteralLines? n cs (c :: taken) := by
  by_cases hn : c = '\n'
  · subst hn
    rw [readLiteralLines?, h]
  · have hr : c ≠ '\r' := by
      rintro rfl
      simp [needsCode, isControl] at hcode
    rw [readLiteralLines?, h]
    · simp only [isControl_of_needsCode hcode hn]
      rfl
    · exact hn
    · exact fun _ heq => absurd heq hr

theorem readLiteralLines?_append {cs : List Char} (hrow : longestRow '\'' 0 cs ≤ 2)
    (hcode : ∀ c ∈ cs, needsCode c = false) {n : Nat} (hn : cs.length < n)
    (rest taken : List Char) :
    readLiteralLines? n (cs ++ '\'' :: '\'' :: '\'' :: '\n' :: rest) taken =
      some (String.ofList (taken.reverse ++ cs), '\n' :: rest) := by
  induction cs generalizing n taken with
  | nil =>
    obtain ⟨n, rfl⟩ := Nat.exists_eq_succ_of_ne_zero (Nat.ne_zero_of_lt hn)
    exact readLiteralLines?_close (closing?_at_end (k := 0) (by decide) (by decide) rest) n taken
  | cons c cs ih =>
    obtain ⟨n, rfl⟩ := Nat.exists_eq_succ_of_ne_zero (Nat.ne_zero_of_lt hn)
    rcases closing?_of_fewQuotes (fewQuotes_of_longestRow hrow) (show '\n' ≠ '\'' by decide) rest
      with ⟨hclose, -⟩ | hclose
    · rw [List.cons_append] at hclose ⊢
      rw [Nat.succ_eq_add_one, readLiteralLines?_plain hclose (hcode c (List.mem_cons_self ..)),
        ih (longestRow_tail hrow) (fun d hd => hcode d (List.mem_cons_of_mem c hd))
          (Nat.lt_of_succ_lt_succ hn),
        List.reverse_cons, List.append_assoc, List.singleton_append]
    · exact readLiteralLines?_close hclose n taken

/-- What is written between three double quotes never has more than two quotes in a row. -/
theorem fewQuotes_basicLinesChars {row : Nat} (h : row ≤ 2) (cs : List Char) :
    (∃ k, k + row ≤ 2 ∧ cs = List.replicate k '"' ∧ basicLinesChars row cs = cs) ∨
      ∃ k c more, k + row ≤ 2 ∧ c ≠ '"' ∧
        basicLinesChars row cs = List.replicate k '"' ++ c :: more := by
  induction cs generalizing row with
  | nil => exact .inl ⟨0, by omega, rfl, rfl⟩
  | cons c cs ih =>
    unfold basicLinesChars
    by_cases hq : c = '"'
    · rw [if_pos hq]
      split
      · exact .inr ⟨0, '\\', _, by omega, by decide, rfl⟩
      · rcases @ih (row + 1) (by omega) with ⟨k, hk, hcs, heq⟩ | ⟨k, d, more, hk, hd, heq⟩
        · exact .inl ⟨k + 1, by omega, by rw [hq, hcs]; rfl, by rw [heq, hq]⟩
        · exact .inr ⟨k + 1, d, more, by omega, hd, by rw [heq]; rfl⟩
    · rw [if_neg hq]
      cases he : escape? c with
      | some e =>
        obtain ⟨d, e', rfl, -, -⟩ := readEscape?_of_escape? he
        exact .inr ⟨0, '\\', _, by omega, by decide, rfl⟩
      | none => exact .inr ⟨0, c, _, by omega, hq, rfl⟩

theorem readBasicLines?_close {cs own rest : List Char} (h : closing? '"' cs = some (own, rest))
    (n : Nat) (taken : List Char) :
    readBasicLines? (n + 1) cs taken = some (String.ofList (taken.reverse ++ own), rest) := by
  unfold readBasicLines?
  simp only [h]

theorem readBasicLines?_plain {c : Char} {cs : List Char} (h : closing? '"' (c :: cs) = none)
    (hb : c ≠ '\\') (hr : c ≠ '\r') (hcode : needsCode c = false) (n : Nat) (taken : List Char) :
    readBasicLines? (n + 1) (c :: cs) taken = readBasicLines? n cs (c :: taken) := by
  by_cases hn : c = '\n'
  · subst hn
    rw [readBasicLines?, h]
  · rw [readBasicLines?, h]
    · simp only [isControl_of_needsCode hcode hn]
      rfl
    · exact hb
    · exact hn
    · exact fun _ heq => absurd heq hr

theorem skipFolded?_of_notMem {d : Char} (hd : d ∉ foldedChars) (cs : List Char) :
    skipFolded? (d :: cs) = none := by
  simp only [foldedChars, List.mem_cons, List.not_mem_nil, or_false, not_or] at hd
  obtain ⟨hspace, htab, hbreak, hreturn⟩ := hd
  have hblank : ¬ isBlank d = true := by simp [isBlank, hspace, htab]
  have hnone : lineBreak? (d :: cs) = none := by
    rw [lineBreak?]
    · exact fun _ heq => hbreak (List.cons.inj heq).1
    · exact fun _ heq => hreturn (List.cons.inj heq).1
  rw [skipFolded?, skipBlanks, List.dropWhile_cons_of_neg hblank, hnone]
  rfl

theorem readBasicLines?_escape {c d : Char} {e : List Char} (hd : d ∉ foldedChars)
    (h : ∀ rest, readEscape? (d :: e ++ rest) = some (c, rest)) (n : Nat)
    (rest taken : List Char) :
    readBasicLines? (n + 1) ('\\' :: d :: e ++ rest) taken =
      readBasicLines? n rest (c :: taken) := by
  have hclose : closing? '"' ('\\' :: (d :: e ++ rest)) = none :=
    closing?_of_few (k := 0) (by decide) (by decide) _
  have hfold : skipFolded? (d :: e ++ rest) = none := skipFolded?_of_notMem hd _
  rw [List.cons_append, readBasicLines?, hclose]
  simp only [hfold, h]
  rfl

theorem readBasicLines?_append {row : Nat} (hrow : row ≤ 2) {cs : List Char} {n : Nat}
    (hn : cs.length < n) (rest taken : List Char) :
    readBasicLines? n (basicLinesChars row cs ++ '"' :: '"' :: '"' :: '\n' :: rest) taken =
      some (String.ofList (taken.reverse ++ cs), '\n' :: rest) := by
  induction cs generalizing row n taken with
  | nil =>
    obtain ⟨n, rfl⟩ := Nat.exists_eq_succ_of_ne_zero (Nat.ne_zero_of_lt hn)
    exact readBasicLines?_close (closing?_at_end (k := 0) (by decide) (by decide) rest) n taken
  | cons c cs ih =>
    obtain ⟨n, rfl⟩ := Nat.exists_eq_succ_of_ne_zero (Nat.ne_zero_of_lt hn)
    have hlen : cs.length < n := Nat.lt_of_succ_lt_succ hn
    have htaken : (c :: taken).reverse ++ cs = taken.reverse ++ c :: cs := by
      rw [List.reverse_cons, List.append_assoc, List.singleton_append]
    rcases fewQuotes_basicLinesChars hrow (c :: cs) with ⟨k, hk, hcs, heq⟩ | ⟨k, d, more, hk, hd, heq⟩
    · rw [heq, hcs]
      exact readBasicLines?_close (closing?_at_end (by decide) (by omega) rest) n taken
    · have hclose : closing? '"'
          (basicLinesChars row (c :: cs) ++ '"' :: '"' :: '"' :: '\n' :: rest) = none := by
        rw [heq, List.append_assoc, List.cons_append]
        exact closing?_of_few hd (by omega) _
      unfold basicLinesChars at hclose ⊢
      by_cases hq : c = '"'
      · rw [if_pos hq] at hclose ⊢
        split
        · rw [← htaken, ← ih (Nat.zero_le 2) hlen (c :: taken)]
          exact readBasicLines?_escape (e := []) (by decide) (fun rest => by rw [hq]; rfl) n _ taken
        · next hne =>
          rw [if_neg hne, List.cons_append] at hclose
          rw [← htaken, ← @ih (row + 1) (by omega) n hlen (c :: taken), List.cons_append, hq]
          exact readBasicLines?_plain hclose (by decide) (by decide) (by decide) n taken
      · rw [if_neg hq] at hclose ⊢
        rw [← htaken, ← ih (Nat.zero_le 2) hlen (c :: taken)]
        cases he : escape? c with
        | some e =>
          obtain ⟨d, e', rfl, hd, hread⟩ := readEscape?_of_escape? he
          simp only [List.append_assoc]
          exact readBasicLines?_escape hd hread n _ taken
        | none =>
          obtain ⟨hb, hr, hcode⟩ := of_escape?_eq_none he
          simp only [he, List.cons_append] at hclose
          exact readBasicLines?_plain hclose hb hr hcode n taken

/-! ## The four forms -/

theorem exists_basicChar_eq_cons (c : Char) : ∃ d more, basicChar c = d :: more ∧ d ≠ '"' := by
  unfold basicChar
  split
  · exact ⟨'\\', _, rfl, by decide⟩
  split
  · exact ⟨'\\', _, rfl, by decide⟩
  · next hq =>
    cases he : escape? c with
    | some e =>
      obtain ⟨d, e', rfl, -⟩ := readEscape?_of_escape? he
      exact ⟨'\\', _, rfl, by decide⟩
    | none => exact ⟨c, [], rfl, hq⟩

theorem length_le_flatMap_basicChar (cs : List Char) :
    cs.length ≤ (cs.flatMap basicChar).length := by
  induction cs with
  | nil => exact Nat.le_refl 0
  | cons c cs ih =>
    obtain ⟨d, more, hd, -⟩ := exists_basicChar_eq_cons c
    simp only [List.flatMap_cons, hd, List.length_append, List.length_cons]
    omega

theorem length_le_basicLinesChars (row : Nat) (cs : List Char) :
    cs.length ≤ (basicLinesChars row cs).length := by
  induction cs generalizing row with
  | nil => exact Nat.zero_le _
  | cons c cs ih =>
    have hzero := ih 0
    have hsucc := ih (row + 1)
    unfold basicLinesChars
    split
    · split <;> simp only [List.length_cons] <;> omega
    · cases he : escape? c with
      | some e =>
        obtain ⟨d, e', rfl, -⟩ := readEscape?_of_escape? he
        simp only [List.length_append, List.length_cons]
        omega
      | none =>
        simp only [List.length_cons]
        omega

/-- The first character between three double quotes is no line break, if there is none in the
string. -/
theorem dropFirstBreak_basicLinesChars {cs : List Char} (h : '\n' ∉ cs) (rest : List Char) :
    dropFirstBreak (basicLinesChars 0 cs ++ '"' :: rest) = basicLinesChars 0 cs ++ '"' :: rest := by
  cases cs with
  | nil => exact dropFirstBreak_of_ne (by decide) (by decide) rest
  | cons c cs =>
    unfold basicLinesChars
    split
    · exact dropFirstBreak_of_ne (by decide) (by decide) _
    · cases he : escape? c with
      | some e =>
        obtain ⟨d, e', rfl, -⟩ := readEscape?_of_escape? he
        exact dropFirstBreak_of_ne (by decide) (by decide) _
      | none =>
        refine dropFirstBreak_of_ne ?_ (of_escape?_eq_none he).2.1 _
        exact fun hc => h (hc ▸ List.mem_cons_self ..)

theorem dropFirstBreak_literal {cs : List Char} (h : '\n' ∉ cs)
    (hcode : ∀ c ∈ cs, needsCode c = false) (rest : List Char) :
    dropFirstBreak (cs ++ '\'' :: rest) = cs ++ '\'' :: rest := by
  cases cs with
  | nil => exact dropFirstBreak_of_ne (by decide) (by decide) rest
  | cons c cs =>
    refine dropFirstBreak_of_ne (fun hc => h (hc ▸ List.mem_cons_self ..)) ?_ _
    rintro rfl
    simpa [needsCode, isControl] using hcode '\r' (List.mem_cons_self ..)

theorem readString?_basic (cs rest : List Char) :
    readString? ('"' :: cs.flatMap basicChar ++ '"' :: '\n' :: rest) =
      some (String.ofList cs, '\n' :: rest) := by
  have hlen : cs.length < (cs.flatMap basicChar ++ '"' :: '\n' :: rest).length + 1 := by
    have := length_le_flatMap_basicChar cs
    simp only [List.length_append]
    omega
  have hread := readBasic?_flatMap hlen ('\n' :: rest) []
  rw [List.cons_append, readString?]
  · exact hread
  · intro tail heq
    cases cs with
    | nil => simp at heq
    | cons c cs =>
      obtain ⟨d, more, hd, hne⟩ := exists_basicChar_eq_cons c
      rw [List.flatMap_cons, hd] at heq
      exact hne (List.cons.inj heq).1

theorem readString?_literal {cs : List Char} (hcs : cs ≠ []) (hq : '\'' ∉ cs)
    (hc : ∀ c ∈ cs, isControl c = false) (rest : List Char) :
    readString? ('\'' :: cs ++ '\'' :: rest) = some (String.ofList cs, rest) := by
  rw [List.cons_append, readString?]
  · exact readLiteral?_append hq hc rest []
  · intro tail heq
    obtain ⟨c, cs, rfl⟩ := List.exists_cons_of_ne_nil hcs
    exact hq ((List.cons.inj heq).1 ▸ List.mem_cons_self ..)

theorem readString?_basicLines (cs rest : List Char) :
    readString? ('"' :: '"' :: '"' :: ((if '\n' ∈ cs then ['\n'] else []) ++
      (basicLinesChars 0 cs ++ '"' :: '"' :: '"' :: '\n' :: rest))) =
      some (String.ofList cs, '\n' :: rest) := by
  have hlen := length_le_basicLinesChars 0 cs
  rw [readString?]
  split
  · exact readBasicLines?_append (Nat.zero_le 2)
      (by simp only [List.length_append]; omega) rest []
  · next hbreak =>
    rw [List.nil_append, dropFirstBreak_basicLinesChars hbreak]
    exact readBasicLines?_append (Nat.zero_le 2)
      (by simp only [List.length_append]; omega) rest []

theorem readString?_literalLines {cs : List Char} (hrow : longestRow '\'' 0 cs ≤ 2)
    (hcode : ∀ c ∈ cs, needsCode c = false) (rest : List Char) :
    readString? ('\'' :: '\'' :: '\'' :: ((if '\n' ∈ cs then ['\n'] else []) ++
      (cs ++ '\'' :: '\'' :: '\'' :: '\n' :: rest))) = some (String.ofList cs, '\n' :: rest) := by
  rw [readString?]
  split
  · exact readLiteralLines?_append hrow hcode (by simp only [List.length_append]; omega) rest []
  · next hbreak =>
    rw [List.nil_append, dropFirstBreak_literal hbreak hcode]
    exact readLiteralLines?_append hrow hcode (by simp only [List.length_append]; omega) rest []

/-- What is known of a string from the form that it is written in. -/
theorem formOf_cases (cs : List Char) :
    formOf cs = .basic ∨ formOf cs = .basicLines ∨
    (formOf cs = .literal ∧ cs ≠ [] ∧ '\'' ∉ cs ∧ ∀ c ∈ cs, isControl c = false) ∨
    (formOf cs = .literalLines ∧ longestRow '\'' 0 cs ≤ 2 ∧ ∀ c ∈ cs, needsCode c = false) := by
  unfold formOf
  simp only
  split
  · exact .inl rfl
  next hbasic =>
  split
  · next hliteral =>
    simp only [Bool.and_eq_true, Bool.not_eq_true', List.contains_eq_mem, decide_eq_false_iff_not,
      List.any_eq_false] at hliteral
    obtain ⟨⟨hq, hbreak⟩, hcode⟩ := hliteral
    refine .inr (.inr (.inl ⟨rfl, ?_, hq, fun c hc => ?_⟩))
    · rintro rfl
      simp at hbasic
    · refine isControl_of_needsCode (Bool.not_eq_true _ ▸ hcode c hc) ?_
      rintro rfl
      exact hbreak hc
  split
  · exact .inr (.inl rfl)
  split
  · next hlines =>
    simp only [Bool.and_eq_true, Bool.not_eq_true', decide_eq_true_eq, List.any_eq_false] at hlines
    exact .inr (.inr (.inr ⟨rfl, hlines.2, fun c hc => Bool.not_eq_true _ ▸ hlines.1 c hc⟩))
  split
  · exact .inr (.inl rfl)
  · exact .inl rfl

/-- **A string that is written is read back as it was.** -/
theorem readString?_writeString (s : String) (rest : List Char) :
    readString? ((writeString s).toList ++ '\n' :: rest) = some (s, '\n' :: rest) := by
  have hs : String.ofList s.toList = s := String.ofList_toList
  rw [writeString, String.toList_ofList]
  rcases formOf_cases s.toList with hform | hform | ⟨hform, hne, hq, hc⟩ | ⟨hform, hrow, hcode⟩
  · simpa [hform, hs] using readString?_basic s.toList rest
  · simpa [hform, hs] using readString?_basicLines s.toList rest
  · simpa [hform, hs] using readString?_literal hne hq hc ('\n' :: rest)
  · simpa [hform, hs] using readString?_literalLines hrow hcode rest

end SearchQuery.Toml
