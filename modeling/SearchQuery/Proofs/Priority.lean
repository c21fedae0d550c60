import SearchQuery.Proofs.Cuts
import SearchQuery.Proofs.RoundTrip

/-!
# Rules of the caller between the built-in ones

A scanner tries the rules of the caller after those for white space, phrases and `OR`, and before
those for words and signs.

* `Scanner.early?`: what the rules before those for words and signs take off a text. A step takes
  this or, if there is none, the first lexeme of the lexer (`Scanner.lexeme_eq_early?`). With fields
  only, it takes a field or this lexeme (`Scanner.lexeme_eq_first_or_isField`).
* A field never takes the word `AND` itself. It may take the beginning of the word, or more than the
  word, and only then the word is no token of its own (`Scanner.scan_and_iff_fields_pass`).
-/

namespace SearchQuery

open Text

/-- The kinds of the rules that no rule of the caller can displace. -/
def Kind.isStructural : Kind → Bool
  | whiteSpace | phrase | or => true
  | _ => false

theorem Kind.exists_label {k : Kind} (h : k.isField = true) : ∃ label, k = .field label := by
  cases k with
  | field label => exact ⟨label, rfl⟩
  | _ => cases h

namespace Lexer

theorem isStructural_signKind (c : Char) : (signKind c).isStructural = false := by
  fun_cases signKind c <;> rfl

theorem isField_first (c : Char) (cs : List Char) : (first c cs).kind.isField = false := by
  have hspells := first_spells c cs
  cases hk : (first c cs).kind with
  | field label =>
    rw [hk] at hspells
    exact hspells.elim
  | _ => rfl

end Lexer

namespace Scanner

open Lexer

/-- What the rules that come before those for words and signs take off a text. -/
def early? (fields : List Rule) (text : List Char) : Option Lexeme :=
  (Rule.structural ++ fields).findSome? (lexeme? text)

/-! ## The order of the rules -/

theorem findSome?_structural (c : Char) (cs : List Char) :
    Rule.structural.findSome? (lexeme? (c :: cs)) =
      if (first c cs).kind.isStructural then some (first c cs) else none := by
  have hcontinue : Rule.wordContinue.contains = continuesWord := funext contains_wordContinue
  rw [Rule.structural,
    findSome?_cons_ite (lexeme?_of_cut? rfl (Rule.cut?_whiteSpaceRule c cs)),
    findSome?_cons_ite (lexeme?_of_cut? rfl (Rule.cut?_phraseRule c cs)),
    findSome?_cons_ite (lexeme?_of_cut? rfl (Rule.cut?_orRule c cs)), List.findSome?_nil, hcontinue]
  unfold first
  by_cases hspace : isWhiteSpace c = true
  · rw [if_pos hspace, if_pos hspace]
    rfl
  · by_cases hquote : c = '"' ∧ '"' ∈ cs
    · rw [if_neg hspace, if_pos hquote, if_neg hspace, if_pos hquote]
      rfl
    · by_cases hor : c = 'O' ∧ cs.head? = some 'R' ∧ cs.tail.head?.all (!continuesWord ·)
      · rw [if_neg hspace, if_neg hquote, if_pos hor, if_neg hspace, if_neg hquote, if_pos hor]
        rfl
      · rw [if_neg hspace, if_neg hquote, if_neg hor, if_neg hspace, if_neg hquote, if_neg hor]
        split
        · rfl
        · simp [isStructural_signKind]

/-- Where no structural rule applies, the rules for words and signs take the first lexeme. -/
theorem findSome?_generic {c : Char} {cs : List Char}
    (h : (first c cs).kind.isStructural = false) :
    Rule.generic.findSome? (lexeme? (c :: cs)) = some (first c cs) := by
  have hbuiltins : (Rule.structural ++ Rule.generic).findSome? (lexeme? (c :: cs)) =
      some (first c cs) :=
    findSome?_lexeme?_eq_first (s := { new with rest := c :: cs }) rfl rfl
  rwa [List.findSome?_append, findSome?_structural, if_neg (by simp [h]), Option.none_or]
    at hbuiltins

theorem early?_cons (fields : List Rule) (c : Char) (cs : List Char) :
    early? fields (c :: cs) =
      if (first c cs).kind.isStructural then some (first c cs)
      else fields.findSome? (lexeme? (c :: cs)) := by
  rw [early?, List.findSome?_append, findSome?_structural]
  split <;> rfl

/-- **A step takes what the structural rules or those of the caller take**, and the first word or
sign if they take nothing. -/
theorem lexeme_eq_early? {s : Scanner} {c : Char} {cs : List Char} (hs : s.rest = c :: cs) :
    s.lexeme = (early? s.fields s.rest).getD (first c cs) := by
  rw [lexeme, rules, List.findSome?_append, ← early?, hs]
  cases hearly : early? s.fields (c :: cs) with
  | some x => rfl
  | none =>
    have hgeneric : (first c cs).kind.isStructural = false := by
      rw [early?_cons] at hearly
      split at hearly
      · simp at hearly
      · next h => simpa using h
    rw [findSome?_generic hgeneric]
    rfl

theorem not_isWhiteSpace_of_first {c : Char} {cs : List Char}
    (h : (first c cs).kind.isStructural = false) : isWhiteSpace c = false := by
  by_contra hc
  rw [first, if_pos (eq_true_of_ne_false hc)] at h
  cases h

/-! ## Fields -/

theorem lexeme?_text_ne_and {r : Rule} {text : List Char} {x : Lexeme} (h : lexeme? text r = some x)
    (hr : r.kind.isField = true) : x.text ≠ andKeyword := by
  unfold lexeme? at h
  split at h
  · simp at h
  · next token left hcut =>
    simp only [hr, Bool.true_and, decide_eq_true_eq] at h
    split at h
    · simp at h
    · next hne =>
      obtain rfl := Option.some.inj h
      exact hne

/-- What is taken off by rules of fields is a field, and not the word. -/
theorem isField_of_findSome? {fields : List Rule} {text : List Char} {x : Lexeme}
    (h : ∀ r ∈ fields, r.kind.isField = true) (hx : fields.findSome? (lexeme? text) = some x) :
    x.kind.isField = true ∧ x.text ≠ andKeyword := by
  obtain ⟨r, hr, hrx⟩ := List.exists_of_findSome?_eq_some hx
  obtain ⟨-, -, -, hkind⟩ := lexeme?_eq_some hrx
  exact ⟨hkind ▸ h r hr, lexeme?_text_ne_and hrx (h r hr)⟩

/-- With fields only, a step takes the first lexeme of the lexer, or a field where no white space
stands. -/
theorem lexeme_eq_first_or_isField {s : Scanner} (hf : ∀ r ∈ s.fields, r.kind.isField = true)
    {c : Char} {cs : List Char} (hs : s.rest = c :: cs) :
    s.lexeme = first c cs ∨ isWhiteSpace c = false ∧ s.lexeme.kind.isField = true := by
  have hlexeme := lexeme_eq_early? hs
  rw [hs, early?_cons] at hlexeme
  split at hlexeme
  · exact .inl hlexeme
  · next hstructural =>
    cases hfound : s.fields.findSome? (lexeme? (c :: cs)) with
    | none =>
      rw [hfound] at hlexeme
      exact .inl hlexeme
    | some x =>
      rw [hfound, Option.getD_some] at hlexeme
      refine .inr ⟨not_isWhiteSpace_of_first (by simpa using hstructural), ?_⟩
      exact hlexeme ▸ (isField_of_findSome? hf hfound).1

/-! ## The word that joins two operands -/

/-- A field takes nothing off a text if it finds the word `AND` in it, or nothing. -/
theorem lexeme?_eq_none_iff {r : Rule} (hr : r.kind.isField = true) (text : List Char) :
    lexeme? text r = none ↔
      ∀ token left, r.cut? text = some (token, left) → token = andKeyword.toList := by
  unfold lexeme?
  cases hcut : r.cut? text with
  | none => simp
  | some x =>
    obtain ⟨token, left⟩ := x
    have htoken : String.ofList token = andKeyword ↔ token = andKeyword.toList := by
      rw [← String.toList_inj, String.toList_ofList]
    simp [hr, htoken]

theorem andKeyword_toList : andKeyword.toList = ['A', 'N', 'D'] := rfl

/-- Where the word stands and no word goes on, it is taken unless a rule of the caller takes
something. -/
theorem lexeme_of_and {s : Scanner} {rest : List Char} (hs : s.rest = andKeyword.toList ++ rest)
    (hrest : Separated rest) :
    s.lexeme = (s.fields.findSome? (lexeme? s.rest)).getD ⟨.word, andKeyword, rest⟩ := by
  have hfirst : first 'A' ('N' :: 'D' :: rest) = ⟨.word, andKeyword, rest⟩ := by
    have handWord : isWord andKeyword = true := by decide
    obtain ⟨c, cs, heq, hfirst⟩ := first_word handWord (by decide) hrest
    obtain ⟨rfl, rfl⟩ := List.cons.inj heq
    exact hfirst
  have hcons : s.rest = 'A' :: 'N' :: 'D' :: rest := hs
  rw [lexeme_eq_early? hcons, hcons, early?_cons, hfirst]
  rfl

/-- What stands at the front of a text that begins with the word is shorter than the word, the word
itself, or longer. -/
theorem eq_of_prefix_and {x : String} {rest : List Char}
    (h : x.toList <+: andKeyword.toList ++ rest) (hempty : x ≠ "") (hand : x ≠ andKeyword) :
    x = "A" ∨ x = "AN" ∨ ∃ y, y ≠ "" ∧ x = andKeyword ++ y := by
  rcases List.prefix_or_prefix_of_prefix h (List.prefix_append andKeyword.toList rest) with
    hshort | ⟨more, hmore⟩
  · have hcases : x = "" ∨ x = "A" ∨ x = "AN" ∨ x = andKeyword := by
      simp only [andKeyword_toList, List.prefix_cons_iff, List.prefix_nil] at hshort
      rcases hshort with hx | ⟨-, hx, rfl | ⟨-, rfl, rfl | ⟨-, rfl, rfl⟩⟩⟩
      · exact .inl (String.toList_eq_nil_iff.mp hx)
      · exact .inr (.inl (String.toList_inj.mp hx))
      · exact .inr (.inr (.inl (String.toList_inj.mp hx)))
      · exact .inr (.inr (.inr (String.toList_inj.mp hx)))
    rcases hcases with rfl | hx | hx | rfl
    · exact absurd rfl hempty
    · exact .inl hx
    · exact .inr (.inl hx)
    · exact absurd rfl hand
  · have hx : x = andKeyword ++ .ofList more := by
      rw [← String.toList_inj, String.toList_append, String.toList_ofList, hmore]
    refine .inr (.inr ⟨.ofList more, fun hmore => hand ?_, hx⟩)
    rw [hx, hmore, String.append_empty]

/-- **When the word `AND` is a token of its own.** Let all rules of the caller be fields, and let
what is still to be read begin with `AND` where no word goes on. The next token is the word `AND`,
and the text goes on after it, just if no rule of the caller finds anything but `AND` there.
Otherwise the next token is a field, and its text is a beginning of the word, or longer than the
word. -/
theorem scan_and_iff_fields_pass {s : Scanner} {rest : List Char}
    (hfields : ∀ r ∈ s.fields, r.kind.isField = true)
    (hs : s.rest = andKeyword.toList ++ rest) (hrest : Separated rest) :
    ((s.scan.1.kind = .word ∧ s.scan.1.text = some andKeyword ∧ s.scan.2.rest = rest) ↔
      ∀ r ∈ s.fields, ∀ token left, r.cut? s.rest = some (token, left) →
        token = andKeyword.toList) ∧
    ((∃ r ∈ s.fields, ∃ token left, r.cut? s.rest = some (token, left) ∧
        token ≠ andKeyword.toList) →
      ∃ label x, s.scan.1.kind = .field label ∧ s.scan.1.text = some x ∧
        (x = "A" ∨ x = "AN" ∨ ∃ y, y ≠ "" ∧ x = andKeyword ++ y)) := by
  have hlexeme := lexeme_of_and hs hrest
  have hpass : s.fields.findSome? (lexeme? s.rest) = none ↔
      ∀ r ∈ s.fields, ∀ token left, r.cut? s.rest = some (token, left) →
        token = andKeyword.toList := by
    rw [List.findSome?_eq_none_iff]
    exact forall₂_congr fun r hr => lexeme?_eq_none_iff (hfields r hr) s.rest
  rw [← hpass]
  cases hfound : s.fields.findSome? (lexeme? s.rest) with
  | none =>
    rw [hfound, Option.getD_none] at hlexeme
    refine ⟨by simp [scan, hlexeme], ?_⟩
    rintro ⟨r, hr, token, left, hcut, hne⟩
    exact absurd (hpass.mp hfound r hr token left hcut) hne
  | some x =>
    rw [hfound, Option.getD_some] at hlexeme
    obtain ⟨hfield, hand⟩ := isField_of_findSome? hfields hfound
    obtain ⟨label, hlabel⟩ := Kind.exists_label hfield
    have hkind : s.scan.1.kind = .field label := by rw [scan_fst, hlexeme, hlabel]
    refine ⟨by simp [hkind], fun _ => ⟨label, x.text, hkind, by rw [scan_fst, hlexeme], ?_⟩⟩
    have hne : s.rest ≠ [] := by simp [hs, andKeyword_toList]
    have hprefix := hs ▸ s.lexeme_text_prefix
    have hempty := lexeme_text_ne_empty hne
    rw [hlexeme] at hprefix hempty
    exact eq_of_prefix_and hprefix hempty hand

/-- A field for upper-case words takes more than the word, but not the word. -/
theorem scan_and_iff_fields_pass_upper :
    ∃ r, Rule.ofToken (.field "UPPER") "[A-Z]+" = .ok r ∧
      ((ofRules [r]).read "AND (ANDY)").scan.1.kind = .word ∧
      ((ofRules [r]).read "AND (ANDY)").scan.1.text = some andKeyword ∧
      ((ofRules [r]).read "AND (ANDY)").scan.2.rest = " (ANDY)".toList := by
  let r : Rule := ⟨.field "UPPER", Rule.splitSource "[A-Z]+",
    .token (Rule.anchored (.repeated 1 none true (.one (.range 'A' 'Z'))))⟩
  have hcut : r.cut? "AND (ANDY)".toList = some (andKeyword.toList, " (ANDY)".toList) := by
    decide +kernel
  have hseparated : Separated " (ANDY)".toList := separated_cons continuesWord_space _
  refine ⟨r, by decide +kernel, (scan_and_iff_fields_pass ?_ rfl hseparated).1.mpr ?_⟩
  · simp [ofRules, read, r, Kind.isField]
  · intro r' hr' token left htoken
    obtain rfl := List.mem_singleton.mp hr'
    exact (Prod.mk.inj (Option.some.inj (htoken.symm.trans hcut))).1

/-- A field for two letters takes the beginning of the word, although no word goes on after it. -/
theorem two_letters_split_and :
    ∃ r, Rule.ofToken (.field "CODE") "[A-Z][A-Z]" = .ok r ∧
      ((ofRules [r]).read "AND y").rest = andKeyword.toList ++ " y".toList ∧
      Separated " y".toList ∧
      ((ofRules [r]).read "AND y").scan.1 = ⟨.field "CODE", some "AN", 0⟩ ∧
      ((ofRules [r]).tokenize "x AND y").map (·.1) = some
        [⟨.word, some "x", 0⟩, ⟨.field "CODE", some "AN", 2⟩, ⟨.word, some "D", 4⟩,
          ⟨.word, some "y", 6⟩] :=
  ⟨⟨.field "CODE", Rule.splitSource "[A-Z][A-Z]",
      .token (Rule.anchored (.seq (.one (.range 'A' 'Z')) (.one (.range 'A' 'Z'))))⟩,
    by decide +kernel, rfl, separated_cons continuesWord_space _, by decide +kernel,
    by decide +kernel⟩

end Scanner

end SearchQuery
