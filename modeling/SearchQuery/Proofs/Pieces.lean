import SearchQuery.Proofs.TreeShape

/-!
# Pieces of a printed tree

A tree is printed as a row of pieces: its tokens, and a blank on both sides of a connective.

* `Node.pieces`: the pieces of a tree, which make up what it is printed as (`Node.spelled_pieces`).
* `Piece.faces`: the kinds and texts of the pieces without the blanks. Tokens with these kinds and
  texts have the tree (`Grammar.Derives.of_faces`). All other tokens that have it are fewer, by some
  `AND` that may be left out (`Grammar.Derives.faces_sublist`).
* `Piece.Proper`: the piece looks like a token of its kind in front of what comes after it. If it is
  no field, then it is the first lexeme of the lexer there (`Piece.Proper.first_eq`). All pieces of
  a tree whose leaves are legible are proper (`Node.allProper`).
-/

namespace SearchQuery

open Text Grammar Lexer

/-! ## Pieces -/

/-- A piece of a printed tree: a token, or a blank between two. -/
structure Piece where
  kind : Kind
  text : String
  deriving DecidableEq, Repr

namespace Piece

/-- The blank between two tokens. -/
def blank : Piece := ⟨.whiteSpace, " "⟩

/-- The text that a row of pieces makes up. -/
def spelled (ps : List Piece) : List Char := ps.flatMap (·.text.toList)

@[simp]
theorem spelled_nil : spelled [] = [] := List.flatMap_nil

@[simp]
theorem spelled_cons (x : Piece) (ps : List Piece) :
    spelled (x :: ps) = x.text.toList ++ spelled ps := rfl

@[simp]
theorem spelled_append (ps qs : List Piece) : spelled (ps ++ qs) = spelled ps ++ spelled qs :=
  List.flatMap_append

/-- The kinds and the texts of the pieces without the blanks. -/
def faces (ps : List Piece) : List (Kind × Option String) :=
  (ps.filter (·.kind ≠ .whiteSpace)).map fun x => (x.kind, some x.text)

@[simp]
theorem faces_nil : faces [] = [] := by simp [faces]

theorem faces_cons (x : Piece) (ps : List Piece) :
    faces (x :: ps) =
      if x.kind = .whiteSpace then faces ps else (x.kind, some x.text) :: faces ps := by
  by_cases h : x.kind = .whiteSpace <;> simp [faces, h]

@[simp]
theorem faces_append (ps qs : List Piece) : faces (ps ++ qs) = faces ps ++ faces qs := by
  simp [faces]

end Piece

/-- The kind and the text of a token. -/
def Token.face (t : Token) : Kind × Option String := (t.kind, t.text)

namespace Node

/-- The pieces that a tree is printed as. -/
def pieces : Node → List Piece
  | term word => [⟨.word, word⟩]
  | phrase text => [⟨.phrase, "\"" ++ text ++ "\""⟩]
  | field label raw => [⟨.field label, raw⟩]
  | not n => ⟨.minus, "-"⟩ :: n.pieces
  | and l r => l.pieces ++ .blank :: ⟨.word, andKeyword⟩ :: .blank :: r.pieces
  | or l r => l.pieces ++ .blank :: ⟨.or, "OR"⟩ :: .blank :: r.pieces
  | group n => ⟨.openParen, "("⟩ :: (n.pieces ++ [⟨.closeParen, ")"⟩])

/-- **The pieces make up what the tree is printed as.** -/
theorem spelled_pieces (n : Node) : Piece.spelled n.pieces = n.print.toList := by
  induction n with
  | term word => simp [pieces, print]
  | phrase text => simp [pieces, print]
  | field label raw => simp [pieces, print]
  | not n ih => simp [pieces, print, ih]
  | and l r ihl ihr => simp [pieces, print, Piece.blank, andKeyword, ihl, ihr]
  | or l r ihl ihr => simp [pieces, print, Piece.blank, ihl, ihr]
  | group n ih => simp [pieces, print, ih]

end Node

/-! ## How tokens are written -/

namespace Lexer

/-- The text begins with a character other than white space. -/
def Solid (text : List Char) : Prop := ∃ c cs, text = c :: cs ∧ isWhiteSpace c = false

theorem solid_cons {c : Char} (h : isWhiteSpace c = false) (cs : List Char) : Solid (c :: cs) :=
  ⟨c, cs, rfl, h⟩

theorem Solid.append {text : List Char} (h : Solid text) (rest : List Char) :
    Solid (text ++ rest) := by
  obtain ⟨c, cs, rfl, hc⟩ := h
  exact ⟨c, cs ++ rest, rfl, hc⟩

theorem solid_of_isWord {word : String} (h : isWord word = true) : Solid word.toList := by
  cases hlist : word.toList with
  | nil => simp [isWord, hlist] at h
  | cons c cs =>
    simp only [isWord, hlist, Bool.and_eq_true] at h
    exact solid_cons (not_isWhiteSpace_of_continuesWord (by simp [continuesWord, h.1])) cs

/-- How the tokens of a kind are written. A field never begins with white space. -/
def Written (text : String) : Kind → Prop
  | .or => text = "OR"
  | .minus => text = "-"
  | .openParen => text = "("
  | .closeParen => text = ")"
  | .field _ => Solid text.toList
  | k => Spells text k

theorem first_written (c : Char) (cs : List Char) :
    Written (first c cs).text (first c cs).kind := by
  have hspells := first_spells c cs
  revert hspells
  unfold first
  split
  · exact id
  · split
    · exact id
    · split
      · exact fun _ => rfl
      · split
        · exact id
        · fun_cases signKind c with
          | case1 | case2 | case3 => exact fun _ => rfl
          | _ => exact fun _ => trivial

end Lexer

/-! ## Tokens with the pieces of a tree -/

namespace Grammar

variable {part : Part} {d : Nat} {ts us : List Token} {n : Node}

theorem faces_and (l r : Node) :
    Piece.faces (Node.and l r).pieces =
      Piece.faces l.pieces ++ (.word, some andKeyword) :: Piece.faces r.pieces := by
  simp [Node.pieces, Piece.faces_cons, Piece.blank]

theorem faces_or (l r : Node) :
    Piece.faces (Node.or l r).pieces =
      Piece.faces l.pieces ++ (.or, some "OR") :: Piece.faces r.pieces := by
  simp [Node.pieces, Piece.faces_cons, Piece.blank]

theorem faces_group (n : Node) :
    Piece.faces (Node.group n).pieces =
      (.openParen, some "(") :: (Piece.faces n.pieces ++ [(.closeParen, some ")")]) := by
  simp [Node.pieces, Piece.faces_cons]

theorem quoted_eq (text : String) :
    "\"" ++ text ++ "\"" = .ofList ('"' :: text.toList ++ ['"']) := by
  rw [← String.toList_inj]
  simp

theorem stripQuotes_quoted (text : String) : stripQuotes ("\"" ++ text ++ "\"") = text := by
  rw [quoted_eq, stripQuotes_ofList, String.ofList_toList]

/-- A token with the given kind and text. -/
theorem exists_of_map_face_singleton {k : Kind} {x : Option String}
    (h : ts.map Token.face = [(k, x)]) : ∃ t, ts = [t] ∧ t.kind = k ∧ t.text = x := by
  obtain ⟨t, rfl, ht⟩ := List.map_eq_singleton_iff.mp h
  obtain ⟨hk, hx⟩ := Prod.mk.inj ht
  exact ⟨t, rfl, hk, hx⟩

theorem exists_of_map_face_cons {fs : List (Kind × Option String)} {k : Kind} {x : Option String}
    (h : ts.map Token.face = (k, x) :: fs) :
    ∃ t us, ts = t :: us ∧ t.kind = k ∧ t.text = x ∧ us.map Token.face = fs := by
  obtain ⟨t, us, rfl, ht, hus⟩ := List.map_eq_cons_iff.mp h
  obtain ⟨hk, hx⟩ := Prod.mk.inj ht
  exact ⟨t, us, rfl, hk, hx, hus⟩

/-- **Tokens with the kinds and the texts of the printed pieces have the tree**, if any tokens have
it. -/
theorem Derives.of_faces (h : Derives part d ts n)
    (hus : us.map Token.face = Piece.faces n.pieces) : Derives part d us n := by
  induction h generalizing us with
  | word hk ht =>
    rename_i d t
    obtain ⟨u, rfl, hkind, htext⟩ := exists_of_map_face_singleton hus
    have hand : u.text ≠ some andKeyword := by
      rw [htext]
      cases hx : t.text with
      | none => decide
      | some x => exact hx ▸ ht
    have hword := Derives.word (d := d) hkind hand
    rwa [htext] at hword
  | phrase hk =>
    rename_i d t
    obtain ⟨u, rfl, hkind, htext⟩ := exists_of_map_face_singleton hus
    have hphrase := Derives.phrase (d := d) hkind
    rwa [htext, Option.getD_some, stripQuotes_quoted] at hphrase
  | field hk =>
    rename_i d t label
    obtain ⟨u, rfl, hkind, htext⟩ := exists_of_map_face_singleton hus
    have hfield := Derives.field (d := d) hkind
    rwa [htext] at hfield
  | group ho h hc ih =>
    rw [faces_group] at hus
    obtain ⟨o, vs, rfl, hkind, -, hvs⟩ := exists_of_map_face_cons hus
    obtain ⟨ws, xs, rfl, hws, hxs⟩ := List.map_eq_append_iff.mp hvs
    obtain ⟨c, rfl, hkind', -⟩ := exists_of_map_face_singleton hxs
    exact .group hkind (ih hws) hkind'
  | plain h ih => exact .plain (ih hus)
  | single h ih => exact .single (ih hus)
  | branch h ih => exact .branch (ih hus)
  | negated hk h ih =>
    obtain ⟨t, vs, rfl, hkind, -, hvs⟩ := exists_of_map_face_cons hus
    exact .negated hkind (ih hvs)
  | besides hl hr ihl ihr | and hl hk ht hr ihl ihr =>
    -- The connective is printed, even if it was not there.
    rw [faces_and] at hus
    obtain ⟨vs, ws, rfl, hvs, hws⟩ := List.map_eq_append_iff.mp hus
    obtain ⟨t, xs, rfl, hkind, htext, hxs⟩ := exists_of_map_face_cons hws
    exact .and (ihl hvs) hkind htext (ihr hxs)
  | or hl hk hr ihl ihr =>
    rw [faces_or] at hus
    obtain ⟨vs, ws, rfl, hvs, hws⟩ := List.map_eq_append_iff.mp hus
    obtain ⟨t, xs, rfl, hkind, -, hxs⟩ := exists_of_map_face_cons hws
    exact .or (ihl hvs) hkind (ihr hxs)

/-- **Tokens that have the tree are no others than the printed ones**, some `AND` perhaps left
out. -/
theorem Derives.faces_sublist (h : Derives part d ts n)
    (hts : ∀ t ∈ ts, ∃ x, t.text = some x ∧ Written x t.kind) :
    (ts.map Token.face).Sublist (Piece.faces n.pieces) := by
  induction h with
  | word hk ht =>
    rename_i t
    obtain ⟨x, hx, -⟩ := hts t (List.mem_singleton_self t)
    simp [Token.face, Node.pieces, Piece.faces_cons, hk, hx]
  | phrase hk =>
    rename_i t
    obtain ⟨x, hx, hwritten⟩ := hts t (List.mem_singleton_self t)
    rw [hk] at hwritten
    obtain ⟨inner, -, rfl⟩ := hwritten
    rw [hx, Option.getD_some, stripQuotes_ofList, Node.pieces, quoted_eq, String.toList_ofList]
    simp [Token.face, Piece.faces_cons, hk, hx]
  | field hk =>
    rename_i t label
    obtain ⟨x, hx, -⟩ := hts t (List.mem_singleton_self t)
    simp [Token.face, Node.pieces, Piece.faces_cons, hk, hx]
  | group ho h hc ih =>
    rename_i d o c ts n
    obtain ⟨x, hx, hopen⟩ := hts o (by simp)
    obtain ⟨y, hy, hclose⟩ := hts c (by simp)
    rw [ho] at hopen
    rw [hc] at hclose
    obtain rfl : x = "(" := hopen
    obtain rfl : y = ")" := hclose
    have hinner := ih fun t ht => hts t (by simp [ht])
    rw [faces_group]
    simpa [Token.face, ho, hc, hx, hy] using hinner
  | plain h ih | single h ih | branch h ih => exact ih hts
  | negated hk h ih =>
    rename_i d t ts n
    obtain ⟨x, hx, hminus⟩ := hts t (by simp)
    rw [hk] at hminus
    obtain rfl : x = "-" := hminus
    have hinner := ih fun t ht => hts t (by simp [ht])
    simpa [Token.face, hk, hx, Node.pieces, Piece.faces_cons] using hinner
  | besides hl hr ihl ihr =>
    rw [List.map_append, faces_and]
    exact (ihl fun t ht => hts t (by simp [ht])).append
      (.cons _ (ihr fun t ht => hts t (by simp [ht])))
  | and hl hk ht hr ihl ihr =>
    rw [List.map_append, List.map_cons, Token.face, hk, ht, faces_and]
    exact (ihl fun t ht => hts t (by simp [ht])).append
      (.cons_cons _ (ihr fun t ht => hts t (by simp [ht])))
  | or hl hk hr ihl ihr =>
    rename_i d t ts us l r
    obtain ⟨x, hx, hor⟩ := hts t (by simp)
    rw [hk] at hor
    obtain rfl : x = "OR" := hor
    rw [List.map_append, List.map_cons, Token.face, hk, hx, faces_or]
    exact (ihl fun t ht => hts t (by simp [ht])).append
      (.cons_cons _ (ihr fun t ht => hts t (by simp [ht])))

end Grammar

/-! ## Pieces that look like tokens -/

namespace Piece

/-- The piece looks like a token of its kind in front of the text `rest`. A blank ends before
`rest`, and so do a word and `OR`. -/
inductive Proper : Piece → List Char → Prop
  | blank {rest : List Char} (hrest : Solid rest) : Proper .blank rest
  | word {word : String} {rest : List Char} (hword : isWord word = true) (hor : word ≠ "OR")
      (hrest : Separated rest) : Proper ⟨.word, word⟩ rest
  | phrase {text : String} {rest : List Char} (htext : '"' ∉ text.toList) :
      Proper ⟨.phrase, "\"" ++ text ++ "\""⟩ rest
  | or {rest : List Char} (hrest : Separated rest) : Proper ⟨.or, "OR"⟩ rest
  | sign {c : Char} {rest : List Char} (hc : c ∈ ['-', '(', ')']) :
      Proper ⟨signKind c, .ofList [c]⟩ rest
  | field {label raw : String} {rest : List Char} (hraw : Solid raw.toList) :
      Proper ⟨.field label, raw⟩ rest

/-- All pieces look like tokens in front of those that come after them. -/
def AllProper : List Piece → Prop
  | [] => True
  | x :: after => x.Proper (spelled after) ∧ AllProper after

variable {x : Piece} {rest : List Char}

/-- **A piece that is no field is the first lexeme of the lexer.** -/
theorem Proper.first_eq (h : x.Proper rest) (hx : x.kind.isField = false) :
    ∃ c cs, x.text.toList ++ rest = c :: cs ∧ first c cs = ⟨x.kind, x.text, rest⟩ := by
  cases h with
  | blank hrest =>
    obtain ⟨c, cs, rfl, hc⟩ := hrest
    refine ⟨' ', c :: cs, rfl, ?_⟩
    rw [first, if_pos isWhiteSpace_space, List.takeWhile_cons_of_neg (by simp [hc]),
      List.dropWhile_cons_of_neg (by simp [hc])]
    rfl
  | word hword hor hrest => exact first_word hword hor hrest
  | phrase htext =>
    rename_i text
    refine ⟨'"', text.toList ++ '"' :: rest, by simp, ?_⟩
    rw [first_phrase htext, quoted_eq]
  | or hrest => exact ⟨'O', 'R' :: rest, rfl, first_or hrest⟩
  | sign hc => exact ⟨_, rest, by simp, first_sign hc rest⟩
  | field hraw => simp [Kind.isField] at hx

theorem Proper.eq_blank (h : x.Proper rest) (hx : x.kind = .whiteSpace) : x = .blank := by
  cases h with
  | blank hrest => rfl
  | sign hc =>
    rename_i c
    have hsign := isStructural_signKind c
    rw [show signKind c = .whiteSpace from hx] at hsign
    cases hsign
  | _ => cases hx

/-- A piece other than a blank begins with a character other than white space. -/
theorem Proper.solid (h : x.Proper rest) (hx : x.kind ≠ .whiteSpace) : Solid x.text.toList := by
  cases h with
  | blank hrest => exact absurd rfl hx
  | word hword hor hrest => exact solid_of_isWord hword
  | phrase htext =>
    rw [quoted_eq, String.toList_ofList]
    exact solid_cons (not_isWhiteSpace_of_mem (by decide)) _
  | or hrest => exact solid_cons (not_isWhiteSpace_of_mem (by decide)) ['R']
  | sign hc =>
    rename_i c
    have hmem : c ∈ ['"', '-', '(', ')', 'O'] := by
      simp only [List.mem_cons, List.not_mem_nil, or_false] at hc ⊢
      tauto
    rw [String.toList_ofList]
    exact solid_cons (not_isWhiteSpace_of_mem hmem) []
  | field hraw => exact hraw

/-- A connective with a blank on both sides. -/
theorem AllProper.join {after : List Piece} (hafter : AllProper after)
    (hsolid : Solid (spelled after)) (hx : ∀ rest, x.Proper (' ' :: rest))
    (hk : x.kind ≠ .whiteSpace) : AllProper (.blank :: x :: .blank :: after) :=
  ⟨.blank (((hx []).solid hk).append _), hx _, .blank hsolid, hafter⟩

end Piece

namespace Node

/-- A leaf that may stand in what is printed. -/
def Legible : Node → Prop
  | term word => isWord word = true ∧ word ≠ "OR"
  | phrase text => '"' ∉ text.toList
  | field _ raw => Solid raw.toList
  | _ => True

/-- What is printed begins with a character other than white space. -/
theorem solid_spelled_pieces {n : Node} (h : ∀ m ∈ n.leaves, m.Legible) :
    Solid (Piece.spelled n.pieces) := by
  induction n with
  | term word =>
    have hword : isWord word = true := (h _ (List.mem_singleton_self _)).1
    simpa [pieces] using solid_of_isWord hword
  | phrase text =>
    rw [pieces, Piece.spelled_cons, quoted_eq, String.toList_ofList]
    exact solid_cons (not_isWhiteSpace_of_mem (by decide)) _
  | field label raw =>
    have hraw : Solid raw.toList := h _ (List.mem_singleton_self _)
    simpa [pieces] using hraw
  | not n ih => exact solid_cons (c := '-') (not_isWhiteSpace_of_mem (by decide)) _
  | and l r ihl ihr | or l r ihl ihr =>
    rw [pieces, Piece.spelled_append]
    exact (ihl fun m hm => h m (List.mem_append_left _ hm)).append _
  | group n ih => exact solid_cons (c := '(') (not_isWhiteSpace_of_mem (by decide)) _

/-- **The pieces of a tree look like tokens where they stand**, if no word goes on after them. -/
theorem allProper_pieces {n : Node} (h : ∀ m ∈ n.leaves, m.Legible) {after : List Piece}
    (hafter : Piece.AllProper after) (hseparated : Separated (Piece.spelled after)) :
    Piece.AllProper (n.pieces ++ after) := by
  have hsolid {r : Node} (hr : ∀ m ∈ r.leaves, m.Legible) (after : List Piece) :
      Solid (Piece.spelled (r.pieces ++ after)) := by
    rw [Piece.spelled_append]
    exact (solid_spelled_pieces hr).append _
  induction n generalizing after with
  | term word =>
    obtain ⟨hword, hor⟩ := h _ (List.mem_singleton_self _)
    exact ⟨.word hword hor hseparated, hafter⟩
  | phrase text => exact ⟨.phrase (h _ (List.mem_singleton_self _)), hafter⟩
  | field label raw => exact ⟨.field (h _ (List.mem_singleton_self _)), hafter⟩
  | not n ih => exact ⟨.sign (c := '-') (by simp), ih h hafter hseparated⟩
  | and l r ihl ihr =>
    have hr := fun m hm => h m (List.mem_append_right _ hm)
    have hright := ihr hr hafter hseparated
    rw [pieces, List.append_assoc]
    exact ihl (fun m hm => h m (List.mem_append_left _ hm))
      (hright.join (hsolid hr after)
        (fun rest => .word (by decide) (by decide) (separated_cons continuesWord_space rest))
        (by decide))
      (separated_cons continuesWord_space _)
  | or l r ihl ihr =>
    have hr := fun m hm => h m (List.mem_append_right _ hm)
    have hright := ihr hr hafter hseparated
    rw [pieces, List.append_assoc]
    exact ihl (fun m hm => h m (List.mem_append_left _ hm))
      (hright.join (hsolid hr after) (fun rest => .or (separated_cons continuesWord_space rest))
        (by decide))
      (separated_cons continuesWord_space _)
  | group n ih =>
    have hclose : continuesWord ')' = false := by decide
    rw [pieces, List.cons_append, List.append_assoc]
    exact ⟨.sign (c := '(') (by simp), ih h ⟨.sign (c := ')') (by simp), hafter⟩
      (separated_cons hclose _)⟩

theorem allProper {n : Node} (h : ∀ m ∈ n.leaves, m.Legible) : Piece.AllProper n.pieces := by
  have hproper : Piece.AllProper (n.pieces ++ []) := allProper_pieces h trivial rfl
  rwa [List.append_nil] at hproper

end Node

end SearchQuery
