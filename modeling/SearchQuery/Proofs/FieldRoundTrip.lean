import Mathlib.Data.List.Flatten
import SearchQuery.Proofs.Pieces
import SearchQuery.Proofs.Termination
import SearchQuery.Proofs.Tiling

/-!
# Printing and parsing again with fields

A tree is not always printed as it was written: every connective is spelled out, and blanks stand
only around connectives. The rules of the caller are tried on the new text, and may find there what
they did not find before.

* `Piece.kept`: in front of what comes after it, the piece is taken off as the token that it was.
  This is so just if a step takes its kind and its text (`Piece.lexeme_eq_iff_kept`).
* What is printed is cut into its pieces just if all of them are kept
  (`Scanner.map_face_eq_iff_allKept`).
* No other tokens of what is printed have the tree: they would be fewer, but nothing that is printed
  is left over but blanks (`Grammar.Derives.faces_eq`).
* So the tree of a query is read again from what it is printed as just if all pieces are kept
  (`Parser.parse_print_iff_kept`).
-/

namespace SearchQuery

open Text Grammar Lexer

/-! ## How the tokens of fields are written -/

namespace Scanner

variable {s s' : Scanner}

/-- The text of a token begins where what is still to be read does. -/
theorem exists_lexeme_text_eq {c : Char} {cs : List Char} (hs : s.rest = c :: cs) :
    ∃ ds, s.lexeme.text.toList = c :: ds := by
  have hne : s.rest ≠ [] := by simp [hs]
  have hprefix := hs ▸ s.lexeme_text_prefix
  obtain hnil | ⟨ds, hds, -⟩ := List.prefix_cons_iff.mp hprefix
  · exact absurd (String.toList_eq_nil_iff.mp hnil) (lexeme_text_ne_empty hne)
  · exact ⟨ds, hds⟩

/-- **Every token is written as its kind demands**, those of fields included. -/
theorem Tiled.lexeme_written (h : s.Tiled) (hs : s.rest ≠ []) :
    Written s.lexeme.text s.lexeme.kind := by
  obtain ⟨c, cs, hrest⟩ := List.exists_cons_of_ne_nil hs
  obtain hfirst | ⟨hspace, hfield⟩ :=
    lexeme_eq_first_or_isField (fun r hr => (h.fields r hr).isField) hrest
  · exact hfirst ▸ first_written c cs
  · obtain ⟨label, hlabel⟩ := Kind.exists_label hfield
    obtain ⟨ds, hds⟩ := exists_lexeme_text_eq hrest
    exact hlabel ▸ ⟨c, ds, hds, hspace⟩

theorem Tiled.written_of_mem_tokensWithin {n : Nat} {ts : List Token} (h : s.Tiled)
    (hts : s.tokensWithin n = some (ts, s')) :
    ∀ t ∈ ts, ∃ x, t.text = some x ∧ Written x t.kind := by
  intro t ht
  obtain ⟨s₁, hreaches, hs₁, rfl⟩ := exists_scan_of_mem_tokensWithin hts t ht
  exact ⟨s₁.lexeme.text, rfl, (h.reaches hreaches).lexeme_written hs₁⟩

/-- Every query is cut into tokens that tile it, all written as their kinds demand. -/
theorem exists_tokenize_written (h : ∀ r ∈ s.fields, r.IsTokenField) (input : String) :
    ∃ ts s', s.tokenize input = some (ts, s') ∧ Tiles 0 input.toList ts ∧
      ∀ t ∈ ts, ∃ x, t.text = some x ∧ Written x t.kind := by
  have htiled : (s.read input).Tiled := ⟨h, rfl, rfl⟩
  obtain ⟨ts, s', hts, -, -, htiles, -⟩ := htiled.exists_tokenize input
  exact ⟨ts, s', hts, htiles, htiled.written_of_mem_tokensWithin hts⟩

end Scanner

/-- An operand that is written as its kind demands may be printed. -/
theorem Token.Reads.legible {t : Token} {m : Node} {x : String} (h : t.Reads m)
    (hx : t.text = some x) (hwritten : Written x t.kind) : m.Legible := by
  cases h with
  | word hk ht hand =>
    obtain rfl := Option.some.inj (ht.symm.trans hx)
    rw [hk] at hwritten
    exact hwritten
  | quoted hk ht =>
    rename_i inner
    obtain rfl := Option.some.inj (ht.symm.trans hx)
    rw [hk] at hwritten
    obtain ⟨inner', hinner, heq⟩ := hwritten
    have hlists := String.ofList_inj.mp heq
    obtain rfl : inner = inner' := by simpa using hlists
    simpa [Node.Legible] using hinner
  | unquoted hk ht hquotes =>
    obtain rfl := Option.some.inj (ht.symm.trans hx)
    rw [hk] at hwritten
    obtain ⟨inner, -, heq⟩ := hwritten
    exact absurd heq (hquotes inner)
  | field hk ht =>
    obtain rfl := Option.some.inj (ht.symm.trans hx)
    rw [hk] at hwritten
    exact hwritten

theorem Grammar.Derives.legible {part : Part} {d : Nat} {ts : List Token} {n : Node}
    (h : Derives part d ts n) (hts : ∀ t ∈ ts, ∃ x, t.text = some x ∧ Written x t.kind) :
    ∀ m ∈ n.leaves, m.Legible := by
  intro m hm
  obtain ⟨t, ht, hreads⟩ := h.exists_reads (fun t ht => (hts t ht).imp fun _ hx => hx.1) hm
  obtain ⟨x, hx, hwritten⟩ := hts t ht
  exact hreads.legible hx hwritten

/-! ## Nothing is left over -/

namespace Lexer

/-- The number of characters other than white space. -/
def weight (text : List Char) : Nat := text.countP (!isWhiteSpace ·)

theorem weight_append (text text' : List Char) :
    weight (text ++ text') = weight text + weight text' :=
  List.countP_append

theorem weight_eq_zero {text : List Char} (h : ∀ c ∈ text, isWhiteSpace c = true) :
    weight text = 0 :=
  List.countP_eq_zero.mpr fun c hc => by simp [h c hc]

theorem Solid.weight_pos {text : List Char} (h : Solid text) : 0 < weight text := by
  obtain ⟨c, cs, rfl, hc⟩ := h
  exact List.countP_pos_iff.mpr ⟨c, List.mem_cons_self .., by simp [hc]⟩

/-- The texts of tokens, one after the other. -/
def faceTexts (fs : List (Kind × Option String)) : List Char :=
  fs.flatMap fun f => (f.2.getD "").toList

theorem faceTexts_cons (k : Kind) (x : String) (fs : List (Kind × Option String)) :
    faceTexts ((k, some x) :: fs) = x.toList ++ faceTexts fs := rfl

theorem weight_faceTexts_le {fs gs : List (Kind × Option String)} (h : fs.Sublist gs) :
    weight (faceTexts fs) ≤ weight (faceTexts gs) :=
  (h.flatMap _).countP_le

end Lexer

theorem Tiles.weight_faceTexts {p : Nat} {text : List Char} {ts : List Token}
    (h : Tiles p text ts) : weight (faceTexts (ts.map Token.face)) = weight text := by
  induction h with
  | blank hw => exact (weight_eq_zero hw).symm
  | token hw hx h ih =>
    rw [List.map_cons, Token.face, faceTexts_cons, weight_append, weight_append, weight_append, ih,
      weight_eq_zero hw, Nat.zero_add]

namespace Piece

theorem weight_faceTexts {ps : List Piece} (h : AllProper ps) :
    weight (faceTexts (faces ps)) = weight (spelled ps) := by
  induction ps with
  | nil => rfl
  | cons x after ih =>
    obtain ⟨hx, hafter⟩ := h
    rw [faces_cons, spelled_cons, weight_append, ← ih hafter]
    split
    · next hk =>
      have hblank : weight x.text.toList = 0 := by
        rw [hx.eq_blank hk]
        exact weight_eq_zero (by simp [blank, isWhiteSpace_space])
      rw [hblank, Nat.zero_add]
    · rw [faceTexts_cons, weight_append]

/-- Some of the pieces with the texts of all of them are all of them. -/
theorem eq_faces_of_sublist {ps : List Piece} (h : AllProper ps)
    {fs : List (Kind × Option String)} (hfs : fs.Sublist (faces ps))
    (hweight : weight (faceTexts fs) = weight (spelled ps)) : fs = faces ps := by
  induction ps generalizing fs with
  | nil => exact List.sublist_nil.mp hfs
  | cons x after ih =>
    have hall := weight_faceTexts h
    obtain ⟨hx, hafter⟩ := h
    by_cases hk : x.kind = .whiteSpace
    · rw [faces_cons, if_pos hk] at hfs hall ⊢
      exact ih hafter hfs (by rw [hweight, ← hall, weight_faceTexts hafter])
    · rw [faces_cons, if_neg hk] at hfs ⊢
      rw [spelled_cons, weight_append] at hweight
      cases hfs with
      | cons _ hfs =>
        -- Without the first piece, its characters would be missing.
        have hle := weight_faceTexts_le hfs
        have hrest := weight_faceTexts hafter
        have hpos := (hx.solid hk).weight_pos
        omega
      | cons_cons _ hfs =>
        rw [faceTexts_cons, weight_append] at hweight
        rw [ih hafter hfs (Nat.add_left_cancel hweight)]

end Piece

/-- **If the tokens of what is printed have the tree, then they are the pieces.** -/
theorem Grammar.Derives.faces_eq {part : Part} {d : Nat} {ts : List Token} {n : Node}
    (h : Derives part d ts n) (hts : ∀ t ∈ ts, ∃ x, t.text = some x ∧ Written x t.kind)
    {p : Nat} (htiles : Tiles p n.print.toList ts) :
    ts.map Token.face = Piece.faces n.pieces := by
  have hproper : Piece.AllProper n.pieces := Node.allProper (h.legible hts)
  refine Piece.eq_faces_of_sublist hproper (h.faces_sublist hts) ?_
  rw [htiles.weight_faceTexts, Node.spelled_pieces]

/-! ## Pieces that are kept -/

namespace Piece

/-- Whether the piece is taken off as the token that it is, in front of the text `rest`. A blank, a
phrase and `OR` always are. A field is if its text is what the structural rules and those of the
caller take off first, by a rule with its label; a word or a sign if they take nothing off. -/
def kept (fields : List Rule) (x : Piece) (rest : List Char) : Bool :=
  x.kind.isStructural ||
    decide ((Scanner.early? fields (x.text.toList ++ rest)).map (fun y => (y.kind, y.text)) =
      if x.kind.isField then some (x.kind, x.text) else none)

/-- Whether all pieces are kept in front of those that come after them. -/
def allKept (fields : List Rule) : List Piece → Bool
  | [] => true
  | x :: after => x.kept fields (spelled after) && allKept fields after

variable {s : Scanner} {x : Piece} {rest : List Char}

/-- A step takes the kind and the text of a piece just if the piece is kept. -/
theorem lexeme_eq_iff_kept (hs : s.Tiled) (hrest : s.rest = x.text.toList ++ rest)
    (hx : x.Proper rest) :
    (s.lexeme.kind = x.kind ∧ s.lexeme.text = x.text) ↔ x.kept s.fields rest = true := by
  cases hfield : x.kind.isField with
  | false =>
    obtain ⟨c, cs, hcons, hfirst⟩ := hx.first_eq hfield
    rw [kept, Scanner.lexeme_eq_early? (hrest.trans hcons), hrest, hcons, Scanner.early?_cons,
      hfirst]
    cases hstructural : x.kind.isStructural with
    | true => simp
    | false =>
      cases hfound : s.fields.findSome? (Scanner.lexeme? (c :: cs)) with
      | none => simp [hfield]
      | some y =>
        obtain ⟨hy, -⟩ :=
          Scanner.isField_of_findSome? (fun r hr => (hs.fields r hr).isField) hfound
        have hne : y.kind ≠ x.kind := fun heq => by simp [← heq, hy] at hfield
        simp [hfield, hne]
  | true =>
    obtain ⟨label, hlabel⟩ := Kind.exists_label hfield
    have hstructural : x.kind.isStructural = false := by rw [hlabel]; rfl
    have hsolid : Solid x.text.toList := hx.solid (by simp [hlabel])
    obtain ⟨c, cs, hcons, -⟩ := hsolid.append rest
    rw [kept, hstructural, Bool.false_or, decide_eq_true_eq, if_pos hfield,
      Scanner.lexeme_eq_early? (hrest.trans hcons), hrest]
    cases Scanner.early? s.fields (x.text.toList ++ rest) with
    | none =>
      have hne : (first c cs).kind ≠ x.kind := fun heq => by
        simp [← heq, isField_first] at hfield
      simp [hne]
    | some y => simp

end Piece

/-! ## Cutting up what is printed -/

namespace Scanner

variable {s s' : Scanner}

/-- Where no white space stands, a step takes a token. -/
theorem Tiled.lexeme_kind_ne_whiteSpace (h : s.Tiled) (hs : Solid s.rest) :
    s.lexeme.kind ≠ .whiteSpace := by
  intro hk
  obtain ⟨c, cs, hrest, hc⟩ := hs
  obtain ⟨ds, hds⟩ := exists_lexeme_text_eq hrest
  have hblank := h.lexeme_text_blank (by simp [hrest]) hk c (by simp [hds])
  simp [hc] at hblank

theorem eq_nil_of_tokensWithin {n : Nat} {ts : List Token} (hs : s.rest = [])
    (h : s.tokensWithin n = some (ts, s')) : ts = [] := by
  cases n with
  | zero => simp [tokensWithin] at h
  | succ n =>
    rw [tokensWithin, advance_eq, if_pos hs] at h
    exact (Prod.mk.inj (Option.some.inj h)).1.symm

/-- **What is printed is cut into its pieces just if all of them are kept.** -/
theorem map_face_eq_iff_allKept {ps : List Piece} {n : Nat} {ts : List Token} (hs : s.Tiled)
    (hrest : s.rest = Piece.spelled ps) (hps : Piece.AllProper ps)
    (h : s.tokensWithin n = some (ts, s')) :
    ts.map Token.face = Piece.faces ps ↔ Piece.allKept s.fields ps = true := by
  induction ps generalizing s n ts with
  | nil => simp [eq_nil_of_tokensWithin hrest h, Piece.allKept]
  | cons x after ih =>
    obtain ⟨hx, hafter⟩ := hps
    have hkept : s.lexeme.kind = x.kind ∧ s.lexeme.text = x.text ↔
        x.kept s.fields (Piece.spelled after) = true :=
      Piece.lexeme_eq_iff_kept hs hrest hx
    have hnext (hlexeme : s.lexeme.text = x.text) : s.stepped.rest = Piece.spelled after := by
      have happend := hs.lexeme_append
      rw [hrest, hlexeme, Piece.spelled_cons] at happend
      rw [rest_stepped]
      exact List.append_cancel_left happend
    by_cases hk : x.kind = .whiteSpace
    · -- A blank is always taken off as it is, and gives no token.
      have hblank := hkept.mpr (by simp [Piece.kept, hk, Kind.isStructural])
      have hne : s.rest ≠ [] := by simp [hrest, hx.eq_blank hk, Piece.blank]
      rw [tokensWithin_blank hne (hblank.1.trans hk)] at h
      rw [Piece.faces_cons, if_pos hk, Piece.allKept, hkept.mp hblank, Bool.true_and,
        ih hs.stepped (hnext hblank.2) hafter h, fields_stepped]
    · -- Any other piece stands for a token, and if this is the piece, the next pieces follow it.
      have hsolid : Solid s.rest := hrest ▸ (hx.solid hk).append _
      have hne : s.rest ≠ [] := by
        obtain ⟨c, cs, hcons, -⟩ := hsolid
        simp [hcons]
      cases n with
      | zero => simp [tokensWithin] at h
      | succ n =>
        rw [tokensWithin_token hne (hs.lexeme_kind_ne_whiteSpace hsolid)
          (hs.lexeme_kind_ne_finish hne)] at h
        obtain ⟨⟨us, s₁⟩, hrun, heq⟩ := Option.map_eq_some_iff.mp h
        obtain ⟨rfl, rfl⟩ := Prod.mk.inj heq
        have hface : s.scan.1.face = (x.kind, some x.text) ↔
            s.lexeme.kind = x.kind ∧ s.lexeme.text = x.text := by
          simp [Token.face, scan_fst]
        rw [Piece.faces_cons, if_neg hk, List.map_cons, List.cons.injEq, hface, Piece.allKept,
          Bool.and_eq_true, ← hkept, ← fields_stepped]
        exact and_congr_right fun hlexeme => ih hs.stepped (hnext hlexeme.2) hafter hrun

end Scanner

/-! ## Trees of queries -/

namespace Parser

/-- **When a tree with fields is read as it is printed.** Let the rules of the caller be fields that
are made from patterns for the token alone. The tree of a query is read again from what it is
printed as just if every printed piece is kept: neither the structural rules nor those of the caller
take anything off where a word, `AND` or a sign stands, and where a field stands they take off its
text, by a rule with its label. -/
theorem parse_print_iff_kept {p : Parser} {input : String} {n : Node}
    (hfields : ∀ r ∈ p.scanner.fields, r.IsTokenField)
    (hn : (p.parseText input).map (·.1) = some (.ok n)) :
    (p.parseText n.print).map (·.1) = some (.ok n) ↔
      Piece.allKept p.scanner.fields n.pieces = true := by
  obtain ⟨ts, s, hts, -, hwritten⟩ := Scanner.exists_tokenize_written hfields input
  obtain ⟨us, s', hus, htiles, hwritten'⟩ := Scanner.exists_tokenize_written hfields n.print
  have hderives := (parseText_eq_ok_iff hts n).mp hn
  have hproper : Piece.AllProper n.pieces := Node.allProper (hderives.legible hwritten)
  -- The tokens of what is printed have the tree just if they are the pieces.
  have hpieces : Derives .disjunction maxNesting us n ↔ us.map Token.face = Piece.faces n.pieces :=
    ⟨fun h => h.faces_eq hwritten' htiles, hderives.of_faces⟩
  rw [parseText_eq_ok_iff hus, hpieces]
  have htiled : (p.scanner.read n.print).Tiled := ⟨hfields, rfl, rfl⟩
  exact Scanner.map_face_eq_iff_allKept (s := p.scanner.read n.print) htiled
    n.spelled_pieces.symm hproper hus

/-- A field after a minus, a word and a phrase are all kept. -/
theorem parse_print_iff_kept_trip :
    let p : Parser := .ofScanner (.ofRules [Session.tripRule])
    let n : Node := .and (.not (.field "TRIP" "trip:7"))
      (.group (.or (.term "a") (.phrase "b c")))
    (p.parseText "-  trip:7( a OR \"b c\")").map (·.1) = some (.ok n) ∧
      n.print = "-trip:7 AND (a OR \"b c\")" ∧
      (p.parseText n.print).map (·.1) = some (.ok n) := by
  intro p n
  have hfields : ∀ r ∈ p.scanner.fields, r.IsTokenField := by
    simp [p, ofScanner, Scanner.ofRules, Session.isTokenField_tripRule]
  have hn : (p.parseText "-  trip:7( a OR \"b c\")").map (·.1) = some (.ok n) := by
    decide +kernel
  exact ⟨hn, by decide +kernel, (parse_print_iff_kept hfields hn).mpr (by decide +kernel)⟩

/-- A field that begins with a hyphen takes the printed minus and the word after it. -/
theorem flag_takes_printed_minus :
    ∃ r, Rule.ofToken (.field "FLAG") "-[a-z]+" = .ok r ∧
      ((ofScanner (.ofRules [r])).parseText "- a").map (·.1) = some (.ok (.not (.term "a"))) ∧
      (Node.not (.term "a")).print = "-a" ∧
      ((ofScanner (.ofRules [r])).parseText "-a").map (·.1) = some (.ok (.field "FLAG" "-a")) :=
  ⟨⟨.field "FLAG", Rule.splitSource "-[a-z]+",
      .token (Rule.anchored (.seq (.one (.range '-' '-'))
        (.repeated 1 none true (.one (.range 'a' 'z')))))⟩,
    by decide +kernel, by decide +kernel, by decide +kernel, by decide +kernel⟩

end Parser

end SearchQuery
