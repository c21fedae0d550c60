import SearchQuery.Proofs.Outlines
import SearchQuery.Proofs.SyntaxErrors
import SearchQuery.Proofs.Tiling

/-!
# The mark under a token

A syntax error is shown with the query, and in the line below it with a mark. The mark is put as
many characters to the right as the token stands behind the beginning of the query, not behind the
beginning of its line.

* The token of an error stands at its position (`SyntaxError.token_stands`).
* `endCell`: the line and the column that a text ends in. `SyntaxError.Marked`: the mark stands just
  below the beginning of the token.
* The token is marked just if the query has no line break in it (`SyntaxError.marked_iff`,
  `SyntaxError.marked_iff_of_parse`).
-/

namespace SearchQuery

open Text

/-! ## Lines -/

namespace Text

theorem lines_of_not_mem {s : String} (h : '\n' ∉ s.toList) : lines s = [s.toList] :=
  List.splitOnP_eq_singleton fun c hc => by simpa using ne_of_mem_of_not_mem hc h

theorem lines_append_break (s t : String) : lines (s ++ "\n" ++ t) = lines s ++ lines t := by
  have hbreak : "\n".toList = ['\n'] := rfl
  rw [lines, String.toList_append, String.toList_append, hbreak, List.append_assoc]
  exact List.splitOnP_append_cons _ _ (beq_self_eq_true _)

end Text

/-! ## Cells -/

/-- A cell of a text that is shown. -/
@[ext]
structure Cell where
  row : Nat
  column : Nat
  deriving DecidableEq, Repr

namespace Cell

/-- The cell behind a character. -/
def move (p : Cell) (c : Char) : Cell :=
  if c = '\n' then ⟨p.row + 1, 0⟩ else ⟨p.row, p.column + 1⟩

/-- The cell in the next line, in the same column. -/
def below (p : Cell) : Cell := ⟨p.row + 1, p.column⟩

variable {cs : List Char}

theorem foldl_move_row (p : Cell) (cs : List Char) :
    (cs.foldl move p).row = p.row + cs.count '\n' := by
  induction cs generalizing p with
  | nil => rfl
  | cons c cs ih =>
    rw [List.foldl_cons, ih, move]
    by_cases hc : c = '\n'
    · rw [if_pos hc, hc, List.count_cons_self]
      exact Nat.succ_add_eq_add_succ ..
    · rw [if_neg hc, List.count_cons_of_ne hc]

/-- Within a line, every character takes a column. -/
theorem foldl_move_column_of_not_mem (p : Cell) (h : '\n' ∉ cs) :
    (cs.foldl move p).column = p.column + cs.length := by
  induction cs generalizing p with
  | nil => rfl
  | cons c cs ih =>
    obtain ⟨hc, hcs⟩ : '\n' ≠ c ∧ '\n' ∉ cs := by simpa using h
    rw [List.foldl_cons, ih _ hcs, move, if_neg (Ne.symm hc), List.length_cons]
    exact Nat.add_right_comm ..

/-- Behind a line break, columns are counted anew. -/
theorem foldl_move_column_lt_of_mem (p : Cell) (h : '\n' ∈ cs) :
    (cs.foldl move p).column < cs.length := by
  induction cs generalizing p with
  | nil => simp at h
  | cons c cs ih =>
    rw [List.foldl_cons, List.length_cons]
    by_cases hcs : '\n' ∈ cs
    · exact Nat.lt_succ_of_lt (ih _ hcs)
    · obtain rfl : '\n' = c := by simpa [hcs] using h
      rw [foldl_move_column_of_not_mem _ hcs, move, if_pos rfl, Nat.zero_add]
      exact Nat.lt_succ_self _

/-- A new line that begins with blanks. -/
theorem foldl_move_break (p : Cell) (k : Nat) :
    ('\n' :: List.replicate k ' ').foldl move p = ⟨p.row + 1, k⟩ := by
  have hblanks : '\n' ∉ List.replicate k ' ' := by simp [List.mem_replicate]
  have hrow := foldl_move_row ⟨p.row + 1, 0⟩ (List.replicate k ' ')
  have hcolumn := foldl_move_column_of_not_mem ⟨p.row + 1, 0⟩ hblanks
  rw [List.count_eq_zero_of_not_mem hblanks] at hrow
  rw [List.length_replicate, Nat.zero_add] at hcolumn
  rw [List.foldl_cons, move, if_pos rfl]
  exact Cell.ext hrow hcolumn

end Cell

/-- The cell behind a text. -/
def endCell (cs : List Char) : Cell := cs.foldl Cell.move ⟨0, 0⟩

theorem endCell_append (cs ds : List Char) : endCell (cs ++ ds) = ds.foldl Cell.move (endCell cs) :=
  List.foldl_append

/-! ## What is shown -/

namespace SyntaxError

/-- The first line of what is shown. -/
def headline (e : SyntaxError) : String := "query syntax error: " ++ e.message

/-- What is shown before the token. -/
def upToToken (e : SyntaxError) : List Char :=
  e.headline.toList ++ '\n' :: List.replicate 2 ' ' ++ e.input.toList.take e.position

/-- What is shown before the mark. -/
def upToMark (e : SyntaxError) : List Char :=
  e.headline.toList ++ '\n' :: List.replicate 2 ' ' ++ e.input.toList ++
    '\n' :: List.replicate (2 + e.column) ' '

/-- The mark stands just below the beginning of the token. -/
def Marked (e : SyntaxError) : Prop := endCell e.upToMark = (endCell e.upToToken).below

instance (e : SyntaxError) : Decidable e.Marked :=
  inferInstanceAs (Decidable (endCell e.upToMark = (endCell e.upToToken).below))

/-- The line with the mark. -/
def markLine (e : SyntaxError) : List Char := List.replicate (2 + e.column) ' ' ++ ['^']

/-- The lines with the hint. -/
def hintLines (e : SyntaxError) : List (List Char) :=
  e.suggestion.toList.flatMap fun hint => lines ("hint: " ++ hint)

/-- What is shown up to the mark. -/
def shown (e : SyntaxError) : String :=
  e.headline ++ "\n  " ++ e.input ++ "\n  " ++ (String.ofList (List.replicate e.column ' ') ++ "^")

theorem display_eq (e : SyntaxError) :
    e.display = e.suggestion.elim e.shown fun hint => e.shown ++ "\n" ++ ("hint: " ++ hint) := by
  have hhint (hint : String) :
      e.shown ++ "\nhint: " ++ hint = e.shown ++ "\n" ++ ("hint: " ++ hint) := by
    have hbreak : "\nhint: " = "\n" ++ "hint: " := by decide
    rw [hbreak]
    simp only [String.append_assoc]
  unfold display
  split
  · next hint h =>
    rw [h]
    exact hhint hint
  · next h =>
    rw [h]
    rfl

theorem toList_shown_prefix (e : SyntaxError) : e.shown.toList <+: e.display.toList := by
  rw [display_eq]
  cases e.suggestion with
  | none => exact List.prefix_refl _
  | some hint => simp [String.append_assoc]

theorem toList_shown (e : SyntaxError) : e.shown.toList = e.upToMark ++ ['^'] := by
  have hblanks : [' ', ' '] = List.replicate 2 ' ' := rfl
  rw [upToMark, ← List.replicate_append_replicate, ← hblanks]
  simp [shown]

/-- The mark is shown where it is said to be. -/
theorem upToMark_append_prefix (e : SyntaxError) : e.upToMark ++ ['^'] <+: e.display.toList :=
  e.toList_shown ▸ e.toList_shown_prefix

/-- The token is shown where it is said to be. -/
theorem upToToken_append_prefix (e : SyntaxError) :
    e.upToToken ++ e.input.toList.drop e.position <+: e.display.toList := by
  refine List.IsPrefix.trans ?_ e.upToMark_append_prefix
  rw [upToToken, List.append_assoc, List.take_append_drop, upToMark]
  exact (List.prefix_append ..).trans (List.prefix_append ..)

/-- **The line over the mark is the last line of the query**, which has two blanks before it if it
is the first line as well. -/
theorem lines_display (e : SyntaxError) :
    lines e.display =
      lines e.headline ++ lines ("  " ++ e.input) ++ [e.markLine] ++ e.hintLines := by
  have hmark : lines ("  " ++ (String.ofList (List.replicate e.column ' ') ++ "^")) =
      [e.markLine] := by
    have hblanks : [' ', ' '] = List.replicate 2 ' ' := rfl
    rw [lines_of_not_mem (by simp [List.mem_replicate]), markLine, ← List.replicate_append_replicate,
      ← hblanks]
    simp
  have hshown : lines e.shown = lines e.headline ++ lines ("  " ++ e.input) ++ [e.markLine] := by
    have hbreak : "\n  " = "\n" ++ "  " := by decide
    rw [← hmark, ← lines_append_break, ← lines_append_break, shown, hbreak]
    simp only [String.append_assoc]
  rw [display_eq, hintLines]
  cases e.suggestion with
  | none => simp [hshown]
  | some hint => simp [lines_append_break, hshown]

variable {e : SyntaxError}

/-- **The token is marked just if the query is in one line.** Behind a line break the token is
further to the left than the mark, and before one it is further up. -/
theorem marked_iff (h : e.position ≤ e.input.length) : e.Marked ↔ '\n' ∉ e.input.toList := by
  have hcolumn : e.column = e.position := Nat.min_eq_left h
  generalize hp : endCell (e.headline.toList ++ '\n' :: List.replicate 2 ' ') = p
  have hp2 : p.column = 2 := by
    rw [← hp, endCell_append, Cell.foldl_move_break]
  have hmark : endCell e.upToMark = ⟨p.row + e.input.toList.count '\n' + 1, 2 + e.position⟩ := by
    rw [upToMark, endCell_append, endCell_append, hp, Cell.foldl_move_break, Cell.foldl_move_row,
      hcolumn]
  have htoken : endCell e.upToToken = (e.input.toList.take e.position).foldl Cell.move p := by
    rw [upToToken, endCell_append, hp]
  have hlen : (e.input.toList.take e.position).length = e.position :=
    List.length_take_of_le (h.trans_eq String.length_toList.symm)
  have hrow := Cell.foldl_move_row p (e.input.toList.take e.position)
  rw [Marked, hmark, htoken, Cell.ext_iff, Cell.below]
  constructor
  · rintro ⟨hbelow, hright⟩ hbreak
    by_cases hbefore : '\n' ∈ e.input.toList.take e.position
    · have hlt := Cell.foldl_move_column_lt_of_mem p hbefore
      simp only at hright
      omega
    · have hcount := List.count_pos_iff.mpr hbreak
      rw [List.count_eq_zero_of_not_mem hbefore] at hrow
      simp only at hbelow
      omega
  · intro hbreak
    have hbefore : '\n' ∉ e.input.toList.take e.position := fun hmem =>
      hbreak (List.mem_of_mem_take hmem)
    have hright := Cell.foldl_move_column_of_not_mem p hbefore
    rw [List.count_eq_zero_of_not_mem hbefore] at hrow
    rw [List.count_eq_zero_of_not_mem hbreak, hrow, hright, hp2, hlen]
    exact ⟨rfl, rfl⟩

/-- In a query of one line, the character over the mark is that at the position of the error. -/
theorem getElem?_line (e : SyntaxError) :
    ("  " ++ e.input).toList[2 + e.position]? = e.input.toList[e.position]? := by
  have hblanks : "  ".toList = [' ', ' '] := rfl
  rw [String.toList_append, hblanks, List.getElem?_append_right (by simp)]
  simp

end SyntaxError

/-! ## Errors of queries -/

/-- The token is where it is said to be in the query: its text is not empty and begins at its
position, and the end has no text and is behind all characters. -/
def Token.Stands (t : Token) (input : String) : Prop :=
  if t.kind = .finish then t.text = none ∧ t.position = input.length
  else ∃ x, t.text = some x ∧ x ≠ "" ∧ x.toList <+: input.toList.drop t.position

/-- Where tokens tile a query, every token stands in it, and so does the end. -/
theorem Scanner.Tiled.exists_tokenize_stands {s : Scanner} (h : s.Tiled) (input : String) :
    ∃ ts s', s.tokenize input = some (ts, s') ∧ ∀ t ∈ ts ++ [s'.last], t.Stands input := by
  have hn : (s.read input).rest.length < input.length + 1 :=
    Nat.lt_succ_of_le (Nat.le_of_eq String.length_toList)
  obtain ⟨ts, s', hts, h', hinput, hs', hlast, htiles⟩ := (h.read input).exists_tokensWithin hn
  refine ⟨ts, s', hts, fun t ht => ?_⟩
  rcases List.mem_append.mp ht with ht | ht
  · obtain ⟨x, hx, hne, -, hprefix⟩ := htiles.prefix_drop [] t ht
    rw [List.append_nil] at hprefix
    rw [Token.Stands, if_neg ((tokensWithin_eq_some hts).2.1 t ht)]
    exact ⟨x, hx, hne, hprefix⟩
  · rw [List.mem_singleton.mp ht, hlast, h'.position_of_end hs', hinput]
    exact ⟨rfl, rfl⟩

namespace SyntaxError

variable {e : SyntaxError}

/-- The token that an error is about. -/
def token (e : SyntaxError) : Token := ⟨e.found, e.text, e.position⟩

/-- **The token of an error stands in the query.** -/
theorem token_stands {p : Parser} (hp : p.scanner.Tiled) {input : String}
    (h : (p.parseText input).map (·.1) = some (.error (.malformed e))) :
    e.input = input ∧ e.token.Stands input := by
  obtain ⟨ts, s', hts, hstands⟩ := hp.exists_tokenize_stands input
  obtain ⟨us, t, state, problem, expected, ⟨vs, hvs⟩, -, -, rfl⟩ :=
    Parser.exists_reject_of_parseText hts h
  exact ⟨rfl, hstands t (by simp [← hvs])⟩

theorem position_le_of_stands {input : String} (h : e.token.Stands input) :
    e.position ≤ input.length := by
  rw [Token.Stands] at h
  split at h
  · exact h.2.le
  · obtain ⟨x, -, hne, hprefix⟩ := h
    by_contra hlt
    have hlen : input.toList.length ≤ e.token.position :=
      String.length_toList.trans_le (Nat.le_of_not_le hlt)
    rw [List.drop_of_length_le hlen, List.prefix_nil, String.toList_eq_nil_iff] at hprefix
    exact hne hprefix

/-- **Where the mark of a refused query stands.** With the built-in rules, the token of the error is
where the error says, the query is shown in the lines over the mark, and the mark stands in the
column of the token, counted from the beginning of the query. This is just below the token if and
only if there is no line break in the query; then the line over the mark is the query, and the
character over the mark is that of the token, or there is none if the token is the end. -/
theorem marked_iff_of_parse {q : String} (h : parse q = some (.error (.malformed e))) :
    e.input = q ∧ e.token.Stands q ∧
      lines e.display = lines e.headline ++ lines ("  " ++ q) ++
        [List.replicate (2 + e.position) ' ' ++ ['^']] ++ e.hintLines ∧
      e.upToToken ++ q.toList.drop e.position <+: e.display.toList ∧
      e.upToMark ++ ['^'] <+: e.display.toList ∧
      (e.Marked ↔ '\n' ∉ q.toList) ∧
      ('\n' ∉ q.toList → lines ("  " ++ q) = [("  " ++ q).toList] ∧
        ("  " ++ q).toList[2 + e.position]? = q.toList[e.position]?) := by
  have htiled : (Scanner.ofRules []).Tiled := Scanner.tiled_ofRules (by simp)
  obtain ⟨rfl, hstands⟩ := token_stands htiled h
  have hposition := position_le_of_stands hstands
  have hcolumn : e.column = e.position := Nat.min_eq_left hposition
  refine ⟨rfl, hstands, ?_, e.upToToken_append_prefix, e.upToMark_append_prefix,
    marked_iff hposition, fun hline => ⟨lines_of_not_mem (by simpa using hline), ?_⟩⟩
  · rw [lines_display, markLine, hcolumn]
  · exact e.getElem?_line

/-- The parenthesis in a query of one line is marked. -/
theorem marked_iff_of_parse_paren :
    let e : SyntaxError :=
      ⟨"unexpected closing parenthesis", .endOfQuery, .closeParen, some ")", 2, "a )"⟩
    parse "a )" = some (.error (.malformed e)) ∧ e.Marked := by
  intro e
  have h : parse "a )" = some (.error (.malformed e)) := by decide +kernel
  obtain ⟨-, -, -, -, -, hmarked, -⟩ := marked_iff_of_parse h
  exact ⟨h, hmarked.mpr (by decide)⟩

/-- In the second line, the parenthesis is at the beginning, and over the mark there is nothing. -/
theorem line_break_moves_token :
    let e : SyntaxError :=
      ⟨"unexpected closing parenthesis", .endOfQuery, .closeParen, some ")", 2, "a\n)"⟩
    parse "a\n)" = some (.error (.malformed e)) ∧
      lines e.display =
        ["query syntax error: unexpected closing parenthesis".toList, "  a".toList, ")".toList,
          "    ^".toList, "hint: Remove the ) or add a matching ( before it".toList] ∧
      ")".toList[4]? ≠ "a\n)".toList[2]? ∧ ¬ e.Marked := by
  decide +kernel

end SyntaxError

end SearchQuery
