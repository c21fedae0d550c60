import SearchQuery.Node.Rendering

/-!
# What an outline tells

The outline of a tree has a line for every node, so the tree can be told from it.

* Text between quotes is told from what is written for it (`Text.flatMap_quotedChar_inj`), and no
  quote stands in it but after a backslash (`Text.getLast?_of_flatMap_quotedChar`). So a heading tells
  the texts of its node, also where a label has quotes and commas of its own (`Node.field_inj`).
* A heading tells how many children its node has. So the headings of a tree, a node before its
  children, tell the tree (`Node.headings_inj`).
* The lines of an outline are the headings, each after two blanks for every ancestor of its node
  (`Node.lines_outline`). The headings can be read off them, and so the tree
  (`Node.outline_tells_tree`).
* The visitor comes back from every node to the depth at which it came there
  (`Node.Outliner.visit_eq`), so what it writes is the outline (`Node.Outliner.render_eq_outline`).
-/

namespace SearchQuery

open Text

/-! ## Quoted text -/

namespace Text

theorem hexValue?_digitChar : ∀ d < 16, hexValue? (Nat.digitChar d) = some d := by decide

/-- A number has its value back from its digits. -/
theorem foldl_hexDigits (n : Nat) :
    (hexDigits n).foldl (fun value c => 16 * value + (hexValue? c).getD 0) 0 = n := by
  induction n using Nat.strongRecOn with
  | ind n ih =>
    by_cases hn : n < 16
    · rw [hexDigits, Nat.toDigits_of_lt_base hn]
      simp [hexValue?_digitChar n hn]
    · have hlt : n / 16 < n := by omega
      have hrest := ih (n / 16) hlt
      rw [hexDigits] at hrest ⊢
      rw [Nat.toDigits_of_base_le (by omega) (by omega), List.foldl_append, hrest]
      simp only [List.foldl_cons, List.foldl_nil, hexValue?_digitChar _ (Nat.mod_lt n (by omega)),
        Option.getD_some]
      omega

theorem hexDigits_inj {n m : Nat} (h : hexDigits n = hexDigits m) : n = m := by
  rw [← foldl_hexDigits n, h, foldl_hexDigits]

theorem exists_of_mem_hexDigits {n : Nat} {c : Char} (hc : c ∈ hexDigits n) :
    ∃ d < 16, c = Nat.digitChar d := by
  induction n using Nat.strongRecOn with
  | ind n ih =>
    by_cases hn : n < 16
    · rw [hexDigits, Nat.toDigits_of_lt_base hn, List.mem_singleton] at hc
      exact ⟨n, hn, hc⟩
    · rw [hexDigits, Nat.toDigits_of_base_le (by omega) (by omega), List.mem_append,
        List.mem_singleton] at hc
      rcases hc with hc | hc
      · exact ih (n / 16) (by omega) hc
      · exact ⟨n % 16, Nat.mod_lt n (by omega), hc⟩

/-- Signs that no number is written with. -/
theorem not_mem_hexDigits {c : Char} (hc : hexValue? c = none) (n : Nat) : c ∉ hexDigits n := by
  intro hmem
  obtain ⟨d, hd, rfl⟩ := exists_of_mem_hexDigits hmem
  rw [hexValue?_digitChar d hd] at hc
  cases hc

/-- The characters that are written as a backslash and another character. -/
def shortEscapes : List (Char × Char) :=
  [('\x00', '0'), ('\t', 't'), ('\r', 'r'), ('\n', 'n'), ('\\', '\\'), ('"', '"')]

/-- The three ways to write a character between quotes. -/
theorem quotedChar_cases (c : Char) :
    (quotedChar c = [c] ∧ c ∉ ['\n', '\\', '"']) ∨
      (∃ e, (c, e) ∈ shortEscapes ∧ quotedChar c = ['\\', e]) ∨
      quotedChar c = codePointEscape c := by
  fun_cases quotedChar c with
  | case1 => exact .inr (.inl ⟨'0', by simp [shortEscapes, *], rfl⟩)
  | case2 => exact .inr (.inl ⟨'t', by simp [shortEscapes, *], rfl⟩)
  | case3 => exact .inr (.inl ⟨'r', by simp [shortEscapes, *], rfl⟩)
  | case4 => exact .inr (.inl ⟨'n', by simp [shortEscapes, *], rfl⟩)
  | case5 => exact .inr (.inl ⟨'\\', by simp [shortEscapes, *], rfl⟩)
  | case6 => exact .inr (.inl ⟨'"', by simp [shortEscapes, *], rfl⟩)
  | case7 => exact .inl ⟨rfl, by simp [*]⟩
  | case8 => exact .inr (.inr rfl)

/-- The character after a backslash tells what was escaped, and `u` begins no short escape. -/
theorem eq_of_shortEscapes :
    ∀ x ∈ shortEscapes, ∀ y ∈ shortEscapes, x.2 = y.2 → x.1 = y.1 := by decide

theorem ne_of_shortEscapes : ∀ x ∈ shortEscapes, x.2 ≠ 'u' := by decide

/-- What stands before the first of a sign is told. -/
theorem append_cons_inj {α : Type} {a : α} {xs ys as bs : List α} (hxs : a ∉ xs) (hys : a ∉ ys)
    (h : xs ++ a :: as = ys ++ a :: bs) : xs = ys ∧ as = bs := by
  obtain ⟨zs, rfl, hzs⟩ | ⟨zs, rfl, hzs⟩ := List.append_eq_append_iff.mp h
  · cases zs with
    | nil => simpa using hzs
    | cons z zs =>
      obtain ⟨rfl, -⟩ := List.cons.inj hzs
      exact absurd (by simp) hys
  · cases zs with
    | nil => simpa [eq_comm] using hzs
    | cons z zs =>
      obtain ⟨rfl, -⟩ := List.cons.inj hzs
      exact absurd (by simp) hxs

/-- **A character is told from what is written for it**, whatever follows. -/
theorem quotedChar_append_inj {c d : Char} {as bs : List Char}
    (h : quotedChar c ++ as = quotedChar d ++ bs) : c = d ∧ as = bs := by
  have hplain {c : Char} (hc : c ∉ ['\n', '\\', '"']) : c ≠ '\\' := by
    rintro rfl
    simp at hc
  obtain ⟨hc, hc'⟩ | ⟨e, he, hc⟩ | hc := quotedChar_cases c <;>
    obtain ⟨hd, hd'⟩ | ⟨e', he', hd⟩ | hd := quotedChar_cases d <;>
      simp only [hc, hd, codePointEscape, List.cons_append, List.nil_append, List.append_assoc,
        List.cons.injEq, true_and] at h
  · exact h
  · exact absurd h.1 (hplain hc')
  · exact absurd h.1 (hplain hc')
  · exact absurd h.1.symm (hplain hd')
  · exact ⟨eq_of_shortEscapes _ he _ he' h.1, h.2⟩
  · exact absurd h.1 (ne_of_shortEscapes _ he)
  · exact absurd h.1.symm (hplain hd')
  · exact absurd h.1.symm (ne_of_shortEscapes _ he')
  · have hbrace (c : Char) : '\x7d' ∉ hexDigits c.toNat := not_mem_hexDigits (by decide) _
    obtain ⟨hdigits, hrest⟩ := append_cons_inj (hbrace c) (hbrace d) h
    exact ⟨Char.toNat_inj.mp (hexDigits_inj hdigits), hrest⟩

/-- No escape begins with the quote that ends a text. -/
theorem quotedChar_append_ne (c : Char) (as bs : List Char) : quotedChar c ++ as ≠ '"' :: bs := by
  obtain ⟨hc, hc'⟩ | ⟨e, he, hc⟩ | hc := quotedChar_cases c
  · rw [hc]
    rintro h
    simp [(List.cons.inj h).1] at hc'
  · simp [hc]
  · simp [hc, codePointEscape]

/-- **A text is told from what is written for it**, up to the quote that ends it. -/
theorem flatMap_quotedChar_inj {cs ds as bs : List Char}
    (h : cs.flatMap quotedChar ++ '"' :: as = ds.flatMap quotedChar ++ '"' :: bs) :
    cs = ds ∧ as = bs := by
  induction cs generalizing ds with
  | nil =>
    cases ds with
    | nil => exact ⟨rfl, (List.cons.inj h).2⟩
    | cons d ds =>
      rw [List.flatMap_cons, List.append_assoc] at h
      exact absurd h.symm (quotedChar_append_ne d _ _)
  | cons c cs ih =>
    cases ds with
    | nil =>
      rw [List.flatMap_cons, List.append_assoc] at h
      exact absurd h (quotedChar_append_ne c _ _)
    | cons d ds =>
      rw [List.flatMap_cons, List.flatMap_cons, List.append_assoc, List.append_assoc] at h
      obtain ⟨rfl, hrest⟩ := quotedChar_append_inj h
      obtain ⟨rfl, has⟩ := ih hrest
      exact ⟨rfl, has⟩

/-- Between the quotes no line ends. -/
theorem lineFeed_not_mem_quotedChar (c : Char) : '\n' ∉ quotedChar c := by
  obtain ⟨hc, hc'⟩ | ⟨e, he, hc⟩ | hc := quotedChar_cases c
  · rw [hc, List.mem_singleton]
    rintro rfl
    simp at hc'
  · have hall : ∀ x ∈ shortEscapes, x.2 ≠ '\n' := by decide
    simpa [hc] using (hall _ he).symm
  · have hdigits : '\n' ∉ hexDigits c.toNat := not_mem_hexDigits (by decide) _
    simpa [hc, codePointEscape] using hdigits

/-- The only escape with a quote in it is that of the quote. -/
theorem eq_of_quotedChar_eq_append {c : Char} {before after : List Char}
    (h : quotedChar c = before ++ '"' :: after) : before = ['\\'] := by
  have hmem : '"' ∈ quotedChar c := by simp [h]
  obtain ⟨hc, hc'⟩ | ⟨e, he, hc⟩ | hc := quotedChar_cases c
  · rw [hc, List.mem_singleton] at hmem
    simp [← hmem] at hc'
  · obtain rfl : e = '"' := by simpa [hc, eq_comm] using hmem
    have hone : '"' ∉ ['\\'] := by decide
    have hnone : '"' ∉ before := by
      intro hbefore
      have hcount := congrArg (List.count '"') (hc.symm.trans h)
      have hpos := List.count_pos_iff.mpr hbefore
      simp at hcount
      omega
    exact (append_cons_inj hone hnone (hc.symm.trans h)).1.symm
  · have hdigits : '"' ∉ hexDigits c.toNat := not_mem_hexDigits (by decide) _
    simp [hc, codePointEscape, hdigits] at hmem

/-- **A quote between the quotes stands after a backslash.** -/
theorem getLast?_of_flatMap_quotedChar {cs before after : List Char}
    (h : cs.flatMap quotedChar = before ++ '"' :: after) : before.getLast? = some '\\' := by
  induction cs generalizing before with
  | nil => simp at h
  | cons c cs ih =>
    rw [List.flatMap_cons] at h
    obtain ⟨more, rfl, hmore⟩ | ⟨more, hmore, hafter⟩ := List.append_eq_append_iff.mp h
    · rw [List.getLast?_append, ih hmore, Option.some_or]
    · cases more with
      | nil => simpa using @ih [] hafter.symm
      | cons d more =>
        obtain ⟨rfl, -⟩ := List.cons.inj hafter
        rw [eq_of_quotedChar_eq_append hmore]
        rfl

theorem toList_quoted (s : String) :
    (quoted s).toList = '"' :: (s.toList.flatMap quotedChar ++ ['"']) := by
  rw [quoted, String.toList_ofList, List.cons_append]

theorem quoted_inj {s t : String} (h : quoted s = quoted t) : s = t := by
  have hlist := congrArg String.toList h
  rw [toList_quoted, toList_quoted] at hlist
  exact String.toList_inj.mp (flatMap_quotedChar_inj (List.cons.inj hlist).2).1

theorem lineFeed_not_mem_quoted (s : String) : '\n' ∉ (quoted s).toList := by
  simp [toList_quoted, lineFeed_not_mem_quotedChar]

/-- A text in front of a comma, a blank and quoted text is told where it ends: what follows the
quote could not be a comma, a blank and a quote once more. -/
theorem eq_nil_of_comma_quoted {extra cs ds : List Char}
    (h : ',' :: ' ' :: '"' :: (cs.flatMap quotedChar ++ ['"']) =
      extra ++ ',' :: ' ' :: '"' :: (ds.flatMap quotedChar ++ ['"'])) : extra = [] := by
  match extra with
  | [] => rfl
  | [x] => simp at h
  | [x, y] => simp at h
  | x :: y :: z :: extra =>
    have hrest : cs.flatMap quotedChar ++ ['"'] =
        (extra ++ [',', ' '] ++ '"' :: ds.flatMap quotedChar) ++ ['"'] := by
      simp only [List.cons_append, List.cons.injEq] at h
      simpa using h.2.2.2
    have hlast := getLast?_of_flatMap_quotedChar (List.append_inj_left' hrest rfl)
    simp at hlast

/-- **A text and the quoted text behind it are told apart.** -/
theorem append_comma_quoted_inj {s s' t t' : String}
    (h : s ++ ", " ++ quoted t = s' ++ ", " ++ quoted t') : s = s' ∧ t = t' := by
  have hlist := congrArg String.toList h
  have hsep : ", ".toList = [',', ' '] := rfl
  simp only [String.toList_append, toList_quoted, hsep, List.append_assoc, List.cons_append,
    List.nil_append] at hlist
  have hfront : s.toList = s'.toList := by
    obtain ⟨extra, heq, hrest⟩ | ⟨extra, heq, hrest⟩ := List.append_eq_append_iff.mp hlist
    · rw [heq, eq_nil_of_comma_quoted hrest, List.append_nil]
    · rw [heq, eq_nil_of_comma_quoted hrest, List.append_nil]
  rw [hfront, List.append_cancel_left_eq] at hlist
  simp only [List.cons.injEq, true_and] at hlist
  exact ⟨String.toList_inj.mp hfront, String.toList_inj.mp (flatMap_quotedChar_inj hlist).1⟩

end Text

/-! ## Headings -/

namespace Node

/-- The letter that the heading of a node begins with. -/
def letter : Node → Char
  | term _ => 'T'
  | phrase _ => 'P'
  | field _ _ => 'F'
  | not _ => 'N'
  | and _ _ => 'A'
  | or _ _ => 'O'
  | group _ => 'G'

theorem head?_heading (n : Node) : n.heading.toList.head? = some n.letter := by
  unfold heading
  cases n <;> simp [letter]

theorem letter_eq_of_heading_eq {n m : Node} (h : n.heading = m.heading) : n.letter = m.letter := by
  have hhead := congrArg (·.toList.head?) h
  simpa [head?_heading] using hhead

theorem append_string_inj {front back s t : String} (h : front ++ s ++ back = front ++ t ++ back) :
    s = t := by
  simpa [← String.toList_inj] using h

/-- **A heading tells the texts of a leaf.** -/
theorem term_inj {w w' : String} (h : (term w).heading = (term w').heading) : w = w' :=
  quoted_inj (append_string_inj h)

theorem phrase_inj {x x' : String} (h : (phrase x).heading = (phrase x').heading) : x = x' :=
  quoted_inj (append_string_inj h)

theorem field_inj {label label' raw raw' : String}
    (h : (field label raw).heading = (field label' raw').heading) :
    label = label' ∧ raw = raw' := by
  refine append_comma_quoted_inj (@append_string_inj "FieldFilter(" ")" _ _ ?_)
  unfold heading at h
  simpa [String.append_assoc] using h

/-- A heading tells how many children there are, and with them the node. -/
theorem eq_of_heading_eq {n m : Node} (h : n.heading = m.heading) :
    n.children.length = m.children.length ∧ (n.children = m.children → n = m) := by
  have hletter := letter_eq_of_heading_eq h
  cases n with
  | term w =>
    cases m with
    | term w' => exact ⟨rfl, fun _ => congrArg term (term_inj h)⟩
    | _ => simp [letter] at hletter
  | phrase x =>
    cases m with
    | phrase x' => exact ⟨rfl, fun _ => congrArg phrase (phrase_inj h)⟩
    | _ => simp [letter] at hletter
  | field label raw =>
    cases m with
    | field label' raw' =>
      obtain ⟨rfl, rfl⟩ := field_inj h
      exact ⟨rfl, fun _ => rfl⟩
    | _ => simp [letter] at hletter
  | not n =>
    cases m with
    | not m => simp [children]
    | _ => simp [letter] at hletter
  | and l r =>
    cases m with
    | and l' r' => simp [children]
    | _ => simp [letter] at hletter
  | or l r =>
    cases m with
    | or l' r' => simp [children]
    | _ => simp [letter] at hletter
  | group n =>
    cases m with
    | group m => simp [children]
    | _ => simp [letter] at hletter

/-- The headings of a tree, that of a node before those of its children. -/
def headings : Node → List String
  | n@(term _) | n@(phrase _) | n@(field _ _) => [n.heading]
  | n@(not m) | n@(group m) => n.heading :: m.headings
  | n@(and l r) | n@(or l r) => n.heading :: (l.headings ++ r.headings)

theorem headings_eq (n : Node) : n.headings = n.heading :: n.children.flatMap headings := by
  cases n <;> simp [headings, children]

/-- The headings tell the tree, whatever comes after them. -/
def HeadingsTell (n : Node) : Prop :=
  ∀ (m : Node) (as bs : List String), n.headings ++ as = m.headings ++ bs → n = m ∧ as = bs

/-- Rows of as many trees are told from their headings. -/
theorem eq_of_flatMap_headings_eq {ns ms : List Node} (hns : ∀ n ∈ ns, n.HeadingsTell)
    (hlen : ns.length = ms.length) {as bs : List String}
    (h : ns.flatMap headings ++ as = ms.flatMap headings ++ bs) : ns = ms ∧ as = bs := by
  induction ns generalizing ms with
  | nil =>
    obtain rfl := List.length_eq_zero_iff.mp hlen.symm
    exact ⟨rfl, h⟩
  | cons n ns ih =>
    obtain ⟨m, ms, rfl⟩ := List.exists_cons_of_length_eq_add_one hlen.symm
    obtain ⟨hn, hns⟩ := List.forall_mem_cons.mp hns
    rw [List.flatMap_cons, List.flatMap_cons, List.append_assoc, List.append_assoc] at h
    obtain ⟨rfl, hrest⟩ := hn m _ _ h
    obtain ⟨rfl, has⟩ := ih hns (Nat.succ.inj hlen) hrest
    exact ⟨rfl, has⟩

theorem HeadingsTell.of_children {n : Node} (h : ∀ c ∈ n.children, c.HeadingsTell) :
    n.HeadingsTell := by
  intro m as bs heq
  rw [headings_eq, headings_eq, List.cons_append, List.cons_append, List.cons.injEq] at heq
  obtain ⟨hlen, hnode⟩ := eq_of_heading_eq heq.1
  obtain ⟨hchildren, has⟩ := eq_of_flatMap_headings_eq h hlen heq.2
  exact ⟨hnode hchildren, has⟩

/-- **The headings of every tree tell it.** -/
theorem headingsTell (n : Node) : n.HeadingsTell := by
  induction n with
  | term _ | phrase _ | field _ _ => exact .of_children (by simp [children])
  | not n ih | group n ih => exact .of_children (by simpa [children] using ih)
  | and l r ihl ihr | or l r ihl ihr =>
    exact .of_children (by simpa [children] using ⟨ihl, ihr⟩)

theorem headings_inj {n m : Node} (h : n.headings = m.headings) : n = m :=
  (headingsTell n m [] [] (congrArg (· ++ []) h)).1

/-! ## Lines -/

/-- The labels of the fields in the tree. -/
def labels : Node → List String
  | term _ | phrase _ => []
  | field label _ => [label]
  | not n | group n => n.labels
  | and l r | or l r => l.labels ++ r.labels

/-- No label of the tree has a line break in it. -/
def LabelsInLine (n : Node) : Prop := ∀ label ∈ n.labels, '\n' ∉ label.toList

instance (n : Node) : Decidable n.LabelsInLine :=
  inferInstanceAs (Decidable (∀ label ∈ n.labels, '\n' ∉ label.toList))

end Node

/-- The lines of a text; after its last line break, one more that may be empty. -/
def Text.lines (s : String) : List (List Char) := s.toList.splitOn '\n'

namespace Node

/-- The line of a node with a number of ancestors. -/
def line (depth : Nat) (n : Node) : List Char :=
  List.replicate (2 * depth) ' ' ++ n.heading.toList

/-- A node before its children, which have it as one more ancestor. -/
theorem preorder_eq (depth : Nat) (n : Node) :
    n.preorder depth = (depth, n) :: n.children.flatMap (preorder (depth + 1)) := by
  cases n <;> simp [preorder, children]

theorem length_preorder (depth : Nat) (n : Node) : (n.preorder depth).length = n.size := by
  induction n generalizing depth with
  | term _ | phrase _ | field _ _ => rfl
  | not n ih | group n ih => simp [preorder, size, ih, Nat.add_comm]
  | and l r ihl ihr | or l r ihl ihr =>
    simp only [preorder, size, List.length_cons, List.length_append, ihl, ihr]
    omega

theorem map_heading_preorder (depth : Nat) (n : Node) :
    (n.preorder depth).map (·.2.heading) = n.headings := by
  induction n generalizing depth with
  | term _ | phrase _ | field _ _ => rfl
  | not n ih | group n ih => rw [preorder, List.map_cons, ih, headings]
  | and l r ihl ihr | or l r ihl ihr =>
    rw [preorder, List.map_cons, List.map_append, ihl, ihr, headings]

/-- What stands in a tree has no labels but those of the tree. -/
theorem labels_subset_of_mem_preorder {n : Node} {depth : Nat} {x : Nat × Node}
    (hx : x ∈ n.preorder depth) : x.2.labels ⊆ n.labels := by
  induction n generalizing depth with
  | term _ | phrase _ | field _ _ =>
    obtain rfl := List.mem_singleton.mp hx
    exact List.Subset.refl _
  | not n ih | group n ih =>
    rw [preorder, List.mem_cons] at hx
    obtain rfl | hx := hx
    · exact List.Subset.refl _
    · exact ih hx
  | and l r ihl ihr | or l r ihl ihr =>
    rw [preorder, List.mem_cons, List.mem_append] at hx
    obtain rfl | hx | hx := hx
    · exact List.Subset.refl _
    · exact List.subset_append_of_subset_left _ (ihl hx)
    · exact List.subset_append_of_subset_right _ (ihr hx)

theorem lineFeed_not_mem_heading {n : Node} (h : n.LabelsInLine) : '\n' ∉ n.heading.toList := by
  unfold heading
  cases n with
  | term _ | phrase _ => simp [lineFeed_not_mem_quoted]
  | field label raw =>
    have hlabel : '\n' ∉ label.toList := h label (List.mem_singleton_self label)
    simp [lineFeed_not_mem_quoted, hlabel]
  | _ => simp

theorem lineFeed_not_mem_line {n : Node} (h : n.LabelsInLine) (depth : Nat) :
    '\n' ∉ line depth n := by
  simp [line, lineFeed_not_mem_heading h, List.mem_replicate]

/-- No heading begins with a blank, so the heading is read off its line. -/
theorem dropWhile_line (depth : Nat) (n : Node) :
    (line depth n).dropWhile (· == ' ') = n.heading.toList := by
  obtain ⟨rest, hrest⟩ := List.head?_eq_some_iff.mp n.head?_heading
  have hletter : n.letter ≠ ' ' := by cases n <;> simp [letter]
  rw [line, List.dropWhile_append_of_pos (by simp [List.mem_replicate]), hrest,
    List.dropWhile_cons_of_neg (by simpa using hletter)]

theorem toList_outline (n : Node) :
    n.outline.toList = (n.preorder 0).flatMap fun x => line x.1 x.2 ++ ['\n'] := by
  have hbreak : "\n".toList = ['\n'] := rfl
  simp [outline, String.toList_join, List.flatMap_def, line, indent, hbreak, Function.comp_def]

/-- **The lines of an outline are those of its nodes.** -/
theorem lines_outline {n : Node} (h : n.LabelsInLine) :
    lines n.outline = ((n.preorder 0).map fun x => line x.1 x.2) ++ [[]] := by
  rw [lines, toList_outline]
  have hlabels : ∀ x ∈ n.preorder 0, x.2.LabelsInLine := fun x hx label hlabel =>
    h label (labels_subset_of_mem_preorder hx hlabel)
  generalize n.preorder 0 = row at hlabels
  induction row with
  | nil => rfl
  | cons x row ih =>
    obtain ⟨hx, hrow⟩ := List.forall_mem_cons.mp hlabels
    rw [List.flatMap_cons, List.append_assoc, List.singleton_append, List.splitOn,
      List.splitOnP_append_cons_of_forall_mem _ _ (by simp), ← List.splitOn, ih hrow]
    · rfl
    · intro c hc
      simpa using ne_of_mem_of_not_mem hc (lineFeed_not_mem_line hx x.1)

/-- The headings of a tree, read off its lines. -/
theorem headings_eq_map_lines (n : Node) :
    n.headings = ((n.preorder 0).map fun x => line x.1 x.2).map fun l =>
      String.ofList (l.dropWhile (· == ' ')) := by
  simp [← map_heading_preorder 0 n, dropWhile_line]

theorem outline_inj {n m : Node} (hn : n.LabelsInLine) (hm : m.LabelsInLine)
    (h : n.outline = m.outline) : n = m := by
  have hlines := congrArg lines h
  rw [lines_outline hn, lines_outline hm, List.append_cancel_right_eq] at hlines
  refine headings_inj ?_
  rw [headings_eq_map_lines, hlines, ← headings_eq_map_lines]

/-! ## The visitor -/

namespace Outliner

/-- The lines of a tree that stands below a number of nodes. -/
def written (n : Node) (depth : Nat) : String :=
  String.join ((n.preorder depth).map fun (depth, m) => indent depth ++ m.heading ++ "\n")

/-- If what stands below a line is written one level deeper, at a depth that is kept, then the depth
is kept. -/
theorem nested_eq (lines : Nat → String) {below : Outliner → Outliner}
    (h : ∀ o, below o = { o with out := o.out ++ lines o.depth }) (o : Outliner) (text : String) :
    o.nested text below =
      { o with out := o.out ++ (indent o.depth ++ text ++ "\n" ++ lines (o.depth + 1)) } := by
  simp [nested, line, h, String.append_assoc]

/-- The line of a node comes first, and then those of its children. -/
theorem written_eq (n : Node) (depth : Nat) :
    written n depth = indent depth ++ n.heading ++ "\n" ++
      String.join (n.children.map fun m => written m (depth + 1)) := by
  rw [written, preorder_eq, List.map_cons, String.join_cons]
  congr 1
  induction n.children with
  | nil => rfl
  | cons m ms ih =>
    rw [List.flatMap_cons, List.map_append, String.join_append, ih, List.map_cons, String.join_cons]
    rfl

/-- **The visitor writes the lines of a tree** at the depth that it has reached, and is at this depth
when it comes back. -/
theorem visit_eq (n : Node) (o : Outliner) :
    visit n o = { o with out := o.out ++ written n o.depth } := by
  induction n generalizing o with
  | term word | phrase text | field label raw =>
    rw [written_eq, visit, line, children, List.map_nil, String.join_nil, String.append_empty]
    rfl
  | not n ih | group n ih =>
    rw [written_eq, visit, nested_eq (written n) ih, children, List.map_singleton, String.join_cons,
      String.join_nil, String.append_empty]
    rfl
  | and l r ihl ihr | or l r ihl ihr =>
    have hboth (o : Outliner) : visit r (visit l o) =
        { o with out := o.out ++ (written l o.depth ++ written r o.depth) } := by
      rw [ihr, ihl, String.append_assoc]
    rw [written_eq, visit, nested_eq (fun depth => written l depth ++ written r depth) hboth,
      children, List.map_cons, List.map_singleton, String.join_cons, String.join_cons,
      String.join_nil, String.append_empty]
    rfl

/-- **What the visitor writes is the outline.** -/
theorem render_eq_outline (n : Node) : render n = n.outline := by
  rw [render, visit_eq]
  exact String.empty_append

end Outliner

/-- **An outline tells its tree**: where no label has a line break in it, two trees with one outline
are one tree; an outline has a line for every node, with two blanks for each ancestor in front of the
heading, and the line of a node stands before those of its children. The last line break is followed
by nothing. -/
theorem outline_tells_tree {n m : Node} (hn : n.LabelsInLine) (hm : m.LabelsInLine) :
    (n.outline = m.outline ↔ n = m) ∧
      lines n.outline = ((n.preorder 0).map fun x => line x.1 x.2) ++ [[]] ∧
      (n.preorder 0).length = n.size ∧
      ∀ (depth : Nat) (t : Node),
        t.preorder depth = (depth, t) :: t.children.flatMap (preorder (depth + 1)) :=
  ⟨⟨outline_inj hn hm, congrArg outline⟩, lines_outline hn, length_preorder 0 n, preorder_eq⟩

/-- A label that reads like the end of a field does not hide where the field ends. -/
theorem outline_tells_tree_label :
    (field "A, \"b\"" "c").outline ≠ (field "A" "b\", \"c").outline ∧
      lines (not (or (field "A, \"b\"" "c") (term "d\ne"))).outline =
        ["Not".toList, "  Or".toList, "    FieldFilter(A, \"b\", \"c\")".toList,
          "    Term(\"d\\ne\")".toList, []] := by
  constructor
  · intro h
    have hlabels : (field "A, \"b\"" "c").LabelsInLine ∧ (field "A" "b\", \"c").LabelsInLine := by
      decide
    have heq := (outline_tells_tree hlabels.1 hlabels.2).1.mp h
    exact absurd heq (by decide)
  · have hlabels : (not (or (field "A, \"b\"" "c") (term "d\ne"))).LabelsInLine := by decide
    exact (outline_tells_tree hlabels hlabels).2.1.trans (by decide +kernel)

end Node

end SearchQuery
