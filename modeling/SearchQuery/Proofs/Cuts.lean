import SearchQuery.Proofs.Scanning

/-!
# Tokens and the text after them

A rule with two groups takes its token from the first group and lets the text go on where the second
group begins. Nothing demands that the second begins where the first ends.

* The groups of a match lie in the text (`Pattern.captures_le_of_match?`), so a rule cuts a token
  off the front of a text and leaves an end of it (`Rule.cut?_ne_nil`, `Rule.cut?_prefix`,
  `Rule.cut?_suffix`).
* The two make up the text just if the groups adjoin (`Rule.cut?_append_iff`). They do for all
  built-in rules and for those that are made from a pattern for the token alone
  (`Rule.adjoins_builtins`, `Rule.adjoins_of_ofToken`).
* The same of the next step of a scanner: `Scanner.Adjoins`, `Scanner.lexeme_append_iff`.
-/

namespace SearchQuery

/-! ## Groups in the text -/

namespace Way

variable {v : Visited} {t : Thread} {task : Task} {rest : List Task} {w : Way}

theorem mem_choose {id : Nat} {greedy : Bool} {more : List Task}
    (hw : w ∈ (choose v t id greedy more rest).1) : w = ⟨t, more⟩ ∨ w = ⟨t, rest⟩ := by
  unfold choose at hw
  split at hw
  · simp at hw
  · split at hw
    · simpa using hw
    · exact Or.symm (by simpa using hw)

theorem captures_takeRun (s : CharSet) (seen : Nat) (t : Thread) (text taken : List Char) :
    (takeRun s seen t text taken).1.captures = t.captures := by
  fun_induction takeRun s seen t text taken with
  | case1 t taken => rfl
  | case2 t c text taken hc ih => exact ih
  | case3 t c text taken hc => rfl

theorem mem_followRun {id : Nat} {s : CharSet} (hw : w ∈ (followRun v t id s rest).1) :
    w.thread.captures = t.captures ∧
      (w.tasks = rest ∨ ∃ taken, w.tasks = .giveBack taken t.before :: rest) := by
  unfold followRun at hw
  split at hw
  · simp at hw
  · have hcaptures := captures_takeRun s (v.points id) t t.rest []
    simp only [List.mem_cons, List.not_mem_nil, or_false] at hw
    rcases hw with rfl | rfl
    · exact ⟨hcaptures, .inl rfl⟩
    · exact ⟨hcaptures, .inr ⟨_, rfl⟩⟩

/-- What a way `w` that comes after the first task of `⟨t, task :: rest⟩` has to do with groups:
only the end of a group adds a capture, and only its beginning adds a task to end it. -/
structure Groups (t : Thread) (task : Task) (rest : List Task) (w : Way) : Prop where
  captures : ∀ c ∈ w.thread.captures,
    c ∈ t.captures ∨ task = .close c.index c.start ∧ c.stop = t.pos
  closes : ∀ index start, Task.close index start ∈ w.tasks →
    Task.close index start ∈ rest ∨ start = t.pos

theorem Groups.of_eq {tasks : List Task} (hcaptures : w.thread.captures = t.captures)
    (htasks : w.tasks = tasks)
    (hcloses : ∀ index start, Task.close index start ∈ tasks →
      Task.close index start ∈ rest ∨ start = t.pos) : Groups t task rest w where
  captures _ hc := .inl (hcaptures ▸ hc)
  closes index start h := hcloses index start (htasks ▸ h)

theorem groups_choose {id : Nat} {greedy : Bool} {more : List Task}
    (hmore : ∀ index start, Task.close index start ∈ more → Task.close index start ∈ rest)
    (hw : w ∈ (choose v t id greedy more rest).1) : Groups t task rest w := by
  rcases mem_choose hw with rfl | rfl
  · exact .of_eq rfl rfl fun index start h => .inl (hmore index start h)
  · exact .of_eq rfl rfl fun index start h => .inl h

theorem groups_step_follow {p : Plan} {shift : Nat} (hw : w ∈ (step v t (.follow p shift) rest).1) :
    Groups t task rest w := by
  cases p with
  | empty =>
    obtain rfl := List.mem_singleton.mp hw
    exact .of_eq rfl rfl (by simp +contextual)
  | one s =>
    cases hrest : t.rest with
    | nil => simp [step, hrest] at hw
    | cons c cs =>
      simp only [step, hrest] at hw
      split at hw
      · obtain rfl := List.mem_singleton.mp hw
        exact .of_eq rfl rfl (by simp +contextual)
      · simp at hw
  | anchor a =>
    simp only [step] at hw
    split at hw
    · obtain rfl := List.mem_singleton.mp hw
      exact .of_eq rfl rfl (by simp +contextual)
    · simp at hw
  | alt id p q =>
    rcases mem_choose hw with rfl | rfl <;> exact .of_eq rfl rfl (by simp +contextual)
  | group i p =>
    obtain rfl := List.mem_singleton.mp hw
    refine .of_eq rfl rfl fun index start h => ?_
    simp only [List.mem_cons, reduceCtorEq, false_or, Task.close.injEq] at h
    rcases h with ⟨-, rfl⟩ | h
    · exact .inr rfl
    · exact .inl h
  | run id s =>
    obtain ⟨hcaptures, htasks | ⟨taken, htasks⟩⟩ := mem_followRun hw
    · exact .of_eq hcaptures htasks (by simp +contextual)
    · exact .of_eq hcaptures htasks (by simp +contextual)
  | seq p q | star id greedy p | atLeast before width id greedy p
  | bounded min extra width id greedy p =>
    obtain rfl := List.mem_singleton.mp hw
    exact .of_eq rfl rfl (by simp +contextual)

/-- **What a step does to the groups.** -/
theorem groups_step (hw : w ∈ (step v t task rest).1) : Groups t task rest w := by
  cases task with
  | follow p shift => exact groups_step_follow hw
  | close index start =>
    obtain rfl := List.mem_singleton.mp hw
    refine ⟨fun c hc => ?_, fun index start h => .inl h⟩
    simp only [Thread.close, List.mem_cons, List.mem_filter] at hc
    rcases hc with rfl | ⟨hc, -⟩
    · exact .inr ⟨rfl, rfl⟩
    · exact .inl hc
  | giveBack taken before =>
    cases taken with
    | nil => simp [step] at hw
    | cons c taken =>
      simp only [step, List.mem_cons, List.not_mem_nil, or_false] at hw
      rcases hw with rfl | rfl <;> exact .of_eq rfl rfl (by simp +contextual)
  | copies count shift width p =>
    cases count <;> obtain rfl := List.mem_singleton.mp hw <;>
      exact .of_eq rfl rfl (by simp +contextual)
  | upTo count shift width id greedy p =>
    cases count with
    | zero =>
      obtain rfl := List.mem_singleton.mp hw
      exact .of_eq rfl rfl (by simp +contextual)
    | succ n => exact groups_choose (by simp) hw
  | again shift id greedy p => exact groups_choose (by simp) hw

/-- The way is in the text, and so are its groups, those that have ended and those that have not. -/
structure GroupsInText (text : List Char) (w : Way) : Prop where
  inText : w.InText text
  captures : ∀ c ∈ w.thread.captures, c.start ≤ text.length ∧ c.stop ≤ text.length
  closes : ∀ index start, Task.close index start ∈ w.tasks → start ≤ text.length

theorem GroupsInText.step {text : List Char} (h : GroupsInText text ⟨t, task :: rest⟩)
    (hw : w ∈ (Way.step v t task rest).1) : w.GroupsInText text := by
  have hgroups := groups_step hw
  have hpos : t.pos ≤ text.length := h.inText.thread.pos_le
  refine ⟨step_inText v h.inText w hw, fun c hc => ?_, fun index start hclose => ?_⟩
  · rcases hgroups.captures c hc with hc | ⟨rfl, hstop⟩
    · exact h.captures c hc
    · exact ⟨h.closes _ _ (List.mem_cons_self ..), hstop ▸ hpos⟩
  · rcases hgroups.closes index start hclose with hclose | rfl
    · exact h.closes index start (List.mem_cons_of_mem _ hclose)
    · exact hpos

end Way

/-- **The groups of a match lie in the text.** -/
theorem Pattern.captures_le_of_match? {p : Pattern} {text : List Char} {t : Thread}
    (h : p.match? text = some t) {c : Capture} (hc : c ∈ t.captures) :
    c.start ≤ text.length ∧ c.stop ≤ text.length := by
  have hmatch := Search.finish_invariant (P := Way.GroupsInText text)
    (fun v t task rest hw w hw' => hw.step hw') (fun w hw => ?_) h
  · exact hmatch.captures c hc
  · obtain rfl := List.mem_singleton.mp hw
    refine ⟨.of_noneGivesBack (.start text)
      (Way.noneGivesBack_cons (by simp) fun _ _ => List.not_mem_nil), ?_, ?_⟩
    · simp [Thread.start]
    · simp

/-! ## What a rule cuts off -/

namespace Rule

/-- Whether the second group of the match begins where the first ends. A rule for a token alone lets
the text go on right after it. -/
def adjoins (r : Rule) (text : List Char) : Bool :=
  match r.matcher with
  | .token _ => true
  | .split p => (p.match? text).all fun t => (t.capture? 1).all fun first =>
      (t.capture? 2).all (·.start = first.stop)

variable {r : Rule} {text token rest : List Char}

/-- A rule cuts off the characters before one point and leaves those after another, which are the
same just if the groups adjoin. -/
theorem exists_take_drop_of_cut? (h : r.cut? text = some (token, rest)) :
    ∃ stop next, token = text.take stop ∧ rest = text.drop next ∧ 0 < stop ∧
      stop ≤ text.length ∧ next ≤ text.length ∧ (next = stop ↔ r.adjoins text = true) := by
  cases hmatcher : r.matcher with
  | token p =>
    simp only [cut?, hmatcher] at h
    cases hm : p.match? text with
    | none => simp [hm] at h
    | some t =>
      simp only [hm] at h
      split at h
      · simp at h
      · next hpos =>
        obtain ⟨rfl, rfl⟩ := Prod.mk.inj (Option.some.inj h)
        have hin := Pattern.match?_inText hm
        refine ⟨t.pos, t.pos, rfl, hin.rest_eq, Nat.pos_of_ne_zero hpos, hin.pos_le, hin.pos_le, ?_⟩
        simp [adjoins, hmatcher]
  | split p =>
    simp only [cut?, hmatcher] at h
    cases hm : p.match? text with
    | none => simp [hm] at h
    | some t =>
      cases hfirst : t.capture? 1 with
      | none => simp [hm, hfirst] at h
      | some first =>
        simp only [hm, hfirst] at h
        split at h
        · next hcond =>
          obtain ⟨rfl, rfl⟩ := Prod.mk.inj (Option.some.inj h)
          have hstop := (Pattern.captures_le_of_match? hm (List.mem_of_find?_eq_some hfirst)).2
          refine ⟨first.stop, _, rfl, rfl, Nat.pos_of_ne_zero hcond.2, hstop, ?_, ?_⟩
          · cases hsecond : t.capture? 2 with
            | none => exact hstop
            | some second =>
              exact (Pattern.captures_le_of_match? hm (List.mem_of_find?_eq_some hsecond)).1
          · cases hsecond : t.capture? 2 with
            | none => simp [adjoins, hmatcher, hm, hfirst, hsecond]
            | some second => simp [adjoins, hmatcher, hm, hfirst, hsecond]
        · simp at h

theorem cut?_ne_nil (h : r.cut? text = some (token, rest)) : token ≠ [] := by
  obtain ⟨stop, next, rfl, -, hpos, hstop, -, -⟩ := exists_take_drop_of_cut? h
  have hlen : (text.take stop).length = stop := List.length_take_of_le hstop
  exact List.ne_nil_of_length_pos (by omega)

theorem cut?_prefix (h : r.cut? text = some (token, rest)) : token <+: text := by
  obtain ⟨stop, next, rfl, -⟩ := exists_take_drop_of_cut? h
  exact List.take_prefix stop text

theorem cut?_suffix (h : r.cut? text = some (token, rest)) : rest <:+ text := by
  obtain ⟨stop, next, -, rfl, -⟩ := exists_take_drop_of_cut? h
  exact List.drop_suffix next text

/-- **The token and what is left make up the text just if the groups adjoin.** -/
theorem cut?_append_iff (h : r.cut? text = some (token, rest)) :
    token ++ rest = text ↔ r.adjoins text = true := by
  obtain ⟨stop, next, rfl, rfl, -, hstop, hnext, hadjoins⟩ := exists_take_drop_of_cut? h
  rw [← hadjoins]
  constructor
  · intro heq
    have hlen := congrArg List.length heq
    rw [List.length_append, List.length_take_of_le hstop, List.length_drop] at hlen
    omega
  · rintro rfl
    exact List.take_append_drop next text

/-- A rule that is made from a pattern for the token alone matches by that pattern. -/
theorem ofToken_eq_ok {kind : Kind} {token : String} (h : ofToken kind token = .ok r) :
    ∃ p, Pattern.read? (anchoredSource token) = some p ∧
      r = ⟨kind, splitSource token, .token p⟩ := by
  unfold ofToken ofPattern at h
  cases hsplit : Pattern.read? (splitSource token) with
  | none => simp [hsplit] at h
  | some q =>
    by_cases hgroups : q.groupCount = groupCount
    · cases hread : Pattern.read? (anchoredSource token) with
      | none => simp [hsplit, hgroups, hread] at h
      | some p =>
        simp only [hsplit, hgroups, hread, if_true, Except.ok.injEq] at h
        exact ⟨p, rfl, h.symm⟩
    · simp [hsplit, hgroups] at h

theorem adjoins_of_ofToken {kind : Kind} {token : String} (h : ofToken kind token = .ok r)
    (text : List Char) : r.adjoins text = true := by
  obtain ⟨p, -, rfl⟩ := ofToken_eq_ok h
  rfl

theorem adjoins_orRule (text : List Char) : orRule.adjoins text = true := by
  cases text with
  | nil => decide +kernel
  | cons c cs =>
    obtain ⟨p, hmatcher, hm⟩ := match?_orRule c cs
    simp only [adjoins, hmatcher, hm]
    split <;> simp [Thread.past, Thread.close, Thread.capture?]

theorem adjoins_builtins (h : r ∈ builtins) (text : List Char) : r.adjoins text = true := by
  simp only [builtins, structural, generic, List.cons_append, List.nil_append, List.mem_cons,
    List.not_mem_nil, or_false] at h
  rcases h with rfl | rfl | rfl | rfl | rfl | rfl | rfl | rfl | rfl | rfl
  case inr.inr.inl => exact adjoins_orRule text
  all_goals rfl

end Rule

/-! ## The next step of a scanner -/

namespace Scanner

/-- The rule that the next step follows, if there is one, has adjoining groups. -/
def Adjoins (s : Scanner) : Prop := ∀ r, s.chosen? = some r → r.adjoins s.rest = true

/-- A step follows a rule of the caller or a built-in rule. -/
theorem mem_of_chosen? {s : Scanner} {r : Rule} (hr : s.chosen? = some r) :
    r ∈ s.fields ∨ r ∈ Rule.builtins := by
  have hmem : r ∈ s.rules := List.mem_of_find?_eq_some hr
  simp only [rules, List.mem_append] at hmem
  rcases hmem with (hmem | hmem) | hmem
  · exact .inr (List.mem_append_left _ hmem)
  · exact .inl hmem
  · exact .inr (List.mem_append_right _ hmem)

theorem adjoins_of_fields {s : Scanner}
    (h : ∀ r ∈ s.fields, ∀ text, r.adjoins text = true) : s.Adjoins := by
  intro r hr
  rcases mem_of_chosen? hr with hmem | hmem
  · exact h r hmem s.rest
  · exact Rule.adjoins_builtins hmem s.rest

/-- Where no rule applies, all that is left becomes one token. -/
theorem lexeme_of_chosen?_eq_none {s : Scanner} (h : s.chosen? = none) :
    s.lexeme = ⟨.illegal, s.remaining, []⟩ := by
  rw [lexeme, findSome?_eq_bind_find?, ← chosen?, h]
  rfl

/-- A step follows a rule, or takes all that is left. -/
theorem lexeme_cases (s : Scanner) :
    (∃ r token, s.chosen? = some r ∧ r.cut? s.rest = some (token, s.lexeme.rest) ∧
      s.lexeme.text.toList = token ∧ s.lexeme.kind = r.kind) ∨
    (s.chosen? = none ∧ s.lexeme.text.toList = s.rest ∧ s.lexeme.rest = []) := by
  cases hr : s.chosen? with
  | none =>
    rw [lexeme_of_chosen?_eq_none hr]
    exact .inr ⟨rfl, String.toList_ofList, rfl⟩
  | some r =>
    obtain ⟨token, hcut, htext, hkind⟩ := lexeme?_eq_some (lexeme?_of_chosen? hr)
    exact .inl ⟨r, token, rfl, hcut, htext ▸ String.toList_ofList, hkind⟩

/-- The text of the next token stands at the front of what is still to be read. -/
theorem lexeme_text_prefix (s : Scanner) : s.lexeme.text.toList <+: s.rest := by
  obtain ⟨r, token, -, hcut, htext, -⟩ | ⟨-, htext, -⟩ := s.lexeme_cases
  · exact htext ▸ Rule.cut?_prefix hcut
  · exact htext ▸ List.prefix_refl _

theorem lexeme_rest_suffix (s : Scanner) : s.lexeme.rest <:+ s.rest := by
  obtain ⟨r, token, -, hcut, -, -⟩ | ⟨-, -, hrest⟩ := s.lexeme_cases
  · exact Rule.cut?_suffix hcut
  · exact hrest ▸ List.nil_suffix

theorem rest_stepped_suffix (s : Scanner) : s.stepped.rest <:+ s.rest :=
  rest_stepped s ▸ s.lexeme_rest_suffix

theorem lexeme_text_ne_empty {s : Scanner} (hs : s.rest ≠ []) : s.lexeme.text ≠ "" := by
  rw [ne_eq, ← String.toList_eq_nil_iff]
  obtain ⟨r, token, -, hcut, htext, -⟩ | ⟨-, htext, -⟩ := s.lexeme_cases
  · exact htext ▸ Rule.cut?_ne_nil hcut
  · exact htext ▸ hs

/-- **A step cuts what is still to be read in two just if the groups of its rule adjoin.** -/
theorem lexeme_append_iff (s : Scanner) :
    s.lexeme.text.toList ++ s.lexeme.rest = s.rest ↔ s.Adjoins := by
  obtain ⟨r, token, hr, hcut, htext, -⟩ | ⟨hr, htext, hrest⟩ := s.lexeme_cases
  · rw [htext, Rule.cut?_append_iff hcut, Adjoins, hr]
    simp
  · rw [htext, hrest, Adjoins, hr]
    simp

end Scanner

end SearchQuery
