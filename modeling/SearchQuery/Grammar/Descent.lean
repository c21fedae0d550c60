import SearchQuery.Grammar

/-!
# Reading a query by recursive descent

The grammar read top down: one function for each part of a query, which takes the tokens of the part
off the front. The operands of a conjunction and the branches of a disjunction are taken in loops,
and what has been taken before is carried along as the left side. Groups are counted on the way in.

The tokens are those before the end of the query. The token at the end, `e`, is where a function has
come when there are none left; it is looked at and never taken.
-/

namespace SearchQuery.Grammar

/-- Why a part of a query cannot be read, and at which token. -/
abbrev Refusal := Problem × Expected × Token

/-- What has been taken off the front of some tokens: a tree, and fewer tokens than before. -/
structure Taken (ts : List Token) where
  tree : Node
  rest : List Token
  shorter : rest.length < ts.length

namespace Taken

/-- A single token. -/
def one (tree : Node) (t : Token) (ts : List Token) : Taken (t :: ts) :=
  ⟨tree, ts, Nat.lt_succ_self _⟩

/-- The same tokens with another tree, and perhaps one token more in front. -/
def wrap {ts us : List Token} (f : Node → Node) (x : Taken us) (h : us.length ≤ ts.length) :
    Taken ts :=
  ⟨f x.tree, x.rest, Nat.lt_of_lt_of_le x.shorter h⟩

/-- Two parts, of which the second was taken off the tokens after the first. -/
def join {ts us : List Token} (f : Node → Node → Node) (x : Taken ts) (y : Taken us)
    (h : us.length ≤ x.rest.length) : Taken ts :=
  ⟨f x.tree y.tree, y.rest, Nat.lt_trans (Nat.lt_of_lt_of_le y.shorter h) x.shorter⟩

/-- A group: the tokens between two parentheses, of which the second is the next token. -/
def closed {ts us : List Token} {c : Token} (o : Token) (x : Taken ts) (h : x.rest = c :: us) :
    Taken (o :: ts) :=
  ⟨.group x.tree, us, Nat.lt_succ_of_lt (Nat.lt_trans (h ▸ Nat.lt_succ_self _) x.shorter)⟩

theorem length_join_lt {ts us : List Token} (f : Node → Node → Node) (x : Taken ts) (y : Taken us)
    (h : us.length ≤ x.rest.length) : (x.join f y h).rest.length < x.rest.length :=
  Nat.lt_of_lt_of_le y.shorter h

end Taken

/-- Whether a token goes on with a conjunction, without a word in front. A token that begins no
operand counts as well, unless it ends the conjunction. -/
def continuesOperands (t : Token) : Bool :=
  match t.kind with
  | .finish | .or | .closeParen => false
  | _ => !t.isAnd

namespace Descent

variable (e : Token)

/-- Takes the parenthesis at the end of a group, of which `o` is the one at the beginning. -/
def close (o : Token) {ts : List Token} (inner : Taken ts) : Except Refusal (Taken (o :: ts)) :=
  match h : inner.rest with
  | [] => .error (.missingClose, .closingParen, e)
  | c :: _ =>
    if c.kind = .closeParen then .ok (inner.closed o h)
    else .error (.missingClose, .closingParen, c)

mutual

/-- Takes a disjunction inside `depth` groups. -/
def disjunction (depth : Nat) (ts : List Token) : Except Refusal (Taken ts) := do
  branches depth (← conjunction depth ts)
termination_by (ts.length, 3)
decreasing_by
  · exact .right _ (by decide)
  · exact .left _ _ (Taken.shorter _)

/-- Takes the branches of a disjunction that come after `left`. -/
def branches (depth : Nat) {ts : List Token} (left : Taken ts) : Except Refusal (Taken ts) :=
  match h : left.rest with
  | [] => .ok left
  | t :: us =>
    if t.kind = .or then do
      branches depth (left.join .or (← conjunction depth us) (h ▸ Nat.le_succ _))
    else .ok left
termination_by (left.rest.length, 4)
decreasing_by
  · exact .left _ _ (h ▸ Nat.lt_succ_self _)
  · exact .left _ _ (Taken.length_join_lt ..)

/-- Takes a conjunction. -/
def conjunction (depth : Nat) (ts : List Token) : Except Refusal (Taken ts) := do
  operands depth (← operand depth ts)
termination_by (ts.length, 2)
decreasing_by
  · exact .right _ (by decide)
  · exact .left _ _ (Taken.shorter _)

/-- Takes the operands of a conjunction that come after `left`. -/
def operands (depth : Nat) {ts : List Token} (left : Taken ts) : Except Refusal (Taken ts) :=
  match h : left.rest with
  | [] => .ok left
  | t :: us =>
    if t.isAnd then do
      operands depth (left.join .and (← operand depth us) (h ▸ Nat.le_succ _))
    else if continuesOperands t then do
      operands depth (left.join .and (← operand depth (t :: us)) (h ▸ Nat.le_refl _))
    else .ok left
termination_by (left.rest.length, 3)
decreasing_by
  · exact .left _ _ (h ▸ Nat.lt_succ_self _)
  · exact .left _ _ (Taken.length_join_lt ..)
  · exact h ▸ .right _ (by decide)
  · exact .left _ _ (Taken.length_join_lt ..)

/-- Takes an operand: an atom, perhaps with a minus in front. -/
def operand (depth : Nat) : (ts : List Token) → Except Refusal (Taken ts)
  | [] => atom depth []
  | t :: ts =>
    if t.kind = .minus then do return (← atom depth ts).wrap .not (Nat.le_succ _)
    else atom depth (t :: ts)
termination_by ts => (ts.length, 1)
decreasing_by
  · exact .right _ (by decide)
  · exact .left _ _ (Nat.lt_succ_self _)
  · exact .right _ (by decide)

/-- Takes an atom. -/
def atom (depth : Nat) : (ts : List Token) → Except Refusal (Taken ts)
  | [] => .error (.missingOperand, .operand, e)
  | t :: ts =>
    match t.kind with
    | .word =>
      if t.isAnd then .error (.strayAnd, .operand, t) else .ok (.one (.term (t.text.getD "")) t ts)
    | .phrase => .ok (.one (.phrase (stripQuotes (t.text.getD ""))) t ts)
    | .field label => .ok (.one (.field label (t.text.getD "")) t ts)
    | .openParen => group depth t ts
    | .closeParen => .error (.strayClose, .operand, t)
    | .or => .error (.strayOr, .operand, t)
    | .minus => .error (.doubleMinus, .operand, t)
    | .quote => .error (.openQuote, .operand, t)
    | .finish => .error (.missingOperand, .operand, t)
    | .colon | .illegal | .whiteSpace => .error (.strayToken, .operand, t)
termination_by ts => (ts.length, 0)
decreasing_by exact .left _ _ (Nat.lt_succ_self _)

/-- Takes a group, which begins with the parenthesis `o`. -/
def group (depth : Nat) (o : Token) (ts : List Token) : Except Refusal (Taken (o :: ts)) :=
  if maxNesting ≤ depth then .error (.tooDeep, .operand, o)
  else do close e o (← disjunction (depth + 1) ts)
termination_by (ts.length, 5)
decreasing_by exact .right _ (by decide)

end

/-- The tree of a query that begins with a disjunction, if there is nothing behind it. -/
def conclude {ts : List Token} (x : Taken ts) : Except Refusal Node :=
  match x.rest with
  | [] => .ok x.tree
  | t :: _ =>
    if t.isEnd then .ok x.tree
    else if t.kind = .closeParen then .error (.strayClose, .endOfQuery, t)
    else .error (.strayToken, .endOfQuery, t)

/-- Reads a query. -/
def query (ts : List Token) : Except Refusal Node := do
  conclude (← disjunction e 0 ts)

end Descent

end SearchQuery.Grammar
