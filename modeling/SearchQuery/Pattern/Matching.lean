import Std.Data.TreeMap
import SearchQuery.Pattern.Plan

/-!
# Matching

A search for a match is a machine over a stack of ways to go on, the preferred way on top. A way is
a thread, which knows how far it has come in the text, and the tasks that are left to it. One step
takes the first task off the way on top (`Way.step`, `Search.run`); the first way without tasks is
the match.

Whatever comes after a choice depends only on the choice and the point of the text. So a way that
comes to a choice at a point where a preferred way has been before is dropped (`Visited`): it would
end as that one did. This keeps the search short, and it also ends loops whose body matches the
empty text.
-/

namespace SearchQuery

open Text

/-- Whether a character counts as a word character for an anchor. -/
def isWordCharAt (ascii : Bool) (c : Char) : Bool :=
  if ascii then c.isAlphanum || c = '_' else isWordChar c

/-- Whether an edge condition holds between two characters, of which the text's ends have none. -/
def WordEdge.holds (edge : WordEdge) (ascii : Bool) (before after : Option Char) : Bool :=
  let l := before.any (isWordCharAt ascii)
  let r := after.any (isWordCharAt ascii)
  match edge with
  | boundary => l != r
  | inner => l == r
  | start => !l && r
  | stop => l && !r
  | startHalf => !l
  | stopHalf => !r

/-- Whether an anchor holds between two characters, of which the text's ends have none. -/
def Anchor.holds (a : Anchor) (before after : Option Char) : Bool :=
  match a with
  | textStart => before.isNone
  | textEnd => after.isNone
  | lineStart => before.isNone || before = some '\n'
  | lineEnd => after.isNone || after = some '\n'
  | returnLineStart =>
    before.isNone || before = some '\n' || (before = some '\r' && after != some '\n')
  | returnLineEnd =>
    after.isNone || after = some '\r' || (after = some '\n' && before != some '\r')
  | word ascii edge => edge.holds ascii before after

/-! ## Threads -/

/-- What a numbered group has matched: the characters from `start` up to `stop`. -/
structure Capture where
  index : Nat
  start : Nat
  stop : Nat
  deriving DecidableEq, Repr

/-- A match in progress. -/
structure Thread where
  /-- The number of characters matched. -/
  pos : Nat
  /-- The last of them. -/
  before : Option Char
  /-- The text still to be matched. -/
  rest : List Char
  /-- The last capture of every group that has been matched. -/
  captures : List Capture
  deriving DecidableEq, Repr

namespace Thread

/-- The thread at the beginning of a text. -/
def start (text : List Char) : Thread := ⟨0, none, text, []⟩

/-- The thread after one more character. -/
def advance (t : Thread) (c : Char) (rest : List Char) : Thread :=
  { t with pos := t.pos + 1, before := some c, rest := rest }

/-- The thread before its last character, which is `c` and comes after `before`. -/
def retreat (t : Thread) (c : Char) (before : Option Char) : Thread :=
  { t with pos := t.pos - 1, before := before, rest := c :: t.rest }

/-- The thread after a group that began at `start`. -/
def close (t : Thread) (index start : Nat) : Thread :=
  { t with captures := ⟨index, start, t.pos⟩ :: t.captures.filter (·.index != index) }

/-- The last capture of a group. -/
def capture? (t : Thread) (index : Nat) : Option Capture := t.captures.find? (·.index == index)

end Thread

/-! ## Choices that have been made -/

/-- For every choice the points of the text at which it has been made, as the bits of a number. -/
structure Visited where
  marks : Std.TreeMap Nat Nat

namespace Visited

/-- No choice has been made. -/
def empty : Visited := ⟨∅⟩

/-- The points at which a choice has been made. -/
def points (v : Visited) (id : Nat) : Nat := v.marks.getD id 0

/-- Whether a choice has been made at a point. -/
def contains (v : Visited) (id pos : Nat) : Bool := (v.points id).testBit pos

/-- Notes a choice at `count` points from `pos` on. -/
def insert (v : Visited) (id pos count : Nat) : Visited :=
  ⟨v.marks.insert id (v.points id ||| ((Nat.pow 2 count - 1) <<< pos))⟩

end Visited

/-! ## The machine -/

/-- What is left to do on a way. The numbers of choices in a plan are moved up by `shift`. -/
inductive Task where
  | follow (p : Plan) (shift : Nat)
  /-- Ends a group. -/
  | close (index start : Nat)
  /-- Goes on with fewer characters of a run: `taken` are those that can be given back, the last one
  first, and `before` is the character in front of them. -/
  | giveBack (taken : List Char) (before : Option Char)
  /-- Follows copies of a plan. -/
  | copies (count shift width : Nat) (p : Plan)
  /-- Follows at most so many copies of a plan. -/
  | upTo (count shift width id : Nat) (greedy : Bool) (p : Plan)
  /-- Follows any number of copies of a plan. -/
  | again (shift id : Nat) (greedy : Bool) (p : Plan)
  deriving DecidableEq, Repr

/-- A way to go on: a thread and what is left to do. -/
structure Way where
  thread : Thread
  tasks : List Task

namespace Way

/-- Makes a choice between going on with `more` and going on without it, unless it has been made at
this point before. -/
def choose (v : Visited) (t : Thread) (id : Nat) (greedy : Bool) (more rest : List Task) :
    List Way × Visited :=
  if v.contains id t.pos then ([], v)
  else
    (if greedy then [⟨t, more⟩, ⟨t, rest⟩] else [⟨t, rest⟩, ⟨t, more⟩], v.insert id t.pos 1)

/-- Takes as many characters of `s` as there are. Points that are among `seen` end the run. The
answer is the thread after them, and the characters, the last one first. -/
def takeRun (s : CharSet) (seen : Nat) : Thread → List Char → List Char → Thread × List Char
  | t, [], taken => (t, taken)
  | t, c :: rest, taken =>
    if s.contains c && (seen == 0 || !seen.testBit (t.pos + 1)) then
      takeRun s seen (t.advance c rest) rest (c :: taken)
    else (t, taken)

/-- Follows a run of characters. Each of its points is a choice, and all of them are made before
anything after the run. -/
def followRun (v : Visited) (t : Thread) (id : Nat) (s : CharSet) (rest : List Task) :
    List Way × Visited :=
  if v.contains id t.pos then ([], v)
  else
    let (t', taken) := takeRun s (v.points id) t t.rest []
    ([⟨t', rest⟩, ⟨t', .giveBack taken t.before :: rest⟩], v.insert id t.pos (taken.length + 1))

/-- Does the first task of a way. The answer is the ways to go on, the preferred one first. -/
def step (v : Visited) (t : Thread) (task : Task) (rest : List Task) : List Way × Visited :=
  match task with
  | .follow .empty _ => ([⟨t, rest⟩], v)
  | .follow (.one s) _ =>
    match t.rest with
    | [] => ([], v)
    | c :: cs => (if s.contains c then [⟨t.advance c cs, rest⟩] else [], v)
  | .follow (.anchor a) _ => (if a.holds t.before t.rest.head? then [⟨t, rest⟩] else [], v)
  | .follow (.seq p q) shift => ([⟨t, .follow p shift :: .follow q shift :: rest⟩], v)
  | .follow (.alt id p q) shift =>
    choose v t (id + shift) true (.follow p shift :: rest) (.follow q shift :: rest)
  | .follow (.group i p) shift => ([⟨t, .follow p shift :: .close i t.pos :: rest⟩], v)
  | .follow (.run id s) shift => followRun v t (id + shift) s rest
  | .follow (.star id greedy p) shift => ([⟨t, .again shift (id + shift) greedy p :: rest⟩], v)
  | .follow (.atLeast before width id greedy p) shift =>
    let last := shift + before * width
    ([⟨t, .copies before shift width p :: .follow p last ::
      .again last (id + shift) greedy p :: rest⟩], v)
  | .follow (.bounded min extra width id greedy p) shift =>
    ([⟨t, .copies min shift width p ::
      .upTo extra (shift + min * width) width (id + shift) greedy p :: rest⟩], v)
  | .close i start => ([⟨t.close i start, rest⟩], v)
  | .giveBack [] _ => ([], v)
  | .giveBack (c :: taken) before =>
    let t := t.retreat c (taken.head?.or before)
    ([⟨t, rest⟩, ⟨t, .giveBack taken before :: rest⟩], v)
  | .copies 0 _ _ _ => ([⟨t, rest⟩], v)
  | .copies (n + 1) shift width p =>
    ([⟨t, .follow p shift :: .copies n (shift + width) width p :: rest⟩], v)
  | .upTo 0 _ _ _ _ _ => ([⟨t, rest⟩], v)
  | .upTo (n + 1) shift width id greedy p =>
    choose v t id greedy
      (.follow p shift :: .upTo n (shift + width) width (id + 1) greedy p :: rest) rest
  | .again shift id greedy p =>
    choose v t id greedy (.follow p shift :: .again shift id greedy p :: rest) rest

end Way

/-- Where a search stands: the choices that have been made, and the ways to go on. -/
structure Search where
  visited : Visited
  stack : List Way

namespace Search

/-- The search at the beginning of a text. -/
def start (p : Plan) (text : List Char) : Search :=
  ⟨.empty, [⟨Thread.start text, [.follow p 0]⟩]⟩

/-- Takes at most so many steps. The answer is what the search has found, or else where it
stands. -/
def run : Nat → Search → Search ⊕ Option Thread
  | 0, s => .inl s
  | _ + 1, ⟨_, []⟩ => .inr none
  | _ + 1, ⟨_, ⟨t, []⟩ :: _⟩ => .inr (some t)
  | n + 1, ⟨v, ⟨t, task :: rest⟩ :: stack⟩ =>
    let (ways, v) := Way.step v t task rest
    run n ⟨v, ways ++ stack⟩

/-- Goes on to the end, with at most `n` steps for every point of the text. -/
def finish (n : Nat) : List Char → Search → Option Thread
  | [], s =>
    match s.run n with
    | .inl _ => none
    | .inr found => found
  | _ :: text, s =>
    match s.run n with
    | .inl s => finish n text s
    | .inr found => found

end Search

namespace Pattern

/-- The most steps that a search takes for one point of the text. There are at most two ways for
every choice, and between two choices a way takes no step of the plan twice. -/
def stepsAtPoint (steps choices : Nat) : Nat := (2 * choices + 2) * (steps + 2)

/-- The preferred match that begins at the beginning of a text. -/
def match? (p : Pattern) (text : List Char) : Option Thread :=
  let (plan, choices) := p.plan 0
  (Search.start plan text).finish (stepsAtPoint plan.steps choices) text

end Pattern

end SearchQuery
