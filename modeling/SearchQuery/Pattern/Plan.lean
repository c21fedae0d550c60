import SearchQuery.Pattern.Basic

/-!
# Plans

A plan is a pattern whose choices are numbered, made ready for the search for a match. A search may
not make the same choice twice at one point of the text, so every choice needs a number of its own,
also in every copy of a repetition: the choices inside a body take up `width` numbers, and the
numbers of a copy are those of the copy before it, moved up by `width`.
-/

namespace SearchQuery

/-- Patterns with numbered choices. -/
inductive Plan where
  | empty
  | one (s : CharSet)
  | anchor (a : Anchor)
  | seq (p q : Plan)
  | alt (id : Nat) (p q : Plan)
  | group (index : Nat) (p : Plan)
  /-- Any number of characters of a set, as many as possible. -/
  | run (id : Nat) (s : CharSet)
  /-- Any number of copies of a body that takes a character. -/
  | star (id : Nat) (greedy : Bool) (p : Plan)
  /-- `before` copies, and then one or more further copies, which share their numbers. -/
  | atLeast (before width id : Nat) (greedy : Bool) (p : Plan)
  /-- `min` copies, and then at most `extra` further ones. The choices whether to go on have the
  numbers from `id` on. -/
  | bounded (min extra width id : Nat) (greedy : Bool) (p : Plan)
  deriving DecidableEq, Repr

namespace Plan

/-- The most steps that a search takes in the plan without making a choice twice. -/
def steps : Plan → Nat
  | empty | one _ | anchor _ | run _ _ => 1
  | seq p q | alt _ p q => p.steps + q.steps + 1
  | group _ p => p.steps + 2
  | star _ _ p => p.steps + 3
  | atLeast before _ _ _ p => (before + 1) * (p.steps + 1) + 3
  | bounded min extra _ _ _ p => (min + extra) * (p.steps + 1) + 3

end Plan

namespace Pattern

/-- The plan for any number of copies of a body that may match the empty text: either no copy, or
one and then more. -/
def optionalLoop (id width : Nat) (greedy : Bool) (body : Plan) : Plan :=
  let loop := Plan.atLeast 0 width (id + 1) greedy body
  if greedy then .alt id loop .empty else .alt id .empty loop

/-- The plan of a pattern with the choices numbered from `next` on, and the next number after
them. -/
def plan : Pattern → Nat → Plan × Nat
  | empty, next => (.empty, next)
  | one s, next => (.one s, next)
  | anchor a, next => (.anchor a, next)
  | seq p q, next =>
    let (p', next) := p.plan next
    let (q', next) := q.plan next
    (.seq p' q', next)
  | alt p q, next =>
    let (p', after) := p.plan (next + 1)
    let (q', after) := q.plan after
    (.alt next p' q', after)
  | group i p, next =>
    let (p', next) := p.plan next
    (.group i p', next)
  | repeated min max greedy p, next =>
    let (body, id) := p.plan next
    let width := id - next
    match min, max, greedy, p with
    | min, some max, greedy, _ =>
      (.bounded min (max - min) width (next + max * width) greedy body,
        next + max * width + (max - min))
    | 0, none, true, one s => (.run next s, next + 1)
    | min, none, true, one s => (.seq (.bounded min 0 0 next true (.one s)) (.run next s), next + 1)
    | 0, none, greedy, p =>
      if p.takesChar then (.star id greedy body, id + 1)
      else (optionalLoop id width greedy body, id + 2)
    | min + 1, none, greedy, _ =>
      (.atLeast min width (next + (min + 1) * width) greedy body, next + (min + 1) * width + 1)

end Pattern

end SearchQuery
