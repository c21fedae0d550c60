/-!
# Query trees

What a query says, as a tree: words, phrases and field filters, joined by the connectives. Groups
are kept, so that a tree can be written as it was read.
-/

namespace SearchQuery

/-- Query trees. -/
inductive Node where
  | term (word : String)
  | phrase (text : String)
  | field (label raw : String)
  | not (n : Node)
  | and (l r : Node)
  | or (l r : Node)
  | group (n : Node)
  deriving DecidableEq, Repr

namespace Node

/-- The number of nodes. -/
def size : Node → Nat
  | term _ | phrase _ | field _ _ => 1
  | not n | group n => 1 + n.size
  | and l r | or l r => 1 + l.size + r.size

end Node

end SearchQuery
