import SearchQuery.Node
import SearchQuery.Text.Quoted

/-!
# Renderings of a query tree

A tree is written in three ways: as a query (`print`), on one line with the name of every node
(`shape`), and with one node a line, its children indented below it (`outline`). The lines of an
outline are listed with their depths; a visitor that goes through the tree and counts how deep it is
(`Outliner`) writes the same.
-/

namespace SearchQuery.Node

open Text

/-- The tree as a query, with every connective spelled out. -/
def print : Node → String
  | term word => word
  | phrase text => "\"" ++ text ++ "\""
  | field _ raw => raw
  | not n => "-" ++ n.print
  | and l r => l.print ++ " AND " ++ r.print
  | or l r => l.print ++ " OR " ++ r.print
  | group n => "(" ++ n.print ++ ")"

/-- The tree on one line, every node by name. -/
def shape : Node → String
  | term word => "Term(" ++ word ++ ")"
  | phrase text => "Phrase(" ++ text ++ ")"
  | field label raw => "FieldFilter(" ++ label ++ ", " ++ quoted raw ++ ")"
  | not n => "Not(" ++ n.shape ++ ")"
  | and l r => "And(" ++ l.shape ++ ", " ++ r.shape ++ ")"
  | or l r => "Or(" ++ l.shape ++ ", " ++ r.shape ++ ")"
  | group n => "Group(" ++ n.shape ++ ")"

/-- The name of a node itself, with the texts that it holds. -/
def heading : Node → String
  | term word => "Term(" ++ quoted word ++ ")"
  | phrase text => "Phrase(" ++ quoted text ++ ")"
  | field label raw => "FieldFilter(" ++ label ++ ", " ++ quoted raw ++ ")"
  | not _ => "Not"
  | and _ _ => "And"
  | or _ _ => "Or"
  | group _ => "Group"

/-- The children of a node from left to right. -/
def children : Node → List Node
  | term _ | phrase _ | field _ _ => []
  | not n | group n => [n]
  | and l r | or l r => [l, r]

/-- The blank space in front of a node that has `depth` ancestors. -/
def indent (depth : Nat) : String := String.ofList (List.replicate (2 * depth) ' ')

/-- The nodes of the tree, a node before its children, with the number of their ancestors. -/
def preorder (depth : Nat) : Node → List (Nat × Node)
  | n@(term _) | n@(phrase _) | n@(field _ _) => [(depth, n)]
  | n@(not m) | n@(group m) => (depth, n) :: m.preorder (depth + 1)
  | n@(and l r) | n@(or l r) => (depth, n) :: (l.preorder (depth + 1) ++ r.preorder (depth + 1))

/-- The tree with one node a line. -/
def outline (n : Node) : String :=
  String.join ((n.preorder 0).map fun (depth, m) => indent depth ++ m.heading ++ "\n")

/-! ## Line by line -/

/-- An outline in the making. -/
structure Outliner where
  /-- The lines so far. -/
  out : String
  /-- The number of nodes around the next one. -/
  depth : Nat

namespace Outliner

/-- The beginning of an outline. -/
def start : Outliner := ⟨"", 0⟩

/-- Writes a line at the depth that has been reached. -/
def line (o : Outliner) (text : String) : Outliner :=
  { o with out := o.out ++ (indent o.depth ++ text ++ "\n") }

/-- Writes a line, and one level deeper what belongs below it. -/
def nested (o : Outliner) (text : String) (below : Outliner → Outliner) : Outliner :=
  let o := o.line text
  let o := below { o with depth := o.depth + 1 }
  { o with depth := o.depth - 1 }

/-- Goes through a tree. -/
def visit : Node → Outliner → Outliner
  | term word, o => o.line ("Term(" ++ quoted word ++ ")")
  | phrase text, o => o.line ("Phrase(" ++ quoted text ++ ")")
  | field label raw, o => o.line ("FieldFilter(" ++ label ++ ", " ++ quoted raw ++ ")")
  | not n, o => o.nested "Not" (visit n)
  | and l r, o => o.nested "And" fun o => visit r (visit l o)
  | or l r, o => o.nested "Or" fun o => visit r (visit l o)
  | group n, o => o.nested "Group" (visit n)

/-- Writes the outline of a tree. -/
def render (n : Node) : String := (visit n start).out

end Outliner

end SearchQuery.Node
