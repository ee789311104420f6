import ClosureWrap.Tree.Basic

/-!
# Walking a tree

Upwards a walk follows parents, whose numbers fall; downwards it follows children, whose numbers
grow and stay below the number of nodes. Both therefore end.

The list of all nodes is produced with a stack of nodes still to be visited, and the same order has
a recursive description, `preorder`: a node comes before everything below it, and what is below an
earlier child comes before a later child.

## Main definitions

* `Tree.ancestors` — the nodes above, nearest first
* `Tree.descendants` — all nodes, by a stack of pending nodes
* `Tree.preorder` — a node and what is below it, recursively
* `Tree.locate?` — the innermost node at an offset
-/

namespace ClosureWrap

namespace Tree

/-- The nodes above `n`, nearest first. -/
def ancestors (t : Tree) (n : Nat) : List Nat :=
  match _h : t.parent n with
  | none => []
  | some p => p :: t.ancestors p
termination_by n
decreasing_by exact parent_lt _h

/-- Visits the pending nodes in order, each followed by what is below it. Every step visits a node
for the first time, so that as many steps as there are nodes are enough. -/
def visit (t : Tree) : Nat → List Nat → List Nat
  | 0, _ => []
  | _ + 1, [] => []
  | steps + 1, n :: pending => n :: t.visit steps (t.children n ++ pending)

/-- All nodes, each before what is below it. -/
def descendants (t : Tree) : List Nat := t.visit t.size [root]

/-- Node `n`, then what is below each of its children in turn. -/
def preorder (t : Tree) (n : Nat) : List Nat :=
  n :: (t.children n).attach.flatMap fun c => t.preorder c.1
termination_by t.size - n
decreasing_by
  have := lt_of_mem_children c.2
  omega

/-- The innermost node at or below `n` whose range holds `offset`, taking the first child that has
one at every step. -/
def locate? (t : Tree) (n offset : Nat) : Option Nat :=
  if t.contains n offset then
    some (((t.children n).attach.findSome? fun c => t.locate? c.1 offset).getD n)
  else
    none
termination_by t.size - n
decreasing_by
  have := lt_of_mem_children c.2
  omega

end Tree

end ClosureWrap
