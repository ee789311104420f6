/-!
# Forests

A forest is a row of trees: it is empty, or it has a first tree and the rest of the row. The first
tree is its label and the forest below it. With that reading a recursion over a forest is a plain
structural recursion with two recursive calls, down and to the right.

Forests are exchanged as tables, one line for each label in pre-order together with its depth;
`Forest.ofDepths` reads such a table.

## Main definitions

* `Forest` — a row of labelled trees
* `Forest.append`, `Forest.size` — one row after another, the number of labels
* `Forest.ofDepths` — the forest of a table of depths
-/

namespace ClosureWrap

/-- A row of trees with labels in `α`. -/
inductive Forest (α : Type) where
  /-- The empty row. -/
  | nil
  /-- A tree with its label and what is below it, then the rest of the row. -/
  | cons (label : α) (below : Forest α) (rest : Forest α)
  deriving Repr

namespace Forest

variable {α : Type}

/-- One row after another. -/
def append : Forest α → Forest α → Forest α
  | .nil, g => g
  | .cons a below rest, g => .cons a below (rest.append g)

/-- Number of labels. -/
def size : Forest α → Nat
  | .nil => 0
  | .cons _ below rest => below.size + rest.size + 1

/-- Reads one line of a table, given what the lines after it hold: the `d`-th entry of `later` is
the row of trees at depth `d` that directly follows. The line takes the row one deeper as its own,
stands before the row at its depth, and leaves nothing deeper pending. -/
def place (line : Nat × α) (later : List (Forest α)) : List (Forest α) :=
  later.take line.1 ++ List.replicate (line.1 - later.length) .nil ++
    [.cons line.2 (later.getD (line.1 + 1) .nil) (later.getD line.1 .nil)]

/-- The forest of a table; lines below depth zero without a line above them are dropped. -/
def ofDepths (table : List (Nat × α)) : Forest α := (table.foldr place []).headD .nil

end Forest

end ClosureWrap
