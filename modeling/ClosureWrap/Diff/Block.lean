/-!
# Blocks of a difference

The difference between two sequences of lines is a list of blocks. Each keeps, removes, adds or
replaces some lines, and says where it stands in the old sequence and in the new one.

## Main definitions

* `Diff.Block`, `Diff.BlockKind`
* `Diff.commonPrefix`, `Diff.commonSuffix` — how far two sequences agree from a place on, or before
  it
-/

namespace ClosureWrap

namespace Diff

/-- What becomes of the lines of a block. -/
inductive BlockKind where
  | keep
  | remove
  | add
  /-- Removes lines and adds others in their place. -/
  | replace
  deriving DecidableEq, Repr

/-- A block of a difference. -/
structure Block where
  /-- What becomes of the lines. -/
  kind : BlockKind
  /-- Number of old lines before the block. -/
  old : Nat
  /-- Number of old lines in the block. -/
  oldLength : Nat
  /-- Number of new lines before the block. -/
  new : Nat
  /-- Number of new lines in the block. -/
  newLength : Nat
  deriving DecidableEq, Repr

namespace Block

/-- A block of kept lines. -/
def kept (old new length : Nat) : Block := ⟨.keep, old, length, new, length⟩

/-- A block of removed lines. -/
def removed (old length new : Nat) : Block := ⟨.remove, old, length, new, 0⟩

/-- A block of added lines. -/
def added (old new length : Nat) : Block := ⟨.add, old, 0, new, length⟩

/-- Number of old lines up to the end of the block. -/
def oldStop (b : Block) : Nat := b.old + b.oldLength

/-- Number of new lines up to the end of the block. -/
def newStop (b : Block) : Nat := b.new + b.newLength

/-- The block has no lines. -/
def isEmpty (b : Block) : Bool := b.oldLength == 0 && b.newLength == 0

/-- The number of lines on both sides. -/
def size (b : Block) : Nat := b.oldLength + b.newLength

end Block

/-- How many lines agree from two places on, among the next `n`. -/
def commonPrefix (old new : Array (List Char)) (i j : Nat) : Nat → Nat
  | 0 => 0
  | n + 1 => if old.getD i [] = new.getD j [] then commonPrefix old new (i + 1) (j + 1) n + 1 else 0

/-- How many lines agree right before two places, among the last `n`. -/
def commonSuffix (old new : Array (List Char)) (i j : Nat) : Nat → Nat
  | 0 => 0
  | n + 1 =>
    if old.getD (i - 1) [] = new.getD (j - 1) [] then
      commonSuffix old new (i - 1) (j - 1) n + 1
    else
      0

end Diff

end ClosureWrap
