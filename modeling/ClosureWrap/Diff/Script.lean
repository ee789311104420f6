import ClosureWrap.Diff.Block

/-!
# Shortest scripts

Finds a shortest way from one sequence of lines to another. What the two have in common at the start
and at the end is kept; in between, a search from both ends meets on a shortest path, and the two
halves are treated alike.

The search follows the diagonals of the grid of old and new lines. After `d` steps each frontier
knows how far it gets on each diagonal with `d` lines removed or added. Within a step the diagonals
are visited from the highest to the lowest, and the first meeting counts.

## Main definitions

* `Diff.Frontier` — how far a search has come on each diagonal
* `Diff.meeting?` — where the searches from both ends meet
* `Diff.script` — the blocks of a shortest script
-/

namespace ClosureWrap

namespace Diff

/-- A part of the old lines and a part of the new ones. -/
structure Region where
  oldStart : Nat
  oldStop : Nat
  newStart : Nat
  newStop : Nat
  deriving Repr

/-- How many old lines lie behind a search on each diagonal, which may be negative. -/
structure Frontier where
  /-- Where diagonal zero stands. -/
  center : Nat
  /-- The number of old lines for each diagonal. -/
  reach : Array Nat

namespace Frontier

/-- A frontier for diagonals up to `radius` on either side, before the first step. -/
def start (radius : Nat) : Frontier := ⟨radius, Array.replicate (2 * radius + 1) 0⟩

/-- How far the search is on a diagonal. -/
def get (f : Frontier) (k : Int) : Nat := f.reach.getD (f.center + k).toNat 0

/-- The frontier after the search came to `x` on a diagonal. -/
def set (f : Frontier) (k : Int) (x : Nat) : Frontier :=
  { f with reach := f.reach.setIfInBounds (f.center + k).toNat x }

/-- Where step `d` enters diagonal `k`: from the neighbour that is further, by adding a line from
above or by removing one from below. -/
def enter (f : Frontier) (d : Nat) (k : Int) : Nat :=
  if k = -(d : Int) ∨ (k ≠ d ∧ f.get (k - 1) < f.get (k + 1)) then f.get (k + 1)
  else f.get (k - 1) + 1

end Frontier

/-- A search from both ends of a region. -/
inductive Search where
  /-- The frontiers from the start and from the end have not met. -/
  | apart (ahead back : Frontier)
  /-- They met where this many old and new lines of the region lie before. -/
  | met (x y : Nat)

/-- The diagonals of step `d`. -/
def diagonals (d : Nat) : List Int :=
  (List.range (d + 1)).map fun (i : Nat) => (d : Int) - 2 * (i : Int)

/-- One diagonal of the search from the start. It can meet the other if the lengths differ by an odd
number. -/
def advance (old new : Array (List Char)) (r : Region) (d : Nat) (s : Search) (k : Int) : Search :=
  match s with
  | .met x y => .met x y
  | .apart ahead back =>
    let n := r.oldStop - r.oldStart
    let m := r.newStop - r.newStart
    let delta : Int := (n : Int) - m
    let x := ahead.enter d k
    let y := ((x : Int) - k).toNat
    let x' := x + commonPrefix old new (r.oldStart + x) (r.newStart + y) (min (n - x) (m - y))
    let ahead := ahead.set k x'
    if delta % 2 ≠ 0 ∧ ((k - delta).natAbs : Int) ≤ (d : Int) - 1 ∧
        x' + back.get (delta - k) ≥ n then
      .met x y
    else .apart ahead back

/-- One diagonal of the search from the end. It can meet the other if the lengths differ by an even
number. -/
def retreat (old new : Array (List Char)) (r : Region) (d : Nat) (s : Search) (k : Int) : Search :=
  match s with
  | .met x y => .met x y
  | .apart ahead back =>
    let n := r.oldStop - r.oldStart
    let m := r.newStop - r.newStart
    let delta : Int := (n : Int) - m
    let x := back.enter d k
    let y := ((x : Int) - k).toNat
    let more := commonSuffix old new (r.oldStop - x) (r.newStop - y) (min (n - x) (m - y))
    let back := back.set k (x + more)
    if delta % 2 = 0 ∧ (k - delta).natAbs ≤ d ∧ x + more + ahead.get (delta - k) ≥ n then
      .met (n - (x + more)) (m - (y + more))
    else .apart ahead back

/-- The search after step `d` in both directions. -/
def Search.step (old new : Array (List Char)) (r : Region) (s : Search) (d : Nat) : Search :=
  (diagonals d).foldl (retreat old new r d) ((diagonals d).foldl (advance old new r d) s)

/-- Where the searches from both ends of a region meet. Half as many steps as there are lines
suffice. -/
def meeting? (old new : Array (List Char)) (r : Region) : Option (Nat × Nat) :=
  let steps := ((r.oldStop - r.oldStart) + (r.newStop - r.newStart) + 1) / 2 + 1
  let start : Search := .apart (.start (steps + 1)) (.start (steps + 1))
  match (List.range steps).foldl (Search.step old new r) start with
  | .met x y => some (r.oldStart + x, r.newStart + y)
  | .apart _ _ => none

/-- A block of kept lines, if there are any. -/
def keepSome (old new length : Nat) : List Block :=
  if length = 0 then [] else [.kept old new length]

/-- The blocks of a shortest script for a region. A meeting point divides the lines that are left,
so the fuel bounds how often that can happen. -/
def scriptWithin (old new : Array (List Char)) : Nat → Region → List Block
  | 0, _ => []
  | fuel + 1, r =>
    let lead := commonPrefix old new r.oldStart r.newStart
      (min (r.oldStop - r.oldStart) (r.newStop - r.newStart))
    let a := r.oldStart + lead
    let b := r.newStart + lead
    let tail := commonSuffix old new r.oldStop r.newStop (min (r.oldStop - a) (r.newStop - b))
    let a' := r.oldStop - tail
    let b' := r.newStop - tail
    let middle :=
      if a' ≤ a ∧ b' ≤ b then []
      else if b' ≤ b then [.removed a (a' - a) b]
      else if a' ≤ a then [.added a b (b' - b)]
      else
        match meeting? old new ⟨a, a', b, b'⟩ with
        | some (x, y) =>
          scriptWithin old new fuel ⟨a, x, b, y⟩ ++ scriptWithin old new fuel ⟨x, a', y, b'⟩
        | none => [.removed a (a' - a) b, .added a b (b' - b)]
    keepSome r.oldStart r.newStart lead ++ middle ++ keepSome a' b' tail

/-- The blocks of a shortest script from the old lines to the new ones. -/
def script (old new : Array (List Char)) : List Block :=
  scriptWithin old new (old.size + new.size + 1) ⟨0, old.size, 0, new.size⟩

end Diff

end ClosureWrap
