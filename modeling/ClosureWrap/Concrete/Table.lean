import ClosureWrap.Concrete.Basic
import ClosureWrap.Text.Numeral

/-!
# Concrete trees as tables

A concrete tree is written as a table, one node a line in pre-order with the root first. The columns
are divided by tabulators: depth, kind, field or nothing, first byte, byte past the last, and the
two marks, 1 or 0, for a named node and for one that the parser only supposed.

## Main definitions

* `Concrete.parseTable?` — the rows of a table
-/

namespace ClosureWrap

namespace Concrete

/-- A mark. -/
def mark? : String → Option Bool
  | "0" => some false
  | "1" => some true
  | _ => none

/-- A row of a table. -/
def parseRow? (row : String) : Option (Nat × Label) :=
  match row.splitOn "\t" with
  | [depth, kind, field, start, stop, named, missing] => do
    let label : Label := {
      kind := kind
      field := if field.isEmpty then none else some field
      start := ← Text.digits? start.toList
      stop := ← Text.digits? stop.toList
      named := ← mark? named
      missing := ← mark? missing }
    return (← Text.digits? depth.toList, label)
  | _ => none

/-- The rows of a table; empty lines do not count. -/
def parseTable? (text : String) : Option (List (Nat × Label)) :=
  ((text.splitOn "\n").filter fun row => !row.isEmpty).mapM parseRow?

end Concrete

end ClosureWrap
