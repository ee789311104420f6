import ClosureWrap.Forest

/-!
# Concrete syntax

The concrete tree of a source file comes from a TypeScript grammar. Each of its nodes has the kind
and the field that the grammar names, a byte range, and two marks: whether it is a named node or a
token, and whether the parser only supposed it to be there.

Two grammars are in use, one of them for files with markup; the extension of the file name decides.

## Main definitions

* `Concrete.Label` — a node of the concrete tree
* `Concrete.Source`, `Concrete.Source.ofTable` — a file with its text and its concrete tree
* `Concrete.Dialect`, `Concrete.dialectOf` — the grammar that a file name asks for
* `Concrete.extension?` — the extension of a path
-/

namespace ClosureWrap

namespace Concrete

/-- A node of the concrete tree. -/
structure Label where
  /-- The kind that the grammar names; for a token its text. -/
  kind : String
  /-- The field of the node above in which the node stands. -/
  field : Option String
  /-- Offset of the first byte. -/
  start : Nat
  /-- Offset just past the last byte. -/
  stop : Nat
  /-- A node that the grammar names, not a bare token. -/
  named : Bool
  /-- Supposed by the parser to recover from an error. -/
  missing : Bool
  deriving DecidableEq, Repr

/-- A grammar. -/
inductive Dialect where
  /-- Plain TypeScript. -/
  | ts
  /-- TypeScript with markup. -/
  | tsx
  deriving DecidableEq, Repr

/-- The components of a path between its slashes. -/
def components : List Char → List (List Char)
  | [] => [[]]
  | c :: cs =>
    match components cs with
    | [] => [[c]]
    | first :: others => if c = '/' then [] :: first :: others else (c :: first) :: others

/-- The last component of a path that is neither empty nor a single dot. None if it is a double dot,
which names a directory above. -/
def lastComponent? (path : List Char) : Option (List Char) :=
  match ((components path).filter fun c => c ≠ [] ∧ c ≠ ['.']).getLast? with
  | some ['.', '.'] => none
  | other => other

/-- What follows the last dot, if something precedes that dot. -/
def extension? (path : List Char) : Option (List Char) :=
  (lastComponent? path).bind fun name =>
    let ext := (name.reverse.takeWhile (· ≠ '.')).reverse
    if ext.length + 1 < name.length then some ext else none

/-- The grammar that a file name asks for: the extension `tsx` in any case means markup. -/
def dialectOf (fileName : String) : Dialect :=
  match extension? fileName.toList with
  | some ext => if ext.map Char.toLower = ['t', 's', 'x'] then .tsx else .ts
  | none => .ts

/-- A source file: its name, its text and its concrete tree. Of the root only the kind matters. -/
structure Source where
  /-- Name of the file. -/
  name : String
  /-- Text of the file. -/
  text : String
  /-- Kind of the root of the concrete tree. -/
  rootKind : String
  /-- What stands below the root. -/
  trees : Forest Label

/-- The source file whose concrete tree is given as a table of depths with the root at the top. -/
def Source.ofTable (name text : String) (table : List (Nat × Label)) : Source :=
  match Forest.ofDepths table with
  | .nil => ⟨name, text, "program", .nil⟩
  | .cons root below _ => ⟨name, text, root.kind, below⟩

end Concrete

end ClosureWrap
