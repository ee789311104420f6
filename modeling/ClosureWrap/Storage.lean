import ClosureWrap.Concrete.Basic
import ClosureWrap.Error

/-!
# Files in memory

A tree of files and directories below a working directory, and one below the root of all files, with
the rules by which a path is followed: each step needs a directory to start from, a single dot and
an empty step stay there, and a double dot goes up. A directory exists if it is listed or if
something lies below it. A path that starts with a slash starts from the root, and there is nothing
above the root. The way up from the working directory is not known, and what lies there cannot be
reached.

## Main definitions

* `Storage`, `Storage.Entry` — the files
* `Storage.follow` — the place that a path leads to
* `Storage.read`, `Storage.write`
-/

namespace ClosureWrap

/-- What stands at a place. -/
inductive Storage.Entry where
  /-- A file with its bytes. -/
  | file (content : ByteArray)
  | directory

/-- Files and directories, each with the names that lead to it from the working directory or, after
a slash, from the root. -/
structure Storage where
  /-- The entries. -/
  entries : List (List String × Storage.Entry)

namespace Storage

/-- The names between the slashes of a path. -/
def steps (path : String) : List String :=
  (Concrete.components path.toList).map String.ofList

/-- The name of the root of all files. -/
def root : String := "/"

/-- Where a path starts. -/
def origin (path : String) : List String :=
  match path.toList with
  | '/' :: _ => [root]
  | _ => []

/-- Steps that stay where they are do not belong to the name of an entry. -/
def place (path : String) : List String :=
  origin path ++ (steps path).filter fun s => s ≠ "" ∧ s ≠ "."

/-- Files and directories given by their paths. -/
def ofList (entries : List (String × Entry)) : Storage := ⟨entries.map fun (p, e) => (place p, e)⟩

/-- What stands at a place; a directory is implied by what lies below it. -/
def lookup (s : Storage) (names : List String) : Option Entry :=
  match s.entries.lookup names with
  | some e => some e
  | none =>
    if names.isEmpty || names == [root] || s.entries.any fun e => names.isPrefixOf e.1 then
      some .directory
    else
      none

/-- A directory stands at the place. -/
def isDirectory (s : Storage) (names : List String) : Bool :=
  match s.lookup names with
  | some .directory => true
  | _ => false

/-- Follows steps from a place that exists. -/
def followFrom (s : Storage) (here : List String) : List String → Except ReadProblem (List String)
  | [] => .ok here
  | step :: rest =>
    if !s.isDirectory here then .error .notADirectory
    else if step = "" ∨ step = "." then s.followFrom here rest
    else if step = ".." then
      if here.isEmpty then
        .error (if rest.all fun r => r = "" ∨ r = "." ∨ r = ".." then .isDirectory else .notFound)
      else if here = [root] then s.followFrom here rest
      else s.followFrom here.dropLast rest
    else if (s.lookup (here ++ [step])).isNone then .error .notFound
    else s.followFrom (here ++ [step]) rest

/-- The place that a path leads to. -/
def follow (s : Storage) (path : String) : Except ReadProblem (List String) :=
  if path.isEmpty then .error .notFound else s.followFrom (origin path) (steps path)

/-- The text of the file at a path. -/
def read (s : Storage) (path : String) : Except ReadProblem String := do
  match s.lookup (← s.follow path) with
  | some (.file content) =>
    match String.fromUTF8? content with
    | some text => .ok text
    | none => .error .invalidText
  | some .directory => .error .isDirectory
  | none => .error .notFound

/-- Replaces the content of the file at a path. -/
def write (s : Storage) (path text : String) : Except ReadProblem Storage := do
  let names ← s.follow path
  if s.isDirectory names then .error .isDirectory
  else
    return ⟨s.entries.map fun (n, e) => if n = names then (n, .file text.toUTF8) else (n, e)⟩

end Storage

end ClosureWrap
