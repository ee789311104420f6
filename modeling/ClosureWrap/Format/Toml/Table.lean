/-!
# Tables of a TOML document

A table may be brought about in four ways, and these decide what may be added to it later. It may be
implied by a longer header, be named by a header of its own, arise from a dotted key, or be written
in braces. A header opens a table at most once; it may complete an implied table, but not one of
dotted keys. A table in braces is closed for good.

The members of a table are kept in the order in which they were first written. Of numbers and
moments nothing but their presence is kept.

## Main definitions

* `Toml.Value`, `Toml.Members` — a value, and the members of a table
* `Toml.Members.assign?` — a key, possibly dotted, with its value
* `Toml.Members.openTable?`, `Toml.Members.openElement?` — a header, and a header of an array of
  tables
-/

namespace ClosureWrap

namespace Toml

/-- How a table was brought about. -/
inductive Origin where
  /-- By a header of a table inside it. -/
  | implied
  /-- By a header of its own. -/
  | header
  /-- By a dotted key. -/
  | dotted
  /-- In braces. -/
  | braces
  deriving DecidableEq, Repr

/-- A value. -/
inductive Value where
  | bool (b : Bool)
  | text (s : String)
  | number
  /-- A date, a time, or both. -/
  | moment
  /-- An array in brackets. -/
  | array (items : List Value)
  | table (origin : Origin) (members : List (String × Value))
  /-- An array of tables made by headers: those before the last one, and the last one. -/
  | tables (earlier : List (List (String × Value))) (last : List (String × Value))
  deriving Repr

/-- The members of a table. -/
abbrev Members := List (String × Value)

namespace Members

/-- The members with another value for a key that is there. -/
def replace (ms : Members) (key : String) (v : Value) : Members :=
  ms.map fun m => if m.1 = key then (key, v) else m

/-- The members with a new one; a key is given once. -/
def insertNew? (ms : Members) (key : String) (v : Value) : Option Members :=
  if (ms.lookup key).isSome then none else some (ms ++ [(key, v)])

/-- Changes the table that a path leads to, and makes the tables on the way that are missing. A path
of a dotted key (`dotted`) does not enter a table that has a header; no path enters braces; and of
an array of tables every path enters the last one. -/
def updateAt? (dotted : Bool) (change : Origin → Members → Option Members) :
    List String → Origin → Members → Option Members
  | [], origin, ms => change origin ms
  | key :: path, _, ms =>
    match ms.lookup key with
    | none =>
      let origin := if dotted then Origin.dotted else .implied
      (updateAt? dotted change path origin []).map fun below => ms ++ [(key, .table origin below)]
    | some (.table origin below) =>
      if origin = .braces ∨ (dotted ∧ origin = .header) then none
      else (updateAt? dotted change path origin below).map fun b => replace ms key (.table origin b)
    | some (.tables earlier last) =>
      (updateAt? dotted change path .header last).map fun b => replace ms key (.tables earlier b)
    | some _ => none

/-- Gives a value to a key. The table that a dotted key adds to has to stem from dotted keys. -/
def assign? (ms : Members) (path : List String) (key : String) (v : Value) : Option Members :=
  if path.isEmpty then insertNew? ms key v
  else
    updateAt? true
      (fun origin below => if origin = .dotted then insertNew? below key v else none)
      path .header ms

/-- Opens a table by its header. -/
def openTable? (ms : Members) (path : List String) (key : String) : Option Members :=
  updateAt? false (fun _ below =>
    match below.lookup key with
    | none => some (below ++ [(key, .table .header [])])
    | some (.table .implied members) => some (replace below key (.table .header members))
    | some _ => none) path .header ms

/-- Opens a further element of an array of tables by its header. -/
def openElement? (ms : Members) (path : List String) (key : String) : Option Members :=
  updateAt? false (fun _ below =>
    match below.lookup key with
    | none => some (below ++ [(key, .tables [] [])])
    | some (.tables earlier last) => some (replace below key (.tables (earlier ++ [last]) []))
    | some _ => none) path .header ms

/-- Gives a value to a key inside the table that the last header opened. -/
def assignUnder? (ms : Members) (header path : List String) (key : String) (v : Value) :
    Option Members :=
  updateAt? false (fun _ below => assign? below path key v) header .header ms

end Members

end Toml

end ClosureWrap
