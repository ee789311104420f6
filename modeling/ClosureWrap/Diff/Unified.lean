import ClosureWrap.Diff.Line
import ClosureWrap.Diff.Script
import ClosureWrap.Diff.Slide
import ClosureWrap.Text.Numeral

/-!
# Unified differences

The changes between two texts, each with a few lines of context. Changes whose contexts touch or
overlap form one hunk. A last line without an end is followed by a remark.

## Main definitions

* `Diff.blocks` — the blocks of the difference between two texts
* `Diff.hunks` — the blocks in groups, with their context
* `Diff.unified` — the whole text
-/

namespace ClosureWrap

namespace Diff

/-- Number of unchanged lines around a change. -/
def contextLength : Nat := 3

/-- The blocks of the difference between two sequences of lines. -/
def blocks (old new : Array (List Char)) : List Block :=
  coalesce (compact old new (script old new))

/-! ### Hunks -/

/-- Keeps of unchanged lines at the very start only the last ones. -/
def trimStart : List Block → List Block
  | b :: bs => if b.kind = .keep then b.dropStart (b.oldLength - contextLength) :: bs else b :: bs
  | [] => []

/-- Keeps of unchanged lines at the very end only the first ones. -/
def trimEnd (bs : List Block) : List Block :=
  match bs.getLast? with
  | some b =>
    if b.kind = .keep then bs.dropLast ++ [b.dropEnd (b.oldLength - contextLength)] else bs
  | none => bs

/-- Divides blocks into groups where many lines are unchanged; `group` is the group so far. A group
that only keeps lines is left out at the end. -/
def divide (group : List Block) : List Block → List (List Block)
  | [] =>
    match group with
    | [] => []
    | [b] => if b.kind = .keep then [] else [group]
    | _ => [group]
  | b :: bs =>
    if b.kind = .keep ∧ 2 * contextLength < b.oldLength then
      (group ++ [.kept b.old b.new contextLength]) ::
        divide [b.dropStart (b.oldLength - contextLength)] bs
    else divide (group ++ [b]) bs

/-- The blocks in groups, with their context. -/
def hunks (bs : List Block) : List (List Block) := divide [] (trimEnd (trimStart bs))

/-! ### Text -/

/-- The range of lines from `start` to `stop`, counted from one. An empty range names the line
before it. -/
def rangeText (start stop : Nat) : String :=
  let length := stop - start
  if length = 1 then Text.decimal (start + 1)
  else Text.decimal (if length = 0 then start else start + 1) ++ "," ++ Text.decimal length

/-- A line behind its mark, with a remark if it has no end. -/
def markedLine (mark : Char) (line : List Char) : String :=
  String.ofList (mark :: line) ++
    (if isEnded line then "" else "\n\\ No newline at end of file\n")

/-- Lines behind a mark. -/
def markedLines (mark : Char) (ls : Array (List Char)) (start length : Nat) : String :=
  String.join ((List.range length).map fun i => markedLine mark (ls.getD (start + i) []))

/-- The lines of a block. -/
def blockText (old new : Array (List Char)) (b : Block) : String :=
  match b.kind with
  | .keep => markedLines ' ' old b.old b.oldLength
  | _ => markedLines '-' old b.old b.oldLength ++ markedLines '+' new b.new b.newLength

/-- A hunk with its header. -/
def hunkText (old new : Array (List Char)) (hunk : List Block) : String :=
  match hunk.head?, hunk.getLast? with
  | some first, some last =>
    "@@ -" ++ rangeText first.old last.oldStop ++ " +" ++ rangeText first.new last.newStop ++
      " @@\n" ++
      String.join (hunk.map (blockText old new))
  | _, _ => ""

/-- The difference between two texts of a file. It is empty if there is none. -/
def unified (fileName oldText newText : String) : String :=
  let old := (lines oldText.toList).toArray
  let new := (lines newText.toList).toArray
  match hunks (blocks old new) with
  | [] => ""
  | hs => "--- a/" ++ fileName ++ "\n+++ b/" ++ fileName ++ "\n" ++
      String.join (hs.map (hunkText old new))

end Diff

end ClosureWrap
