/-!
# Lines with their ends

A line goes up to and includes its end, which is a line feed, a carriage return, or both in that
order.

## Main definitions

* `Diff.lines` — the lines of a text
-/

namespace ClosureWrap

namespace Diff

/-- Puts a character in front of the first line. -/
def onFirst (c : Char) : List (List Char) → List (List Char)
  | [] => [[c]]
  | line :: others => (c :: line) :: others

/-- The lines of a text. -/
def lines : List Char → List (List Char)
  | [] => []
  | '\r' :: '\n' :: rest => ['\r', '\n'] :: lines rest
  | c :: rest => if c = '\n' ∨ c = '\r' then [c] :: lines rest else onFirst c (lines rest)

/-- A line has an end. -/
def isEnded (line : List Char) : Bool :=
  line.getLast? == some '\n' || line.getLast? == some '\r'

end Diff

end ClosureWrap
