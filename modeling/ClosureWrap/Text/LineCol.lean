import ClosureWrap.Text.Span
import ClosureWrap.Text.Slice
import ClosureWrap.Text.Numeral

/-!
# Lines and columns

A line ends after a newline byte, and a column counts bytes from the start of its line. Inside this
library both count from zero; the written form `LINE:COL` counts from one. Since a newline byte
occurs in UTF-8 only as the newline character, all of this is about the list of bytes of a text.

Lines and columns are numbers of 32 bits. They are looked up in an index of the line starts, which
can be made only if all offsets of the text fit in 32 bits. An offset has a line and a column only
if it falls between characters. Offsets past the end of the text are taken as the end.

## Main definitions

* `lineLimit` — the bound of lines, columns and the offsets of an index
* `LineCol`, `LineCol.render` — a line and a column, and how they are written
* `LineCol.ofOffset`, `LineCol.written` — the line and column of an offset, and its written form
* `lineStart?`, `lineLength` — where a line starts and how long it is
-/

namespace ClosureWrap

namespace Text

/-- The bytes of a text in order. -/
def bytes (s : String) : List UInt8 := s.toByteArray.data.toList

/-- The byte that ends a line. -/
def newline : UInt8 := 0x0A

/-- Number of lines that end before `offset`. -/
def lineAt (bs : List UInt8) (offset : Nat) : Nat := (bs.take offset).count newline

/-- Number of bytes between the last line end before `offset` and `offset`. -/
def columnAt (bs : List UInt8) (offset : Nat) : Nat :=
  ((bs.take offset).reverse.takeWhile (· != newline)).length

/-- Offset of the first byte of a line; lines count from zero. -/
def lineStart? : Nat → List UInt8 → Option Nat
  | 0, _ => some 0
  | _ + 1, [] => none
  | n + 1, b :: bs => (lineStart? (if b = newline then n else n + 1) bs).map (· + 1)

/-- Number of bytes from `start` up to the next line end, or up to the end of the text. -/
def lineLength (bs : List UInt8) (start : Nat) : Nat :=
  ((bs.drop start).takeWhile (· != newline)).length

end Text

/-- Numbers of 32 bits are those below this bound. -/
def lineLimit : Nat := Nat.pow 2 32

/-- A line and a column, both counted from zero. -/
structure LineCol where
  /-- Number of lines above. -/
  line : UInt32
  /-- Number of bytes to the left. -/
  column : UInt32
  deriving DecidableEq, Repr

namespace LineCol

/-- The line and column of an offset, or of the end of the text if the offset is past it. -/
def ofOffset (text : String) (offset : Nat) : Except Fault LineCol :=
  let here := min offset (Text.byteLength text)
  -- In a text that has an index no offset is cut off here, nor is the line or the column.
  if lineLimit ≤ Text.byteLength text then
    .error .textTooLong
  else if Text.isBoundary text here then
    .ok ⟨.ofNat (Text.lineAt (Text.bytes text) here), .ofNat (Text.columnAt (Text.bytes text) here)⟩
  else
    .error .insideCharacter

/-- The number that counts from one. -/
def fromOne (n : UInt32) : Except Fault UInt32 :=
  if n.toNat + 1 < lineLimit then .ok (n + 1) else .error .countOverflow

/-- The written form `LINE:COL`, counted from one. -/
def render (p : LineCol) : Except Fault String := do
  let line ← fromOne p.line
  let column ← fromOne p.column
  return Text.decimal line.toNat ++ ":" ++ Text.decimal column.toNat

/-- The written form of the line and column of an offset. -/
def written (text : String) (offset : Nat) : Except Fault String := do
  (← ofOffset text offset).render

end LineCol

end ClosureWrap
