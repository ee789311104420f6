import ClosureWrap.Text.Blank
import ClosureWrap.Text.LineCol

/-!
# Cursor positions

An editor points at a place in a file either by an offset or by a selected range; what counts for a
refactoring is the first offset. A user writes a place as `N`, as `N..M`, or as `LINE:COL`, and the
written form is read against the text, so that an accepted place lies in the file.

## Main definitions

* `Locus`, `Locus.offset` — a place, and the offset it stands for
* `Locus.parse` — reads the written form
* `LocusProblem`, `LocusError` — why a written form is refused
-/

namespace ClosureWrap

/-- Where the cursor is. -/
inductive Locus where
  /-- A single offset. -/
  | point (n : Nat)
  /-- A selection; its ends are not required to be in order. -/
  | range (pos stop : Nat)
  deriving DecidableEq, Repr

/-- The offset a place stands for: the start of a selection. -/
def Locus.offset : Locus → Nat
  | .point n => n
  | .range pos _ => pos

/-- Why a written place is refused. -/
inductive LocusProblem where
  /-- A part is not a decimal number that fits in an address. -/
  | notANumber (part : String)
  /-- An offset lies past the end of the text. -/
  | pastEnd (offset size : Nat)
  /-- A range ends before it starts. -/
  | reversed
  /-- A line or column is zero. -/
  | notFromOne
  /-- A line number does not fit in 32 bits. -/
  | lineTooLarge
  /-- The text has fewer lines. -/
  | noSuchLine
  /-- The line has fewer columns. -/
  | pastLineEnd
  deriving DecidableEq, Repr

/-- The wording of a refusal. -/
def LocusProblem.message : LocusProblem → String
  | .notANumber part => "`" ++ part ++ "` is not a number"
  | .pastEnd offset size =>
    "offset " ++ Text.decimal offset ++ " is past end of file (" ++ Text.decimal size ++ " bytes)"
  | .reversed => "range end precedes start"
  | .notFromOne => "line and column are 1-based"
  | .lineTooLarge => "line too large"
  | .noSuchLine => "no such line"
  | .pastLineEnd => "column is past end of line"

/-- A refusal together with the written form, trimmed. -/
structure LocusError where
  /-- The written form without the blanks around it. -/
  input : String
  /-- What is wrong with it. -/
  problem : LocusProblem
  deriving DecidableEq, Repr

namespace Locus

/-- Reads a number, ignoring the blanks around it. -/
def readNumber (part : List Char) : Except LocusProblem Nat :=
  match Text.numeral? addressLimit (Text.trim part) with
  | some n => .ok n
  | none => .error (.notANumber (String.ofList (Text.trim part)))

/-- Reads an offset of the text. -/
def readOffset (text : String) (part : List Char) : Except LocusProblem Nat := do
  let offset ← readNumber part
  if offset > Text.byteLength text then
    throw (.pastEnd offset (Text.byteLength text))
  return offset

/-- The offset of a line and a column that count from one, as far as they are in the text. -/
def offsetInLine (text : String) (line column : Nat) : Except LocusProblem Nat :=
  match Text.lineStart? (line - 1) (Text.bytes text) with
  | none => .error .noSuchLine
  | some start =>
    if Text.lineLength (Text.bytes text) start < column - 1 then .error .pastLineEnd
    else .ok (start + (column - 1))

/-- The offset of a line and a column. Without an index of the lines of the text there is no answer
at all. -/
def offsetOfLineCol (text : String) (line column : Nat) :
    ExceptT LocusProblem (Except Fault) Nat :=
  if line = 0 ∨ column = 0 then throw .notFromOne
  else if lineLimit ≤ line - 1 then throw .lineTooLarge
  else if lineLimit ≤ Text.byteLength text then throwThe Fault .textTooLong
  else offsetInLine text line column

/-- Reads a trimmed place: a range if it holds two dots, else a line and column if it holds a
colon, else an offset. -/
def readTrimmed (text : String) (input : List Char) :
    ExceptT LocusProblem (Except Fault) Locus :=
  match Text.splitOnce? ['.', '.'] input with
  | some (first, second) => do
    let pos ← readOffset text first
    let stop ← readOffset text second
    if stop < pos then throw .reversed
    return .range pos stop
  | none =>
    match Text.splitOnce? [':'] input with
    | some (first, second) => do
      let line ← readNumber first
      let column ← readNumber second
      return .point (← offsetOfLineCol text line column)
    | none => return .point (← readOffset text input)

/-- Reads a written place against a text. -/
def parse (text input : String) : Except Fault (Except LocusError Locus) :=
  let trimmed := Text.trim input.toList
  (readTrimmed text trimmed).run.map
    (Except.mapError fun problem => ⟨String.ofList trimmed, problem⟩)

end Locus

end ClosureWrap
