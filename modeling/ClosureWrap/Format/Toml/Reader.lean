import ClosureWrap.Format.Toml.Scalar
import ClosureWrap.Format.Toml.Table
import ClosureWrap.Format.Toml.Text

/-!
# Reading TOML

A document is a sequence of lines, each of which opens a table or gives a value to a key of the
table opened last. Arrays and tables in braces may go over several lines and end with a comma; they
nest up to a limit. In braces a line may end anywhere but within a key, on a line of the document
not even around the equals sign.

## Main definitions

* `Toml.parse?` — the members of the table that a whole text writes
-/

namespace ClosureWrap

namespace Toml

/-- How deep arrays and tables in braces may nest. -/
def nestingLimit : Nat := 80

/-- A character of a word that is not in quotes. -/
def isWordChar (c : Char) : Bool :=
  !(isBlank c || c == '\n' || c == '\r' || c == ',' || c == '[' || c == ']' || c == '\x7b' ||
    c == '\x7d' || c == '=' || c == '#' || c == '"' || c == '\'')

/-- The value of a word. -/
def wordValue? (word : List Char) : Option Value :=
  if word = ['t', 'r', 'u', 'e'] then some (.bool true)
  else if word = ['f', 'a', 'l', 's', 'e'] then some (.bool false)
  else if isNumber word then some .number
  else if isMoment word then some .moment
  else none

/-- A value that is one word; between a date and a time there may be a blank. -/
def word? (cs : List Char) : Option (Value × List Char) :=
  let word := cs.takeWhile isWordChar
  let rest := cs.dropWhile isWordChar
  match rest with
  | ' ' :: d :: more =>
    if isDate word && d.isDigit then
      let time := (d :: more).takeWhile isWordChar
      (wordValue? (word ++ ' ' :: time)).map fun v => (v, (d :: more).dropWhile isWordChar)
    else (wordValue? word).map fun v => (v, rest)
  | _ => (wordValue? word).map fun v => (v, rest)

mutual

/-- A value and the rest; `depth` arrays or tables may still be opened. The fuel bounds the number
of values and items that start inside one another. -/
def value? : Nat → Nat → List Char → Option (Value × List Char)
  | 0, _, _ => none
  | fuel + 1, depth, cs =>
    match cs with
    | '[' :: rest => do
      if depth = 0 then none
      else
        let (items, rest) ← items? fuel (depth - 1) (← skipFiller? rest)
        return (.array items, rest)
    | '\x7b' :: rest => do
      if depth = 0 then none
      else
        let (members, rest) ← pairs? fuel (depth - 1) [] (← skipFiller? rest)
        return (.table .braces members, rest)
    | '"' :: _ => (string? cs).map fun (s, rest) => (.text s, rest)
    | '\'' :: _ => (string? cs).map fun (s, rest) => (.text s, rest)
    | _ => word? cs

/-- The items of an array up to its closing bracket. -/
def items? : Nat → Nat → List Char → Option (List Value × List Char)
  | 0, _, _ => none
  | fuel + 1, depth, cs =>
    match cs with
    | ']' :: rest => some ([], rest)
    | _ => do
      let (v, rest) ← value? fuel depth cs
      match ← skipFiller? rest with
      | ']' :: rest => return ([v], rest)
      | ',' :: rest =>
        let (vs, rest) ← items? fuel depth (← skipFiller? rest)
        return (v :: vs, rest)
      | _ => none

/-- The members of a table in braces up to its closing brace, added to those before. -/
def pairs? : Nat → Nat → Members → List Char → Option (Members × List Char)
  | 0, _, _, _ => none
  | fuel + 1, depth, ms, cs =>
    match cs with
    | '\x7d' :: rest => some (ms, rest)
    | _ => do
      let (path, key, rest) ← path? cs
      let '=' :: rest ← skipFiller? rest | none
      let (v, rest) ← value? fuel depth (← skipFiller? rest)
      let ms ← ms.assign? path key v
      match ← skipFiller? rest with
      | '\x7d' :: rest => return (ms, rest)
      | ',' :: rest => pairs? fuel depth ms (← skipFiller? rest)
      | _ => none

end

/-- Goes from the end of a line's content to the next content: nothing but blanks and a comment may
stand in between on the line. -/
def nextLine? (cs : List Char) : Option (List Char) :=
  match skipBlanks cs with
  | [] => some []
  | '#' :: rest => skipFiller? ('#' :: rest)
  | '\n' :: rest => skipFiller? rest
  | '\r' :: '\n' :: rest => skipFiller? rest
  | _ => none

/-- Reads lines into a table, where `header` is the path of the table opened last. The fuel bounds
the number of lines. -/
def lines? : Nat → List String → Members → List Char → Option Members
  | _, _, ms, [] => some ms
  | 0, _, _, _ :: _ => none
  | fuel + 1, header, ms, cs =>
    match cs with
    | '[' :: '[' :: rest => do
      let (path, key, rest) ← path? rest
      let ']' :: ']' :: rest := rest | none
      lines? fuel (path ++ [key]) (← ms.openElement? path key) (← nextLine? rest)
    | '[' :: rest => do
      let (path, key, rest) ← path? rest
      let ']' :: rest := rest | none
      lines? fuel (path ++ [key]) (← ms.openTable? path key) (← nextLine? rest)
    | _ => do
      let (path, key, rest) ← path? cs
      let '=' :: rest := rest | none
      let (v, rest) ← value? (2 * cs.length + 2) nestingLimit (skipBlanks rest)
      lines? fuel header (← ms.assignUnder? header path key v) (← nextLine? rest)

/-- The members of the table that a whole text writes; a byte order mark in front does not count.
Each line has at least one character. -/
def parse? (s : String) : Option Members :=
  let cs := match s.toList with
    | '\uFEFF' :: rest => rest
    | cs => cs
  (skipFiller? cs).bind (lines? (cs.length + 1) [] [])

end Toml

end ClosureWrap
