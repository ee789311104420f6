import ClosureWrap.Text.Numeral

/-!
# Strings, keys and blanks of TOML

Strings come in four forms: with escapes or without, on one line or on several. Over several lines,
a line end right after the opening quotes does not count, a backslash at the end of a line joins it
to the next word, and one or two quotes may stand anywhere, also right before the closing ones.

Control characters other than the tabulator are refused everywhere, and a carriage return stands
only before a line feed.

## Main definitions

* `Toml.string?` — a string in any form
* `Toml.path?` — a key, possibly dotted
* `Toml.skipFiller?` — skips blanks, line ends and comments
-/

namespace ClosureWrap

namespace Toml

/-- A blank inside a line. -/
def isBlank (c : Char) : Bool := c == ' ' || c == '\t'

/-- Without the blanks in front. -/
def skipBlanks (cs : List Char) : List Char := cs.dropWhile isBlank

/-- A character that may stand in a line as it is. -/
def isPrintable (c : Char) : Bool := c == '\t' || (0x20 ≤ c.toNat && c != '\x7f')

/-- Skips blanks, line ends and comments; at the start, `inComment` tells whether a comment goes
on. -/
def skipFillerFrom? (inComment : Bool) : List Char → Option (List Char)
  | [] => some []
  | '\r' :: '\n' :: rest => skipFillerFrom? false rest
  | '\n' :: rest => skipFillerFrom? false rest
  | c :: rest =>
    if inComment then if isPrintable c then skipFillerFrom? true rest else none
    else if isBlank c then skipFillerFrom? false rest
    else if c = '#' then skipFillerFrom? true rest
    else some (c :: rest)

/-- Skips blanks, line ends and comments. -/
def skipFiller? (cs : List Char) : Option (List Char) := skipFillerFrom? false cs

/-! ### Strings on one line -/

/-- The character that a one-letter escape stands for. -/
def escaped? : Char → Option Char
  | '"' => some '"'
  | '\\' => some '\\'
  | 'b' => some '\x08'
  | 'e' => some '\x1b'
  | 'f' => some '\x0c'
  | 'n' => some '\n'
  | 'r' => some '\r'
  | 't' => some '\t'
  | _ => none

/-- The character whose number is given by hexadecimal digits. -/
def numbered? (ds : List Char) : Option Char :=
  (Text.hexAfter? 0 ds).bind fun n => if n.isValidChar then some (Char.ofNat n) else none

/-- Puts a character in front of what was read. -/
def before (c : Char) (found : List Char × List Char) : List Char × List Char :=
  (c :: found.1, found.2)

/-- A string with escapes after its opening quote, and the rest. -/
def basic? : List Char → Option (List Char × List Char)
  | [] => none
  | '"' :: rest => some ([], rest)
  | '\\' :: 'x' :: a :: b :: rest =>
    (numbered? [a, b]).bind fun c => (basic? rest).map (before c)
  | '\\' :: 'u' :: a :: b :: c :: d :: rest =>
    (numbered? [a, b, c, d]).bind fun c => (basic? rest).map (before c)
  | '\\' :: 'U' :: a :: b :: c :: d :: e :: f :: g :: h :: rest =>
    (numbered? [a, b, c, d, e, f, g, h]).bind fun c => (basic? rest).map (before c)
  | '\\' :: e :: rest => (escaped? e).bind fun c => (basic? rest).map (before c)
  | c :: rest => if c ≠ '\\' ∧ isPrintable c then (basic? rest).map (before c) else none

/-- A string without escapes after its opening quote, and the rest. -/
def literal? : List Char → Option (List Char × List Char)
  | [] => none
  | '\'' :: rest => some ([], rest)
  | c :: rest => if isPrintable c then (literal? rest).map (before c) else none

/-! ### Strings over several lines -/

/-- Where a string over several lines stands with regard to a backslash that joins lines. -/
inductive Joining where
  /-- No such backslash is open. -/
  | no
  /-- After the backslash, before the line end. -/
  | toLineEnd
  /-- After the line end, before the next word. -/
  | toWord
  deriving DecidableEq, Repr

/-- A string with escapes over several lines after its opening quotes, and the rest. -/
def basicLines? : Joining → List Char → Option (List Char × List Char)
  | _, [] => none
  | .toLineEnd, '\r' :: '\n' :: rest => basicLines? .toWord rest
  | .toLineEnd, '\n' :: rest => basicLines? .toWord rest
  | .toLineEnd, c :: rest => if isBlank c then basicLines? .toLineEnd rest else none
  | .toWord, '\r' :: '\n' :: rest => basicLines? .toWord rest
  | .toWord, '\n' :: rest => basicLines? .toWord rest
  | .toWord, ' ' :: rest => basicLines? .toWord rest
  | .toWord, '\t' :: rest => basicLines? .toWord rest
  | _, '"' :: '"' :: '"' :: '"' :: '"' :: rest => some (['"', '"'], rest)
  | _, '"' :: '"' :: '"' :: '"' :: rest => some (['"'], rest)
  | _, '"' :: '"' :: '"' :: rest => some ([], rest)
  | _, '\\' :: 'x' :: a :: b :: rest =>
    (numbered? [a, b]).bind fun c => (basicLines? .no rest).map (before c)
  | _, '\\' :: 'u' :: a :: b :: c :: d :: rest =>
    (numbered? [a, b, c, d]).bind fun c => (basicLines? .no rest).map (before c)
  | _, '\\' :: 'U' :: a :: b :: c :: d :: e :: f :: g :: h :: rest =>
    (numbered? [a, b, c, d, e, f, g, h]).bind fun c => (basicLines? .no rest).map (before c)
  | _, '\\' :: '\r' :: '\n' :: rest => basicLines? .toWord rest
  | _, '\\' :: '\n' :: rest => basicLines? .toWord rest
  | _, '\\' :: e :: rest =>
    if isBlank e then basicLines? .toLineEnd rest
    else (escaped? e).bind fun c => (basicLines? .no rest).map (before c)
  | _, '\r' :: '\n' :: rest => (basicLines? .no rest).map (before '\n')
  | _, c :: rest =>
    if c = '\n' ∨ (c ≠ '\\' ∧ isPrintable c) then (basicLines? .no rest).map (before c) else none

/-- A string without escapes over several lines after its opening quotes, and the rest. -/
def literalLines? : List Char → Option (List Char × List Char)
  | [] => none
  | '\'' :: '\'' :: '\'' :: '\'' :: '\'' :: rest => some (['\'', '\''], rest)
  | '\'' :: '\'' :: '\'' :: '\'' :: rest => some (['\''], rest)
  | '\'' :: '\'' :: '\'' :: rest => some ([], rest)
  | '\r' :: '\n' :: rest => (literalLines? rest).map (before '\n')
  | c :: rest =>
    if c = '\n' ∨ isPrintable c then (literalLines? rest).map (before c) else none

/-- Without a line end in front. -/
def skipLineEnd : List Char → List Char
  | '\n' :: rest => rest
  | '\r' :: '\n' :: rest => rest
  | cs => cs

/-- A string on one line: its characters and the rest. -/
def lineString? : List Char → Option (List Char × List Char)
  | '"' :: rest => basic? rest
  | '\'' :: rest => literal? rest
  | _ => none

/-- A string in any form: its text and the rest. -/
def string? (cs : List Char) : Option (String × List Char) :=
  let found := match cs with
    | '"' :: '"' :: '"' :: rest => basicLines? .no (skipLineEnd rest)
    | '\'' :: '\'' :: '\'' :: rest => literalLines? (skipLineEnd rest)
    | _ => lineString? cs
  found.map fun (s, rest) => (String.ofList s, rest)

/-! ### Keys -/

/-- A character of a key without quotes. -/
def isKeyChar (c : Char) : Bool := c.isAlphanum || c == '_' || c == '-'

/-- A part of a key and the rest. -/
def key? (cs : List Char) : Option (String × List Char) :=
  match cs.takeWhile isKeyChar with
  | [] => (lineString? cs).map fun (s, rest) => (String.ofList s, rest)
  | word => some (String.ofList word, cs.dropWhile isKeyChar)

/-- How many parts a key may have. -/
def partLimit : Nat := 80

/-- A dotted key of at most so many parts, as the parts before the last, the last one, and the rest
without blanks. Around the dots there may be blanks, but no line ends. -/
def pathWithin? : Nat → List Char → Option (List String × String × List Char)
  | 0, _ => none
  | limit + 1, cs => do
    let (key, rest) ← key? (skipBlanks cs)
    match skipBlanks rest with
    | '.' :: more =>
      let (path, last, rest) ← pathWithin? limit more
      return (key :: path, last, rest)
    | rest => return ([], key, rest)

/-- A key, as the parts before the last, the last one, and the rest without blanks. -/
def path? (cs : List Char) : Option (List String × String × List Char) := pathWithin? partLimit cs

end Toml

end ClosureWrap
