import ClosureWrap.Text.Blank
import ClosureWrap.Text.Numeral

/-!
# Reading JSON

A reader for JSON values. Numbers of any size are accepted, and so are strings whose escapes do not
make up a text, such as one half of a surrogate pair alone: nothing but the form of a value that
nobody asks about has to be right. What is asked about is kept: the value of a number that is a
plain natural number, the text of a string if it has one, and the members of an object in order,
repeated keys included.

Readers take a list of characters and return what they read together with the rest.

## Main definitions

* `Json` — a value
* `Json.parse?` — the value that a whole text writes
-/

namespace ClosureWrap

/-- A JSON value. -/
inductive Json where
  | null
  | bool (b : Bool)
  /-- A number, with its value if it is written as a natural number. -/
  | number (value : Option Nat)
  /-- A string, with its text if its escapes make up one. -/
  | text (value : Option String)
  | array (items : List Json)
  /-- The members in order; a key is a string and may likewise have no text. -/
  | object (members : List (Option String × Json))
  deriving Repr

namespace Json

/-- A blank of JSON. -/
def isSpace (c : Char) : Bool := c == ' ' || c == '\n' || c == '\t' || c == '\r'

/-- Without the blanks in front. -/
def skipSpace (cs : List Char) : List Char := cs.dropWhile isSpace

/-! ### Strings -/

/-- A part of a string: a character, or a 16-bit unit given by an escape. -/
inductive Piece where
  | char (c : Char)
  | unit (n : Nat)
  deriving Repr

/-- The character that a one-letter escape stands for. -/
def escaped? : Char → Option Char
  | '"' => some '"'
  | '\\' => some '\\'
  | '/' => some '/'
  | 'b' => some '\x08'
  | 'f' => some '\x0c'
  | 'n' => some '\n'
  | 'r' => some '\r'
  | 't' => some '\t'
  | _ => none

/-- The parts of a string after its opening quote, up to and without the closing one. Control
characters have to be escaped. -/
def pieces? : List Char → Option (List Piece × List Char)
  | [] => none
  | '"' :: rest => some ([], rest)
  | '\\' :: 'u' :: a :: b :: c :: d :: rest =>
    (Text.hexAfter? 0 [a, b, c, d]).bind fun n =>
      (pieces? rest).map fun (ps, rest) => (.unit n :: ps, rest)
  | '\\' :: e :: rest =>
    (escaped? e).bind fun c => (pieces? rest).map fun (ps, rest) => (.char c :: ps, rest)
  | c :: rest =>
    if c = '\\' ∨ c.toNat < 0x20 then none
    else (pieces? rest).map fun (ps, rest) => (.char c :: ps, rest)

/-- A first half of a surrogate pair. -/
def isHighHalf (n : Nat) : Bool := 0xD800 ≤ n && n < 0xDC00

/-- A second half of a surrogate pair. -/
def isLowHalf (n : Nat) : Bool := 0xDC00 ≤ n && n < 0xE000

/-- The characters of the parts of a string, if the halves in it pair up. -/
def charsOfPieces? : List Piece → Option (List Char)
  | [] => some []
  | .char c :: ps => (charsOfPieces? ps).map (c :: ·)
  | .unit h :: .unit l :: ps =>
    if isHighHalf h then
      if isLowHalf l then
        (charsOfPieces? ps).map (Char.ofNat (0x10000 + (h - 0xD800) * 0x400 + (l - 0xDC00)) :: ·)
      else none
    else if isLowHalf h then none
    else (charsOfPieces? (.unit l :: ps)).map (Char.ofNat h :: ·)
  | .unit n :: ps =>
    if isHighHalf n || isLowHalf n then none
    else (charsOfPieces? ps).map (Char.ofNat n :: ·)

/-- A string after its opening quote: its text, if it has one, and the rest. -/
def string? (cs : List Char) : Option (Option String × List Char) :=
  (pieces? cs).map fun (ps, rest) => ((charsOfPieces? ps).map String.ofList, rest)

/-! ### Numbers -/

/-- The digits in front, and the rest. -/
def digitRun (cs : List Char) : List Char × List Char :=
  (cs.takeWhile Char.isDigit, cs.dropWhile Char.isDigit)

/-- Takes off a run of at least one digit. -/
def skipDigits? (cs : List Char) : Option (List Char) :=
  match digitRun cs with
  | ([], _) => none
  | (_, rest) => some rest

/-- The digits of an integer, which has no needless zeros in front. -/
def integer? : List Char → Option (List Char × List Char)
  | '0' :: rest => some (['0'], rest)
  | cs =>
    match digitRun cs with
    | ([], _) => none
    | found => some found

/-- Takes off a fraction, if there is one. -/
def skipFraction? : List Char → Option (List Char)
  | '.' :: rest => skipDigits? rest
  | cs => some cs

/-- Takes off an exponent, if there is one. -/
def skipExponent? : List Char → Option (List Char)
  | c :: rest =>
    if c = 'e' ∨ c = 'E' then
      match rest with
      | s :: digits => if s = '+' ∨ s = '-' then skipDigits? digits else skipDigits? rest
      | [] => none
    else some (c :: rest)
  | [] => some []

/-- A number: its value if it has neither sign nor fraction nor exponent, and the rest. -/
def number? (cs : List Char) : Option (Option Nat × List Char) :=
  match cs with
  | '-' :: body => do
    let (_, rest) ← integer? body
    let rest ← skipFraction? rest
    let rest ← skipExponent? rest
    return (none, rest)
  | _ => do
    let (digits, rest) ← integer? cs
    let afterFraction ← skipFraction? rest
    let afterExponent ← skipExponent? afterFraction
    let plain := afterExponent.length == rest.length
    return (if plain then Text.digits? digits else none, afterExponent)

/-! ### Values -/

mutual

/-- A value and the rest. The fuel bounds the number of values that start inside one another. -/
def value? : Nat → List Char → Option (Json × List Char)
  | 0, _ => none
  | fuel + 1, cs =>
    match skipSpace cs with
    | 'n' :: rest => (Text.stripLead? ['u', 'l', 'l'] rest).map fun r => (.null, r)
    | 't' :: rest => (Text.stripLead? ['r', 'u', 'e'] rest).map fun r => (.bool true, r)
    | 'f' :: rest => (Text.stripLead? ['a', 'l', 's', 'e'] rest).map fun r => (.bool false, r)
    | '"' :: rest => (string? rest).map fun (s, r) => (.text s, r)
    | '[' :: rest =>
      match skipSpace rest with
      | ']' :: r => some (.array [], r)
      | r => (items? fuel r).map fun (vs, r) => (.array vs, r)
    | '\x7b' :: rest =>
      match skipSpace rest with
      | '\x7d' :: r => some (.object [], r)
      | r => (members? fuel r).map fun (ms, r) => (.object ms, r)
    | other => (number? other).map fun (n, r) => (.number n, r)

/-- The items of an array up to its end, of which there is at least one. -/
def items? : Nat → List Char → Option (List Json × List Char)
  | 0, _ => none
  | fuel + 1, cs => do
    let (v, rest) ← value? fuel cs
    match skipSpace rest with
    | ']' :: r => return ([v], r)
    | ',' :: r => (items? fuel r).map fun (vs, r) => (v :: vs, r)
    | _ => none

/-- The members of an object up to its end, of which there is at least one. -/
def members? : Nat → List Char → Option (List (Option String × Json) × List Char)
  | 0, _ => none
  | fuel + 1, cs => do
    let key ← match skipSpace cs with
      | '"' :: r => string? r
      | _ => none
    let afterColon ← match skipSpace key.2 with
      | ':' :: r => some r
      | _ => none
    let (v, rest) ← value? fuel afterColon
    match skipSpace rest with
    | '\x7d' :: r => return ([(key.1, v)], r)
    | ',' :: r => (members? fuel r).map fun (ms, r) => ((key.1, v) :: ms, r)
    | _ => none

end

/-- The value that a whole text writes, with nothing but blanks around it. Two steps for each
character are more than enough. -/
def parse? (s : String) : Option Json :=
  let cs := s.toList
  (value? (2 * cs.length + 2) cs).bind fun (v, rest) =>
    if (skipSpace rest).isEmpty then some v else none

/-! ### Records -/

/-- The values of a record with the given fields, in their order; a field is given by the keys that
name it. A record is written as an object, in which a field that is missing is null, no field comes
twice and other members do not matter, or as an array of just the values. -/
def record? (fields : List (List String)) : Json → Option (List Json)
  | .array items => if items.length = fields.length then some items else none
  | .object members =>
    if members.all fun m => m.1.isSome then
      fields.mapM fun names =>
        match members.filter fun m => m.1.any names.contains with
        | [] => some .null
        | [m] => some m.2
        | _ => none
    else none
  | _ => none

/-- The value of a field that may be null. -/
def optional? {α : Type} (read : Json → Option α) : Json → Option (Option α)
  | .null => some none
  | j => (read j).map some

/-- A truth value. -/
def bool? : Json → Option Bool
  | .bool b => some b
  | _ => none

/-- A natural number below a bound. -/
def nat? (bound : Nat) : Json → Option Nat
  | .number (some n) => if n < bound then some n else none
  | _ => none

/-- A text. -/
def text? : Json → Option String
  | .text s => s
  | _ => none

/-- The name of a variant without content: a string, or an object with the name as its only key and
null as its value. -/
def variant? : Json → Option String
  | .text s => s
  | .object [(key, .null)] => key
  | _ => none

end Json

end ClosureWrap
