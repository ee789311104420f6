import ClosureWrap.Text.Numeral

/-!
# Numbers and moments of TOML

Decides whether a word is a number, a date, a time, or both. Digits may be grouped by single
underscores. Integers have to fit in 128 bits, with sign or without, and a decimal number must not
be so large that it would be rounded to infinity. A time may leave out its seconds, and sixty of
them are allowed for a leap second.

## Main definitions

* `Toml.isInteger`, `Toml.isFloat`, `Toml.isNumber`
* `Toml.isDate`, `Toml.isMoment`
-/

namespace ClosureWrap

namespace Toml

/-! ### Numbers -/

/-- The digits of a group without the underscores, each of which stands between two digits. -/
def ungrouped? (isDigit : Char → Bool) : List Char → Option (List Char)
  | [] => none
  | [d] => if isDigit d then some [d] else none
  | d :: '_' :: rest => if isDigit d then (ungrouped? isDigit rest).map (d :: ·) else none
  | d :: rest => if isDigit d then (ungrouped? isDigit rest).map (d :: ·) else none

/-- Decimal digits that have no needless zero in front. -/
def plainDigits? (cs : List Char) : Option (List Char) :=
  (ungrouped? Char.isDigit cs).filter fun ds => ds.length == 1 || ds.head? != some '0'

/-- A number without its sign; the sign is `true` for minus. -/
def splitSign : List Char → Option Bool × List Char
  | '+' :: rest => (some false, rest)
  | '-' :: rest => (some true, rest)
  | cs => (none, cs)

/-- The value of digits to a base, none of which is at least the base. -/
def valueInBase (base : Nat) (ds : List Char) : Nat :=
  ds.foldl (fun acc d => base * acc + (Text.hexValue? d).getD 0) 0

/-- Whether digits to a base make an integer of 128 bits. -/
def isBased (base : Nat) (cs : List Char) : Bool :=
  (ungrouped? (fun c => (Text.hexValue? c).any (· < base)) cs).any
    fun ds => valueInBase base ds < Nat.pow 2 128

/-- An integer: decimal with an optional sign, or to the base 16, 8 or 2 without. -/
def isInteger (cs : List Char) : Bool :=
  match cs with
  | '0' :: 'x' :: digits => isBased 16 digits
  | '0' :: 'o' :: digits => isBased 8 digits
  | '0' :: 'b' :: digits => isBased 2 digits
  | _ =>
    let (sign, digits) := splitSign cs
    (plainDigits? digits).any fun ds =>
      let n := valueInBase 10 ds
      if sign = some true then n ≤ Nat.pow 2 127 else n < Nat.pow 2 128

/-- A digit or an underscore. -/
def isGroupChar (c : Char) : Bool := c.isDigit || c == '_'

/-- From here on, doubles are rounded to infinity. -/
def floatLimit : Nat := Nat.pow 2 1024 - Nat.pow 2 970

/-- Whether the number with these digits, times ten to the given power, is below `floatLimit`. The
number of digits settles all but a few cases, so that no huge power is formed. -/
def isFinite (digits : List Char) (power : Int) : Bool :=
  let significant := digits.dropWhile (· == '0')
  let magnitude := significant.length + power
  if significant.isEmpty || magnitude < 300 then true
  else if magnitude > 310 then false
  else
    let n := valueInBase 10 significant
    if power < 0 then n < floatLimit * Nat.pow 10 power.natAbs
    else n * Nat.pow 10 power.natAbs < floatLimit

/-- The fraction after a point, if there is one, and the rest. -/
def fraction? : List Char → Option (List Char × List Char)
  | '.' :: cs =>
    (ungrouped? Char.isDigit (cs.takeWhile isGroupChar)).map fun ds =>
      (ds, cs.dropWhile isGroupChar)
  | cs => some ([], cs)

/-- The power of ten that the rest of a number gives. -/
def exponent? : List Char → Option Int
  | [] => some 0
  | c :: cs =>
    if c = 'e' ∨ c = 'E' then
      let (sign, digits) := splitSign cs
      (ungrouped? Char.isDigit digits).map fun ds =>
        let n : Int := valueInBase 10 ds
        if sign = some true then -n else n
    else none

/-- A decimal number with a fraction or an exponent, or one of the words for infinity and for no
number. -/
def isFloat (cs : List Char) : Bool :=
  let (_, body) := splitSign cs
  if body = ['i', 'n', 'f'] ∨ body = ['n', 'a', 'n'] then true
  else
    let rest := body.dropWhile isGroupChar
    let read : Option Bool := do
      let whole ← plainDigits? (body.takeWhile isGroupChar)
      let (part, tail) ← fraction? rest
      let power ← exponent? tail
      return isFinite (whole ++ part) (power - part.length)
    !rest.isEmpty && read.getD false

/-- A number. -/
def isNumber (cs : List Char) : Bool := isInteger cs || isFloat cs

/-! ### Moments -/

/-- A number of two digits and the rest. -/
def twoDigits? : List Char → Option (Nat × List Char)
  | a :: b :: rest => (Text.digits? [a, b]).map fun n => (n, rest)
  | _ => none

/-- The number of days of a month. -/
def daysIn (year month : Nat) : Nat :=
  if month = 2 then
    if year % 4 = 0 ∧ (year % 100 ≠ 0 ∨ year % 400 = 0) then 29 else 28
  else if month = 4 ∨ month = 6 ∨ month = 9 ∨ month = 11 then 30
  else 31

/-- What follows a date. -/
def date? (cs : List Char) : Option (List Char) := do
  let year ← if (cs.take 4).length = 4 then Text.digits? (cs.take 4) else none
  let '-' :: cs := cs.drop 4 | none
  let (month, cs) ← twoDigits? cs
  let '-' :: cs := cs | none
  let (day, cs) ← twoDigits? cs
  if 1 ≤ month ∧ month ≤ 12 ∧ 1 ≤ day ∧ day ≤ daysIn year month then some cs else none

/-- What follows the seconds of a time, if it gives any; a fraction of them may have any length. -/
def seconds? : List Char → Option (List Char)
  | ':' :: cs => do
    let (second, cs) ← twoDigits? cs
    if second ≤ 60 then
      match cs with
      | '.' :: cs =>
        if (cs.takeWhile Char.isDigit).isEmpty then none else some (cs.dropWhile Char.isDigit)
      | _ => some cs
    else none
  | cs => some cs

/-- What follows hours and minutes. -/
def clock? (cs : List Char) : Option (List Char) := do
  let (hour, cs) ← twoDigits? cs
  let ':' :: cs := cs | none
  let (minute, cs) ← twoDigits? cs
  if hour ≤ 23 ∧ minute ≤ 59 then some cs else none

/-- Whether a distance from universal time stands here and nothing else; it may be left out. -/
def isOffset : List Char → Bool
  | [] => true
  | ['Z'] => true
  | ['z'] => true
  | c :: cs => (c == '+' || c == '-') && clock? cs == some []

/-- A date alone. -/
def isDate (cs : List Char) : Bool := date? cs == some []

/-- A date, a time, or a date and a time with an optional distance from universal time. -/
def isMoment (cs : List Char) : Bool :=
  match date? cs with
  | some [] => true
  | some (c :: rest) =>
    (c == 'T' || c == 't' || c == ' ') && ((clock? rest).bind seconds?).any isOffset
  | none => (clock? cs).bind seconds? == some []

end Toml

end ClosureWrap
