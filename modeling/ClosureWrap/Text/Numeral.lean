/-!
# Numerals

Numbers are read from ASCII digits with an optional plus sign in front, and have to be below a
bound; they are written without sign or leading zeros. Escapes give numbers by hexadecimal digits of
either case.

## Main definitions

* `digits?` — the value of a non-empty run of digits
* `numeral?` — the value of a numeral below a bound
* `decimal` — the numeral of a number
* `hexValue?`, `hexAfter?` — hexadecimal digits
-/

namespace ClosureWrap

namespace Text

/-- The value of a decimal digit. -/
def digitValue? (c : Char) : Option Nat :=
  if '0' ≤ c ∧ c ≤ '9' then some (c.toNat - '0'.toNat) else none

/-- The value of the digits `cs` written after a number `acc`. -/
def digitsAfter? (acc : Nat) : List Char → Option Nat
  | [] => some acc
  | c :: cs => (digitValue? c).bind fun d => digitsAfter? (10 * acc + d) cs

/-- The value of a run of digits; an empty run has none. -/
def digits? : List Char → Option Nat
  | [] => none
  | cs => digitsAfter? 0 cs

/-- The value of a numeral, which may start with a plus sign and is below `bound`. -/
def numeral? (bound : Nat) (cs : List Char) : Option Nat :=
  let body := match cs with
    | '+' :: rest => rest
    | _ => cs
  (digits? body).filter (· < bound)

/-- The decimal numeral of a number. -/
def decimal (n : Nat) : String := String.ofList (Nat.toDigits 10 n)

/-- The value of a hexadecimal digit. -/
def hexValue? (c : Char) : Option Nat :=
  if '0' ≤ c ∧ c ≤ '9' then some (c.toNat - '0'.toNat)
  else if 'a' ≤ c ∧ c ≤ 'f' then some (c.toNat - 'a'.toNat + 10)
  else if 'A' ≤ c ∧ c ≤ 'F' then some (c.toNat - 'A'.toNat + 10)
  else none

/-- The value of the hexadecimal digits `cs` written after a number `acc`. -/
def hexAfter? (acc : Nat) : List Char → Option Nat
  | [] => some acc
  | c :: cs => (hexValue? c).bind fun d => hexAfter? (16 * acc + d) cs

end Text

end ClosureWrap
