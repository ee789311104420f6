/-!
# Blanks

The characters with the Unicode property *White_Space*, and what is cut at them: trimming, the first
word of a text, and the first occurrence of a separator. Everything is on lists of characters, so
that each function is a plain recursion.

## Main definitions

* `isBlank` — the property *White_Space*
* `trim`, `trimEnd` — without the blanks at both ends, or at the end
* `firstWord?` — the first run of characters that are not blank
* `splitOnce?` — the parts before and after the first occurrence of a separator
-/

namespace ClosureWrap

namespace Text

/-- White space of any script. -/
def isBlank (c : Char) : Bool :=
  let n := c.toNat
  (0x9 ≤ n && n ≤ 0xD) || n == 0x20 || n == 0x85 || n == 0xA0 || n == 0x1680 ||
    (0x2000 ≤ n && n ≤ 0x200A) || n == 0x2028 || n == 0x2029 || n == 0x202F || n == 0x205F ||
    n == 0x3000

/-- Without the characters at the end that satisfy `p`. -/
def dropEndWhile (p : Char → Bool) (cs : List Char) : List Char :=
  (cs.reverse.dropWhile p).reverse

/-- Without the blanks at the end. -/
def trimEnd (cs : List Char) : List Char := dropEndWhile isBlank cs

/-- Without the blanks at both ends. -/
def trim (cs : List Char) : List Char := trimEnd (cs.dropWhile isBlank)

/-- The first run of characters that are not blank. -/
def firstWord? (cs : List Char) : Option (List Char) :=
  match (cs.dropWhile isBlank).takeWhile (fun c => !isBlank c) with
  | [] => none
  | word => some word

/-- What is left of `cs` once `lead` is taken off its front. -/
def stripLead? : List Char → List Char → Option (List Char)
  | [], cs => some cs
  | _ :: _, [] => none
  | l :: lead, c :: cs => if l = c then stripLead? lead cs else none

/-- The text without `lead` at its front, or unchanged if it does not start so. -/
def withoutLead (lead cs : List Char) : List Char := (stripLead? lead cs).getD cs

/-- The parts before and after the first occurrence of `sep`. -/
def splitOnce? (sep : List Char) : List Char → Option (List Char × List Char)
  | [] => (stripLead? sep []).map fun rest => ([], rest)
  | c :: cs =>
    match stripLead? sep (c :: cs) with
    | some rest => some ([], rest)
    | none => (splitOnce? sep cs).map fun p => (c :: p.1, p.2)

end Text

end ClosureWrap
