import ClosureWrap.Text.Letter

/-!
# Forwarding closures

A closure that forwards to a function `f` takes some parameters and calls `f` with just these. It is
built as an expression and then written on a single line: arguments and parameters are separated by
a comma and a blank, and an arrow function that is called stands in parentheses. The parentheses
around a single plain parameter are a matter of taste and can be left out.

## Main definitions

* `Expr` — identifiers, calls and arrow functions
* `ArrowParens` — when the parentheses around a single parameter are written
* `Expr.render` — the written form
* `Expr.forward` — the closure that forwards to a function
-/

namespace ClosureWrap

/-- When the parentheses around a single parameter are written. -/
inductive ArrowParens where
  /-- Only around a parameter that is not a plain identifier. -/
  | asNeeded
  /-- Always. -/
  | always
  deriving DecidableEq, Repr

/-- An expression made by the refactoring. Names are written as they are. -/
inductive Expr where
  /-- A name. -/
  | identifier (name : String)
  /-- A call. -/
  | call (callee : Expr) (arguments : List Expr)
  /-- An arrow function. -/
  | arrow (parameters : List String) (body : Expr)
  deriving Repr

namespace Text

/-- A character with which an identifier can start. -/
def isIdentifierStart (c : Char) : Bool := isAlphabetic c || c == '_' || c == '$'

/-- A character with which an identifier can go on. -/
def isIdentifierPart (c : Char) : Bool := isAlphabetic c || isNumeric c || c == '_' || c == '$'

/-- A plain identifier: not empty, and nothing that needs escaping or is a pattern. -/
def isPlainIdentifier : List Char → Bool
  | [] => false
  | c :: cs => isIdentifierStart c && cs.all isIdentifierPart

/-- The separator of arguments and of parameters. -/
def comma : List Char := [',', ' ']

/-- A list in parentheses. -/
def parenthesized (items : List (List Char)) : List Char :=
  '(' :: (comma.intercalate items ++ [')'])

end Text

namespace Expr

/-- The parameters of an arrow function: a single one stands bare if it may. -/
def headChars (mode : ArrowParens) : List String → List Char
  | [only] =>
    if mode = .asNeeded ∧ Text.isPlainIdentifier only.toList then only.toList
    else Text.parenthesized [only.toList]
  | parameters => Text.parenthesized (parameters.map String.toList)

/-- Whether the expression is an arrow function, which is called only in parentheses. -/
def isArrow : Expr → Bool
  | .arrow _ _ => true
  | _ => false

mutual

/-- The characters of the written form. -/
def chars (mode : ArrowParens) : Expr → List Char
  | .identifier name => name.toList
  | .call callee arguments =>
    (if callee.isArrow then '(' :: (callee.chars mode ++ [')']) else callee.chars mode) ++
      Text.parenthesized (charsAll mode arguments)
  | .arrow parameters body => headChars mode parameters ++ [' ', '=', '>', ' '] ++ body.chars mode

/-- The characters of each of several expressions. -/
def charsAll (mode : ArrowParens) : List Expr → List (List Char)
  | [] => []
  | e :: es => e.chars mode :: charsAll mode es

end

/-- The written form. -/
def render (mode : ArrowParens) (e : Expr) : String := String.ofList (e.chars mode)

/-- The closure with the given parameters that calls `target` with just these. -/
def forward (target : String) (names : List String) : Expr :=
  .arrow names (.call (.identifier target) (names.map .identifier))

end Expr

end ClosureWrap
