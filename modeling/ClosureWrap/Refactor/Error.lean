import ClosureWrap.Text.Numeral
import ClosureWrap.Tree.Kind

/-!
# Why a reference cannot be wrapped

## Main definitions

* `Obstacle`, `Obstacle.message` — why there is nothing to wrap at an offset
* `RefactorError`, `RefactorError.message` — why no edit can be made
-/

namespace ClosureWrap

/-- Why there is nothing to wrap at an offset, in the order in which it is noticed. -/
inductive Obstacle where
  /-- No node of the file holds the offset. -/
  | outsideSource
  /-- The innermost node there is not an identifier that refers to a name. -/
  | notAReference
  /-- The identifier is not a part of a call. -/
  | notInCall
  /-- The identifier is not one of the arguments, and only these are wrapped. -/
  | notAnArgument
  deriving DecidableEq, Repr

/-- The wording of an obstacle. -/
def Obstacle.message : Obstacle → String
  | .outsideSource => "offset outside source"
  | .notAReference => "not an identifier reference"
  | .notInCall => "parent is not a call expression"
  | .notAnArgument => "identifier is the callee, not an argument"

/-- Why no edit can be made. -/
inductive RefactorError where
  /-- There is nothing to wrap at the offset. -/
  | precondition (offset : Nat) (reason : String)
  /-- What is called takes no parameter. -/
  | noParameter (callee : String)
  /-- The first parameter is declared by something else than a parameter. -/
  | notAParameter (found : Option Kind)
  /-- The first parameter is not annotated with a function type. -/
  | unsupportedParameterType (found : Option Kind)
  deriving DecidableEq, Repr

/-- The name of the kind that was found, if anything was found. -/
def RefactorError.foundName (found : Option Kind) : String := (found.map Kind.name).getD "missing"

/-- The wording of an error. -/
def RefactorError.message : RefactorError → String
  | .precondition offset reason =>
    "Refactor precondition failed at offset " ++ Text.decimal offset ++ ": " ++ reason
  | .noParameter callee => "Expected parameter but got none for call to `" ++ callee ++ "`"
  | .notAParameter found => "Expected type to be parameter, found " ++ foundName found
  | .unsupportedParameterType found => "Parameter type is not a function: " ++ foundName found

end ClosureWrap
