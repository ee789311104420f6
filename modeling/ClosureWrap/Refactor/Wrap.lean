import ClosureWrap.Refactor.Edit
import ClosureWrap.Refactor.Error
import ClosureWrap.Settings.Basic
import ClosureWrap.Tree.Identifier
import ClosureWrap.Typing.Signature

/-!
# Wrapping a function reference

The refactoring replaces an identifier that is passed to a call by a closure that forwards to it.
The parameters of the closure are those that the callee expects of its callback: they are read off
the function type with which the first parameter of the callee is annotated.

It is offered where the identifier can be called at all. Whether an edit can then be made is decided
only when it is asked for.

## Main definitions

* `Wrap.descriptor` — the refactoring as it is listed
* `Wrap.Target`, `Wrap.findTarget` — the identifier at an offset, and its call
* `Wrap.callbackParameters` — the parameters that a call expects of its callback
* `Wrap.isApplicable`, `Wrap.buildEdit` — whether it is offered, and the edit
-/

namespace ClosureWrap

namespace Wrap

/-- Name of the refactoring. -/
def refactorName : String := "wrap-function-reference-info"

/-- Name of its only action. -/
def actionName : String := "wrap-function-reference"

/-- The refactoring as it is listed. -/
def descriptor : Descriptor where
  name := refactorName
  description := "wrap function reference desc"
  actions := [⟨actionName, "Wrap function reference"⟩]

/-- An identifier that can be wrapped, and the call of which it is a part. -/
structure Target where
  /-- The identifier. -/
  identifier : Nat
  /-- The call right above it. -/
  call : Nat
  deriving DecidableEq, Repr

/-- The identifier to wrap at an offset. If `strict` is set it has to be an argument of the call. -/
def findTarget (t : Tree) (offset : Nat) (strict : Bool) : Except Obstacle Target :=
  match t.locate? Tree.root offset with
  | none => .error .outsideSource
  | some n =>
    if !t.isReference n then .error .notAReference
    else
      match t.enclosingCall? n with
      | none => .error .notInCall
      | some call =>
        if strict && !t.isCallArgument n then .error .notAnArgument else .ok ⟨n, call⟩

/-- The text of what a call calls, or of the whole call if that is missing. -/
def calleeText (t : Tree) (call : Nat) : String :=
  t.textOf ((t.childWith? call .callee).getD call)

/-- The names of the parameters that a call expects of its callback, in order. Names are taken as
they are written; a parameter without a name has the empty one. All of it is read in the tree in
which the first parameter of the callee is declared. -/
def callbackParameters (checker : Checker) (t : Tree) (call : Nat) :
    Except RefactorError (List String) :=
  match (checker.resolvedSignature t call).bind fun s => s.parameters.head? with
  | none => .error (.noParameter (calleeText t call))
  | some first =>
    match first.declaration.filter fun d => d.kind == .parameter with
    | none => .error (.notAParameter (first.declaration.map NodeRef.kind))
    | some ⟨home, declaration⟩ =>
      let written := home.childWith? declaration .type
      match written.filter fun w => home.kind w == .functionType with
      | none => .error (.unsupportedParameterType (written.map home.kind))
      | some functionType =>
        .ok ((home.childrenWith functionType .parameter).map fun p =>
          ((home.childWith? p .name).map home.textOf).getD "")

/-- The refactoring is offered where there is something to wrap that can be called. -/
def isApplicable (checker : Checker) (t : Tree) (strict : Bool) (offset : Nat) : Bool :=
  match findTarget t offset strict with
  | .error _ => false
  | .ok target => (checker.typeOf t target.identifier).isCallable

/-- The edit that wraps the identifier at an offset. -/
def buildEdit (checker : Checker) (t : Tree) (strict : Bool) (mode : ArrowParens) (offset : Nat) :
    Except RefactorError Edit :=
  match findTarget t offset strict with
  | .error obstacle => .error (.precondition offset obstacle.message)
  | .ok target =>
    (callbackParameters checker t target.call).map fun names =>
      ⟨t.fileName, t.span target.identifier,
        (Expr.forward (t.textOf target.identifier) names).render mode⟩

end Wrap

end ClosureWrap
