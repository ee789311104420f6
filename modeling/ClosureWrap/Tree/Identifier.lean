import ClosureWrap.Tree.Walk

/-!
# Identifiers and where they stand

An identifier either introduces a name or refers to one. It introduces the name when it is the name
child of a declaration or of a parameter.

## Main definitions

* `Tree.isReference` — an identifier that refers to a name
* `Tree.isCallArgument`, `Tree.argumentIndex?` — standing in an argument slot of a call
-/

namespace ClosureWrap

namespace Tree

/-- The kind of the node above `n`. -/
def parentKind? (t : Tree) (n : Nat) : Option Kind := (t.parent n).map t.kind

/-- Node `n` is the name child of a declaration or of a parameter. -/
def isIntroducedName (t : Tree) (n : Nat) : Bool :=
  (t.parentKind? n).any Kind.introducesName && t.role n == some .name

/-- Node `n` is an identifier that refers to a name. -/
def isReference (t : Tree) (n : Nat) : Bool :=
  t.kind n == .identifier && !t.isIntroducedName n

/-- The call of which node `n` is a child. -/
def enclosingCall? (t : Tree) (n : Nat) : Option Nat :=
  (t.parent n).filter fun p => t.kind p == .callExpression

/-- Node `n` stands in an argument slot of the call above it. -/
def isCallArgument (t : Tree) (n : Nat) : Bool :=
  t.role n == some .argument && t.parentKind? n == some .callExpression

/-- The position of node `n` among the arguments of the call above it. -/
def argumentIndex? (t : Tree) (n : Nat) : Option Nat :=
  (t.enclosingCall? n).bind fun call => (t.childrenWith call .argument).findIdx? (· == n)

end Tree

end ClosureWrap
