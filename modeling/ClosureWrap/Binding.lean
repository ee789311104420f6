import ClosureWrap.Tree.Identifier

/-!
# Binding of names

Names are looked up lexically, within one file. A scope is a source file, a block or a function;
going outwards from a reference, the innermost scope that declares the name provides all its
declarations, which are several when a function is overloaded or a name is declared again.

A function scope declares its parameters. A source file or block declares the functions, variables
and type aliases that stand in it directly or inside nodes that are not told apart, such as the
wrapper of an exported declaration. Values and types are separate name spaces.

## Main definitions

* `Namespace`, `Tree.namespaceOf` — values and types, and which of them a reference means
* `Tree.declaredName?`, `Tree.referencedName` — the name that a declaration introduces, and the name
  that a reference uses
* `Tree.ownDeclarations` — what a single scope declares
* `Tree.resolve` — the declarations that a name means at a node
* `Tree.declarationsOf` — the declarations that an identifier or a type reference stands for
-/

namespace ClosureWrap

/-- Values and types are named separately. -/
inductive Namespace where
  | value
  | type
  deriving DecidableEq, Repr

namespace Tree

/-- The space in which the name at node `n` is looked up. -/
def namespaceOf (t : Tree) (n : Nat) : Namespace :=
  if t.kind n = .typeReference ∨ t.parentKind? n = some .typeReference then .type else .value

/-- The name that declaration `n` introduces, if it is a plain identifier. -/
def declaredName? (t : Tree) (n : Nat) : Option String :=
  ((t.childWith? n .name).filter fun c => t.kind c == .identifier).map t.textOf

/-- The name that reference `n` uses. A type reference with arguments has the name as a child. -/
def referencedName (t : Tree) (n : Nat) : String :=
  match t.kind n, t.childWith? n .name with
  | .typeReference, some c => t.textOf c
  | _, _ => t.textOf n

/-- Node `n` declares `name`. -/
def declares (t : Tree) (name : String) (n : Nat) : Bool := t.declaredName? n == some name

/-- The variables of statement `n` with the given name. -/
def variablesNamed (t : Tree) (name : String) (n : Nat) : List Nat :=
  (t.children n).filter fun d => t.kind d == .variableDeclaration && t.declares name d

/-- The declarations of `name` that stand in node `n`, directly or inside nodes that are not told
apart. -/
def contained (t : Tree) (name : String) (space : Namespace) (n : Nat) : List Nat :=
  (t.children n).attach.flatMap fun ⟨c, _⟩ =>
    match t.kind c, space with
    | .functionDeclaration, .value => if t.declares name c then [c] else []
    | .typeAliasDeclaration, .type => if t.declares name c then [c] else []
    | .variableStatement, .value => t.variablesNamed name c
    | .unknown, _ => t.contained name space c
    | _, _ => []
termination_by t.size - n
decreasing_by
  have := lt_of_mem_children (by assumption)
  omega

/-- The parameters of function `n` with the given name. -/
def parametersNamed (t : Tree) (name : String) (n : Nat) : List Nat :=
  (t.childrenWith n .parameter).filter (t.declares name)

/-- The declarations of `name` that scope `n` itself provides. -/
def ownDeclarations (t : Tree) (name : String) (space : Namespace) (n : Nat) : List Nat :=
  if (t.kind n).isFunctionLike then
    match space with
    | .value => t.parametersNamed name n
    | .type => []
  else
    t.contained name space n

/-- The scopes around node `n`, innermost first. -/
def scopes (t : Tree) (n : Nat) : List Nat := (t.ancestors n).filter fun a => (t.kind a).isScope

/-- The declarations in the first of the given scopes that has any. -/
def firstDeclarations (t : Tree) (name : String) (space : Namespace) : List Nat → List Nat
  | [] => []
  | scope :: outer =>
    match t.ownDeclarations name space scope with
    | [] => t.firstDeclarations name space outer
    | found => found

/-- The declarations that `name` means at node `n`. -/
def resolve (t : Tree) (n : Nat) (name : String) (space : Namespace) : List Nat :=
  t.firstDeclarations name space (t.scopes n)

/-- The declarations that node `n` stands for. The name of a declaration stands for that
declaration, and the name of a property for none. -/
def declarationsOf (t : Tree) (n : Nat) : List Nat :=
  match t.kind n with
  | .identifier =>
    if t.isIntroducedName n then (t.parent n).toList
    else if t.role n = some .property then []
    else t.resolve n (t.referencedName n) (t.namespaceOf n)
  | .typeReference => t.resolve n (t.referencedName n) (t.namespaceOf n)
  | _ => []

end Tree

end ClosureWrap
