import ClosureWrap.Binding
import ClosureWrap.Typing.Signature

/-!
# Structural types

Types are read off annotations, initializers and type aliases; nothing is inferred beyond that. An
expression or a type that refers to another one is followed, and each step uses up a budget. When
the budget is spent the type is unknown, which also settles circular definitions.

Following a variable or a parameter costs two: one step to its declaration and one to the annotation
or initializer. Every other step costs one.

## Main definitions

* `Tree.signatureOf` — the signature that a function declares
* `Tree.visibleFunctions` — the overloads that count
* `Tree.expressionType`, `Tree.declaredType`, `Tree.writtenType` — the type of an expression, of a
  list of declarations, and of a written type, within a budget
* `Tree.overload?`, `Tree.callSignature?` — the way of calling that a call settles on
* `Checker.structural` — the checker
-/

namespace ClosureWrap

namespace Tree

/-- The name of parameter `n`, empty if it has none. -/
def parameterName (t : Tree) (n : Nat) : String :=
  ((t.childWith? n .name).map t.textOf).getD ""

/-- The signature that function `n` declares. -/
def signatureOf (t : Tree) (n : Nat) : Signature Nat :=
  ⟨some n, (t.childrenWith n .parameter).map fun p => ⟨t.parameterName p, some p⟩⟩

/-- The functions among some declarations that can be called. Functions without a body are overload
signatures; where there are any beside other functions, the implementation is hidden. -/
def visibleFunctions (t : Tree) (declarations : List Nat) : List Nat :=
  let functions := declarations.filter fun d => t.kind d == .functionDeclaration
  let bodiless := functions.filter fun f => (t.childWith? f .body).isNone
  if functions.length > 1 ∧ bodiless ≠ [] then bodiless else functions

/-- The first signature that takes at least as many parameters as there are arguments, or else the
first one. -/
def overload? (signatures : List (Signature Nat)) (arguments : Nat) : Option (Signature Nat) :=
  (signatures.find? fun s => arguments ≤ s.parameters.length) <|> signatures.head?

/-- The signature that a call settles on, given the type of what it calls. -/
def settle? (t : Tree) (call : Nat) (calleeType : Nat → CallType Nat) : Option (Signature Nat) :=
  (t.childWith? call .callee).bind fun callee =>
    overload? (calleeType callee).signatures (t.childrenWith call .argument).length

mutual

/-- The type of expression `n`. -/
def expressionType (t : Tree) : Nat → Nat → CallType Nat
  | 0, _ => .unknown
  | budget + 1, n =>
    match t.kind n with
    | .identifier => t.declaredType budget (t.declarationsOf n)
    | .arrowFunction => .single (t.signatureOf n)
    | .functionExpression => .single (t.signatureOf n)
    | .parenthesizedExpression =>
      match t.children n with
      | [] => .unknown
      | inner :: _ => t.expressionType budget inner
    | .callExpression =>
      match (t.settle? n fun callee => t.expressionType budget callee).bind fun s =>
          s.declaration.bind fun d => t.childWith? d .returnType with
      | none => .unknown
      | some result => t.writtenType budget result
    | _ => .unknown

/-- The type of something with the given declarations: the visible functions if there are any, else
the annotation or initializer of the first declaration. -/
def declaredType (t : Tree) : Nat → List Nat → CallType Nat
  | budget, declarations =>
    match t.visibleFunctions declarations with
    | f :: fs => ⟨(f :: fs).map t.signatureOf⟩
    | [] =>
      match budget, declarations with
      | 0, _ => .unknown
      | _ + 1, [] => .unknown
      | budget + 1, d :: _ =>
        match t.kind d with
        | .variableDeclaration =>
          match t.childWith? d .type, t.childWith? d .initializer with
          | some written, _ => t.writtenType budget written
          | none, some value => t.expressionType budget value
          | none, none => .unknown
        | .parameter =>
          match t.childWith? d .type with
          | some written => t.writtenType budget written
          | none => .unknown
        | _ => .unknown

/-- The type that node `n` writes. A union can be called only if all its members can, and then like
the first of them; an intersection can be called in every way that a member can. -/
def writtenType (t : Tree) : Nat → Nat → CallType Nat
  | 0, _ => .unknown
  | budget + 1, n =>
    match t.kind n with
    | .functionType => .single (t.signatureOf n)
    | .parenthesizedType =>
      match t.children n with
      | [] => .unknown
      | inner :: _ => t.writtenType budget inner
    | .unionType =>
      match t.children n with
      | [] => .unknown
      | first :: others =>
        let type := t.writtenType budget first
        if type.isCallable && others.all fun m => (t.writtenType budget m).isCallable then type
        else .unknown
    | .intersectionType =>
      ⟨(t.children n).flatMap fun m => (t.writtenType budget m).signatures⟩
    | .typeReference =>
      match (t.resolve n (t.referencedName n) .type).head?.bind fun a => t.childWith? a .type with
      | none => .unknown
      | some target => t.writtenType budget target
    | _ => .unknown

end

/-- The signature that call `n` settles on, within a budget. -/
def callSignature? (t : Tree) (budget n : Nat) : Option (Signature Nat) :=
  t.settle? n (t.expressionType budget)

/-- The budget of a question about a type. -/
def typingBudget : Nat := 17

end Tree

/-- The checker that reads types off annotations, initializers and aliases. What it finds is
declared in the tree that it is asked about. -/
def Checker.structural : Checker where
  typeOf t n := (t.expressionType Tree.typingBudget n).map t.ref
  resolvedSignature t n :=
    if t.kind n = .callExpression then
      (t.callSignature? Tree.typingBudget n).map (·.map t.ref)
    else
      none

namespace Checker

theorem typeOf_structural (t : Tree) (n : Nat) :
    structural.typeOf t n = (t.expressionType Tree.typingBudget n).map t.ref := rfl

theorem resolvedSignature_structural {t : Tree} {n : Nat} (h : t.kind n = .callExpression) :
    structural.resolvedSignature t n =
      (t.callSignature? Tree.typingBudget n).map (·.map t.ref) :=
  if_pos h

/-- A signature that the checker reports is one of the tree. -/
theorem exists_of_resolvedSignature {t : Tree} {n : Nat} {s : Signature NodeRef}
    (h : structural.resolvedSignature t n = some s) :
    ∃ w, t.callSignature? Tree.typingBudget n = some w ∧ w.map t.ref = s := by
  simp only [structural] at h
  split at h
  · exact Option.map_eq_some_iff.1 h
  · cases h

end Checker

end ClosureWrap
