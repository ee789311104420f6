import ClosureWrap.Tree.Basic

/-!
# Call signatures

For the refactoring a type is no more than the ways in which it can be called. A signature names the
node that declares it and its parameters; a checker that has no declarations at hand leaves them
out.

Within one tree a node is its number. A checker knows all files of a program, and what it is asked
about in one of them may be declared in another, so its answers name a node together with its tree.
All types here are therefore given over the type of names of nodes.

## Main definitions

* `NodeRef`, `Tree.ref` — a node together with its tree
* `ParameterSymbol`, `Signature`, `CallType` — a parameter, a way of calling, a type
* `Checker` — what is asked of a type checker
-/

namespace ClosureWrap

/-- A node together with the tree that it belongs to. -/
structure NodeRef where
  /-- The tree. -/
  tree : Tree
  /-- Number of the node in its tree. -/
  number : Nat

/-- Node `n` of this tree. -/
def Tree.ref (t : Tree) (n : Nat) : NodeRef := ⟨t, n⟩

/-- What the node is, in its own tree. -/
def NodeRef.kind (r : NodeRef) : Kind := r.tree.kind r.number

/-- A parameter as a type checker sees it. -/
structure ParameterSymbol (ν : Type) where
  /-- Name of the parameter. -/
  name : String
  /-- The node that declares it. -/
  declaration : Option ν
  deriving DecidableEq, Repr

/-- One way of calling something. -/
structure Signature (ν : Type) where
  /-- The node that declares it. -/
  declaration : Option ν
  /-- The parameters in order. -/
  parameters : List (ParameterSymbol ν)
  deriving DecidableEq, Repr

/-- A type, reduced to the ways in which it can be called. -/
structure CallType (ν : Type) where
  /-- The ways of calling, several for an overloaded function. -/
  signatures : List (Signature ν)
  deriving DecidableEq, Repr

variable {ν μ ξ : Type}

/-- The same parameter with its declaration named in another way. -/
def ParameterSymbol.map (f : ν → μ) (p : ParameterSymbol ν) : ParameterSymbol μ :=
  ⟨p.name, p.declaration.map f⟩

/-- The same way of calling with the declarations named in another way. -/
def Signature.map (f : ν → μ) (s : Signature ν) : Signature μ :=
  ⟨s.declaration.map f, s.parameters.map (·.map f)⟩

theorem ParameterSymbol.map_map (f : ν → μ) (g : μ → ξ) (p : ParameterSymbol ν) :
    (p.map f).map g = p.map (g ∘ f) := by
  simp only [map, Option.map_map]

theorem Signature.map_map (f : ν → μ) (g : μ → ξ) (s : Signature ν) :
    (s.map f).map g = s.map (g ∘ f) := by
  simp only [map, Option.map_map, List.map_map, Function.comp_def, ParameterSymbol.map_map]

namespace CallType

/-- A type of which nothing is known. -/
def unknown : CallType ν := ⟨[]⟩

/-- A type that can be called in one way. -/
def single (s : Signature ν) : CallType ν := ⟨[s]⟩

/-- The same type with the declarations named in another way. -/
def map (f : ν → μ) (c : CallType ν) : CallType μ := ⟨c.signatures.map (·.map f)⟩

/-- There is a way of calling it. -/
def isCallable (c : CallType ν) : Bool := !c.signatures.isEmpty

theorem map_map (f : ν → μ) (g : μ → ξ) (c : CallType ν) : (c.map f).map g = c.map (g ∘ f) := by
  simp only [map, List.map_map, Function.comp_def, Signature.map_map]

theorem isCallable_iff {c : CallType ν} : c.isCallable = true ↔ c.signatures ≠ [] := by
  simp [isCallable]

end CallType

/-- What is asked of a type checker about the nodes of a tree. The declarations in its answers may
be nodes of any tree. -/
structure Checker where
  /-- The type of an expression. -/
  typeOf : Tree → Nat → CallType NodeRef
  /-- The way of calling that a call settles on. -/
  resolvedSignature : Tree → Nat → Option (Signature NodeRef)

end ClosureWrap
