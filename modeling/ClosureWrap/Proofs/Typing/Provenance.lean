import ClosureWrap.Proofs.Tree.Links
import ClosureWrap.Typing.Structural

/-!
# Where signatures come from

The structural checker follows names, annotations, initializers, aliases and the results of calls.
It makes up nothing on the way: a way of calling that it finds in the end is always one that a
function of the file declares, with the parameters as they stand there. How far the budget goes
decides whether anything is found, not what can be found.

Inside, this is said by the function that reads a signature off a node (`Written`). For those who
only see a signature it is said again by the parts of the signature and the children of the node
that it names (`Signature.DeclaredBy`).

## Main definitions

* `Tree.Written` — a signature that a function of the tree declares
* `Tree.AllWritten` — a type all of whose signatures are of this sort
* `ParameterSymbol.DeclaredBy`, `Signature.DeclaredBy` — what is declared by a node, part by part

## Main results

* `Tree.allWritten_types` — the types that the structural checker finds
* `Tree.written_of_callSignature?` — the signatures that calls settle on
* `Tree.Written.role_of_mem` — the nodes that declare their parameters
* `Checker.signatures_declared` — every signature that the structural checker reports is declared by
  a function of the tree
-/

namespace ClosureWrap

/-- The parameter is declared by node `c`, and has the text of the first name child there as its
name. -/
structure ParameterSymbol.DeclaredBy (p : ParameterSymbol NodeRef) (t : Tree) (c : Nat) :
    Prop where
  declaration_eq : p.declaration = some (t.ref c)
  name_eq : ∀ x, t.childWith? c .name = some x → p.name = t.textOf x
  name_eq_empty : t.childWith? c .name = none → p.name = ""

/-- The signature is declared by node `d`, a function of the tree, and its parameters by the
parameters there, one by one and in order. -/
structure Signature.DeclaredBy (s : Signature NodeRef) (t : Tree) (d : Nat) : Prop where
  declaration_eq : s.declaration = some (t.ref d)
  lt_size : d < t.size
  kind_mem : t.kind d ∈
    [Kind.functionDeclaration, .arrowFunction, .functionExpression, .functionType]
  length_eq : s.parameters.length = (t.childrenWith d .parameter).length
  parameter : ∀ (i : Nat) (p : ParameterSymbol NodeRef) (c : Nat), s.parameters[i]? = some p →
    (t.childrenWith d .parameter)[i]? = some c → p.DeclaredBy t c

namespace Tree

/-- The signature is declared by a function of the tree. -/
def Written (t : Tree) (s : Signature Nat) : Prop :=
  ∃ f, (t.kind f).isFunctionLike = true ∧ s = t.signatureOf f

/-- Every way of calling is declared by a function of the tree. -/
def AllWritten (t : Tree) (c : CallType Nat) : Prop := ∀ s ∈ c.signatures, t.Written s

variable {t : Tree}

theorem allWritten_unknown : t.AllWritten .unknown := fun _ hs => (by cases hs)

theorem allWritten_single {f : Nat} {kind : Kind} (hkind : t.kind f = kind)
    (hfunction : kind.isFunctionLike = true) : t.AllWritten (.single (t.signatureOf f)) := by
  intro s hs
  rw [List.mem_singleton.1 hs]
  exact ⟨f, hkind ▸ hfunction, rfl⟩

theorem kind_of_mem_visibleFunctions {declarations : List Nat} {f : Nat}
    (h : f ∈ t.visibleFunctions declarations) : t.kind f = .functionDeclaration := by
  have hfunction : f ∈ declarations.filter fun d => t.kind d == .functionDeclaration := by
    unfold visibleFunctions at h
    simp only at h
    split at h
    · exact (List.mem_filter.1 h).1
    · exact h
  simpa using (List.mem_filter.1 hfunction).2

/-- The overload that a call settles on is one of those to choose from. -/
theorem mem_of_overload? {signatures : List (Signature Nat)} {arguments : Nat} {s : Signature Nat}
    (h : overload? signatures arguments = some s) : s ∈ signatures := by
  simp only [overload?, Option.orElse_eq_orElse, Option.orElse_eq_or, Option.or_eq_some_iff] at h
  rcases h with hfits | ⟨-, hfirst⟩
  · exact List.mem_of_find?_eq_some hfits
  · exact List.mem_of_mem_head? hfirst

/-! ### One step

Each kind of type within a budget, from the types within the next smaller one. -/

section Step

variable {budget : Nat}

theorem allWritten_expressionType_succ
    (hdeclared : ∀ declarations, t.AllWritten (t.declaredType budget declarations))
    (hexpression : ∀ n, t.AllWritten (t.expressionType budget n))
    (hwritten : ∀ n, t.AllWritten (t.writtenType budget n)) (n : Nat) :
    t.AllWritten (t.expressionType (budget + 1) n) := by
  rw [expressionType]
  split
  · exact hdeclared _
  · rename_i hkind
    exact allWritten_single hkind rfl
  · rename_i hkind
    exact allWritten_single hkind rfl
  · split
    · exact allWritten_unknown
    · exact hexpression _
  · split
    · exact allWritten_unknown
    · exact hwritten _
  · exact allWritten_unknown

theorem allWritten_writtenType_succ (hwritten : ∀ n, t.AllWritten (t.writtenType budget n))
    (n : Nat) : t.AllWritten (t.writtenType (budget + 1) n) := by
  rw [writtenType]
  split
  · rename_i hkind
    exact allWritten_single hkind rfl
  · split
    · exact allWritten_unknown
    · exact hwritten _
  · split
    · exact allWritten_unknown
    · simp only
      split
      · exact hwritten _
      · exact allWritten_unknown
  · intro s hs
    obtain ⟨member, -, hs⟩ := List.mem_flatMap.1 hs
    exact hwritten member s hs
  · split
    · exact allWritten_unknown
    · exact hwritten _
  · exact allWritten_unknown

/-- The functions among some declarations count whatever the budget is. -/
theorem allWritten_of_visibleFunctions {declarations fs : List Nat} {f : Nat}
    (h : t.visibleFunctions declarations = f :: fs) :
    t.AllWritten ⟨(f :: fs).map t.signatureOf⟩ := by
  intro s hs
  obtain ⟨g, hg, rfl⟩ := List.mem_map.1 hs
  rw [← h] at hg
  exact ⟨g, by rw [kind_of_mem_visibleFunctions hg]; rfl, rfl⟩

theorem allWritten_declaredType_zero (declarations : List Nat) :
    t.AllWritten (t.declaredType 0 declarations) := by
  rw [declaredType]
  split
  · rename_i hvisible
    exact allWritten_of_visibleFunctions hvisible
  · exact allWritten_unknown

theorem allWritten_declaredType_succ
    (hexpression : ∀ n, t.AllWritten (t.expressionType budget n))
    (hwritten : ∀ n, t.AllWritten (t.writtenType budget n)) (declarations : List Nat) :
    t.AllWritten (t.declaredType (budget + 1) declarations) := by
  unfold declaredType
  split
  · rename_i hvisible
    exact allWritten_of_visibleFunctions hvisible
  · cases declarations with
    | nil => exact allWritten_unknown
    | cons d _ =>
      simp only
      split
      · split
        · exact hwritten _
        · exact hexpression _
        · exact allWritten_unknown
      · split
        · exact hwritten _
        · exact allWritten_unknown
      · exact allWritten_unknown

end Step

/-! ### All steps -/

/-- **Every way of calling that the structural checker finds is written in the file.** The three
kinds of types refer to each other with a smaller budget, so one induction on the budget serves them
all. -/
theorem allWritten_types (t : Tree) (budget : Nat) :
    (∀ n, t.AllWritten (t.expressionType budget n)) ∧
      (∀ declarations, t.AllWritten (t.declaredType budget declarations)) ∧
      ∀ n, t.AllWritten (t.writtenType budget n) := by
  induction budget with
  | zero =>
    refine ⟨fun n => ?_, allWritten_declaredType_zero, fun n => ?_⟩
    · rw [expressionType]
      exact allWritten_unknown
    · rw [writtenType]
      exact allWritten_unknown
  | succ budget ih =>
    obtain ⟨hexpression, hdeclared, hwritten⟩ := ih
    exact ⟨allWritten_expressionType_succ hdeclared hexpression hwritten,
      allWritten_declaredType_succ hexpression hwritten, allWritten_writtenType_succ hwritten⟩

/-- The signature that a call settles on is written in the file. -/
theorem written_of_callSignature? {budget call : Nat} {s : Signature Nat}
    (h : t.callSignature? budget call = some s) : t.Written s := by
  obtain ⟨callee, -, hs⟩ := Option.bind_eq_some_iff.1 h
  exact (allWritten_types t budget).1 callee s (mem_of_overload? hs)

/-- A parameter of a written signature is declared by a node in the role of a parameter. -/
theorem Written.role_of_mem {s : Signature Nat} {p : ParameterSymbol Nat} (h : t.Written s)
    (hp : p ∈ s.parameters) : ∃ d, p.declaration = some d ∧ t.role d = some .parameter := by
  obtain ⟨f, -, rfl⟩ := h
  obtain ⟨d, hd, rfl⟩ := List.mem_map.1 hp
  exact ⟨d, rfl, by simpa using (List.mem_filter.1 hd).2⟩

/-! ### What a signature says -/

theorem declaredBy_parameter (t : Tree) (c : Nat) :
    ParameterSymbol.DeclaredBy ⟨t.parameterName c, some (t.ref c)⟩ t c := by
  refine ⟨rfl, fun x hx => ?_, fun hnone => ?_⟩
  · rw [parameterName, hx, Option.map_some, Option.getD_some]
  · rw [parameterName, hnone, Option.map_none, Option.getD_none]

theorem mem_functionKinds {kind : Kind} (h : kind.isFunctionLike = true) :
    kind ∈ [Kind.functionDeclaration, .arrowFunction, .functionExpression, .functionType] := by
  revert h
  cases kind <;> decide

/-- The signature that is read off a function is declared by it. -/
theorem declaredBy_signatureOf {d : Nat} (h : (t.kind d).isFunctionLike = true) :
    ((t.signatureOf d).map t.ref).DeclaredBy t d := by
  have hsize : d < t.size := lt_size_of_kind fun hunknown => by
    rw [hunknown] at h
    cases h
  have hparameters : ((t.signatureOf d).map t.ref).parameters =
      (t.childrenWith d .parameter).map fun c => ⟨t.parameterName c, some (t.ref c)⟩ := by
    simp only [signatureOf, Signature.map, List.map_map]
    rfl
  refine ⟨rfl, hsize, mem_functionKinds h, by rw [hparameters, List.length_map],
    fun i p c hp hc => ?_⟩
  have hsame : p = ⟨t.parameterName c, some (t.ref c)⟩ := by
    rw [hparameters, List.getElem?_map, hc, Option.map_some] at hp
    exact (Option.some.inj hp).symm
  rw [hsame]
  exact t.declaredBy_parameter c

theorem Written.exists_declaredBy {s : Signature Nat} (h : t.Written s) :
    ∃ d, (s.map t.ref).DeclaredBy t d := by
  obtain ⟨d, hfunction, rfl⟩ := h
  exact ⟨d, declaredBy_signatureOf hfunction⟩

end Tree

namespace Checker

theorem written_of_resolvedSignature {t : Tree} {call : Nat} {s : Signature NodeRef}
    (h : Checker.structural.resolvedSignature t call = some s) :
    ∃ w, t.Written w ∧ w.map t.ref = s := by
  obtain ⟨w, hsettled, hw⟩ := exists_of_resolvedSignature h
  exact ⟨w, Tree.written_of_callSignature? hsettled, hw⟩

/-- **Every signature that the structural checker reports is declared by a function of the tree**,
be it a way of calling an expression or the one that a call settles on. -/
theorem signatures_declared (t : Tree) (n : Nat) :
    (∀ s ∈ (Checker.structural.typeOf t n).signatures, ∃ d, s.DeclaredBy t d) ∧
      ∀ s, Checker.structural.resolvedSignature t n = some s → ∃ d, s.DeclaredBy t d := by
  constructor
  · intro s hs
    obtain ⟨w, hw, rfl⟩ := List.mem_map.1 hs
    exact ((Tree.allWritten_types t Tree.typingBudget).1 n w hw).exists_declaredBy
  · intro s hs
    obtain ⟨w, hwritten, rfl⟩ := written_of_resolvedSignature hs
    exact hwritten.exists_declaredBy

/-- A function that returns an intersection of two aliases, the second for a union, and a call of
what it returns. Of the three parameters of the first function type one is a pattern and one has no
name. -/
def callOfIntersection : Tree :=
  .ofRows "main.ts"
    "function f(): A & B {} type A = (x, [y], ) => 0; type B = (() => 0) | A; f()(1, 2);"
    .sourceFile [
      ⟨0, .functionDeclaration, none, 0, 22⟩,
      ⟨1, .identifier, some .name, 9, 10⟩,
      ⟨1, .intersectionType, some .returnType, 14, 19⟩,
      ⟨3, .typeReference, none, 14, 15⟩,
      ⟨3, .typeReference, none, 18, 19⟩,
      ⟨0, .typeAliasDeclaration, none, 23, 48⟩,
      ⟨6, .identifier, some .name, 28, 29⟩,
      ⟨6, .functionType, some .type, 32, 47⟩,
      ⟨8, .parameter, some .parameter, 33, 34⟩,
      ⟨9, .identifier, some .name, 33, 34⟩,
      ⟨8, .parameter, some .parameter, 36, 39⟩,
      ⟨11, .unknown, some .name, 36, 39⟩,
      ⟨8, .parameter, some .parameter, 41, 41⟩,
      ⟨0, .typeAliasDeclaration, none, 49, 72⟩,
      ⟨14, .identifier, some .name, 54, 55⟩,
      ⟨14, .unionType, some .type, 58, 71⟩,
      ⟨16, .parenthesizedType, none, 58, 67⟩,
      ⟨17, .functionType, none, 59, 66⟩,
      ⟨16, .typeReference, none, 70, 71⟩,
      ⟨0, .expressionStatement, none, 73, 83⟩,
      ⟨20, .callExpression, none, 73, 82⟩,
      ⟨21, .callExpression, some .callee, 73, 76⟩,
      ⟨22, .identifier, some .callee, 73, 74⟩,
      ⟨21, .numericLiteral, some .argument, 77, 78⟩,
      ⟨21, .numericLiteral, some .argument, 80, 81⟩]

/-- What the inner call, node 22, returns can be called in two ways, and the outer call, node 21,
settles on the first of them. Both are declared by function types of the file. -/
theorem signatures_declared_callOfIntersection :
    Checker.structural.typeOf callOfIntersection 22 =
        .map callOfIntersection.ref
          ⟨[⟨some 8, [⟨"x", some 9⟩, ⟨"[y]", some 11⟩, ⟨"", some 13⟩]⟩, ⟨some 18, []⟩]⟩ ∧
      (∀ s ∈ (Checker.structural.typeOf callOfIntersection 22).signatures,
        ∃ d, s.DeclaredBy callOfIntersection d) ∧
      Checker.structural.resolvedSignature callOfIntersection 21 =
        some (.map callOfIntersection.ref
          ⟨some 8, [⟨"x", some 9⟩, ⟨"[y]", some 11⟩, ⟨"", some 13⟩]⟩) ∧
      ∃ d, Signature.DeclaredBy (.map callOfIntersection.ref
        ⟨some 8, [⟨"x", some 9⟩, ⟨"[y]", some 11⟩, ⟨"", some 13⟩]⟩) callOfIntersection d := by
  obtain ⟨hresult, hcall, hsettled⟩ :
      callOfIntersection.expressionType Tree.typingBudget 22 =
          ⟨[⟨some 8, [⟨"x", some 9⟩, ⟨"[y]", some 11⟩, ⟨"", some 13⟩]⟩, ⟨some 18, []⟩]⟩ ∧
        callOfIntersection.kind 21 = .callExpression ∧
        callOfIntersection.callSignature? Tree.typingBudget 21 =
          some ⟨some 8, [⟨"x", some 9⟩, ⟨"[y]", some 11⟩, ⟨"", some 13⟩]⟩ := by
    decide +kernel
  have hresolved : Checker.structural.resolvedSignature callOfIntersection 21 =
      some (.map callOfIntersection.ref
        ⟨some 8, [⟨"x", some 9⟩, ⟨"[y]", some 11⟩, ⟨"", some 13⟩]⟩) := by
    rw [resolvedSignature_structural hcall, hsettled, Option.map_some]
  exact ⟨by rw [typeOf_structural, hresult], (signatures_declared callOfIntersection 22).1,
    hresolved, (signatures_declared callOfIntersection 21).2 _ hresolved⟩

end Checker

end ClosureWrap
