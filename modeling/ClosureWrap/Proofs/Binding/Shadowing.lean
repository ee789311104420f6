import ClosureWrap.Lowering
import ClosureWrap.Proofs.Binding

/-!
# What a parameter shadows

Inside a function, the name of a parameter means that parameter, or something nearer that is
declared under the same name. Whatever stands outside of the function under this name is out of
reach. That holds for the functions that are scopes: declared functions, arrow functions and
function expressions.

A function type has parameters too, but it is no scope, and nothing inside it is looked up among its
parameters. A name that is used there, as in the result type `f is P` of `(f: P) => f is P`, means
what it means around the function type.

## Main results

* `Tree.inside_of_parameter` — what a name means inside a function with such a parameter
* `Tree.parent_ne_functionType` — nothing is found among the parameters of a function type
* `Tree.parameter_shadows` — both, for an identifier that refers to a name
-/

namespace ClosureWrap

namespace Tree

/-- Inside a function with a parameter called `name`, something is found under this name, and it is
a parameter of the function or stands inside of it: a scope that is reached before the function lies
in it. -/
theorem inside_of_parameter {t : Tree} {r a p : Nat} {name : String} (ha : a ∈ t.scopes r)
    (hfunction : (t.kind a).isFunctionLike = true) (hp : p ∈ t.parametersNamed name a) :
    t.resolve r name .value ≠ [] ∧
      ∀ d ∈ t.resolve r name .value, d ∈ t.childrenWith a .parameter ∨ a ∈ t.ancestors d := by
  have hown : p ∈ t.ownDeclarations name .value a :=
    mem_ownDeclarations.2 (.inl ⟨hfunction, rfl, hp⟩)
  have hne : t.ownDeclarations name .value a ≠ [] := List.ne_nil_of_mem hown
  have hfound : t.resolve r name .value ≠ [] := fun h => hne (resolve_eq_nil_iff.1 h a ha)
  obtain ⟨s, -, heq, hinner⟩ := exists_scope_of_resolve hfound
  refine ⟨hfound, fun d hd => ?_⟩
  rw [heq] at hd
  rcases hinner a ha hne with rfl | habove
  · left
    rcases mem_ownDeclarations.1 hd with ⟨-, -, hparameter⟩ | ⟨hother, -⟩
    · exact (mem_parametersNamed.1 hparameter).1
    · rw [hfunction] at hother
      cases hother
  · right
    exact mem_ancestors_trans habove (mem_ancestors_of_mem_ownDeclarations hd)

/-- What a name is found to mean never stands right below a function type, which is neither a scope
nor one of the nodes inside which a scope looks for declarations. -/
theorem parent_ne_functionType {t : Tree} {n d f : Nat} {name : String} {space : Namespace}
    (h : d ∈ t.resolve n name space) (hf : t.kind f = .functionType) : t.parent d ≠ some f := by
  intro habove
  obtain ⟨s, hs, heq, -⟩ := exists_scope_of_resolve (List.ne_nil_of_mem h)
  rw [heq] at h
  have hsf : s ≠ f := by
    rintro rfl
    have hscope := (mem_scopes.1 hs).2
    rw [hf] at hscope
    cases hscope
  rcases mem_ownDeclarations.1 h with ⟨-, -, hparameter⟩ | ⟨-, hcontained⟩
  · obtain ⟨hchild, -⟩ := mem_childrenWith.1 (mem_parametersNamed.1 hparameter).1
    exact hsf (Option.some.inj ((mem_children.1 hchild).2.symm.trans habove))
  · obtain ⟨p, hp, hkind⟩ := hcontained.exists_parent
    obtain rfl : p = f := Option.some.inj (hp.symm.trans habove)
    rcases hkind with heq | hkind | hkind
    · exact hsf heq.symm
    · rw [hf] at hkind
      cases hkind
    · rw [hf] at hkind
      cases hkind

/-- **A parameter shadows what is declared outside of its function.** An identifier that refers to a
value, inside a declared function, an arrow function or a function expression with a parameter of
that name, stands for something, and all that it stands for is a parameter of the function or lies
inside of it. The parameters of a function type are never what an identifier stands for. -/
theorem parameter_shadows {t : Tree} {r : Nat} (href : t.isReference r = true)
    (hrole : t.role r ≠ some .property) (hspace : t.namespaceOf r = .value) :
    (∀ a ∈ t.ancestors r, t.kind a ∈ [.functionDeclaration, .arrowFunction, .functionExpression] →
      ∀ p ∈ t.childrenWith a .parameter, t.declaredName? p = some (t.textOf r) →
        t.declarationsOf r ≠ [] ∧
          ∀ d ∈ t.declarationsOf r, d ∈ t.childrenWith a .parameter ∨ a ∈ t.ancestors d) ∧
      ∀ f, t.kind f = .functionType →
        ∀ d ∈ t.declarationsOf r, d ∉ t.childrenWith f .parameter := by
  rw [declarationsOf_of_isReference href hrole, hspace]
  constructor
  · intro a ha hkind p hp hname
    have hclass : (t.kind a).isScope = true ∧ (t.kind a).isFunctionLike = true := by
      simp only [List.mem_cons, List.not_mem_nil, or_false] at hkind
      rcases hkind with hkind | hkind | hkind <;> rw [hkind] <;> exact ⟨rfl, rfl⟩
    exact inside_of_parameter (mem_scopes.2 ⟨ha, hclass.1⟩) hclass.2
      (mem_parametersNamed.2 ⟨hp, hname⟩)
  · intro f hf d hd hparameter
    obtain ⟨hchild, -⟩ := mem_childrenWith.1 hparameter
    exact parent_ne_functionType hd hf (mem_children.1 hchild).2

/-- A function `f`, and three constructs with a parameter of that name, in each of which the name is
used again: an arrow function, a function type and a method. -/
def sameNameInside : Concrete.Source :=
  .ofTable "main.ts"
    ("function f() {}\nrun(f => f);\ntype P = (f: P) => f is P;\n" ++
      "class K { m(f: P) { run(f); } }\n") [
    (0, ⟨"program", none, 0, 88, true, false⟩),
    (1, ⟨"function_declaration", none, 0, 15, true, false⟩),
    (2, ⟨"function", none, 0, 8, false, false⟩),
    (2, ⟨"identifier", some "name", 9, 10, true, false⟩),
    (2, ⟨"formal_parameters", some "parameters", 10, 12, true, false⟩),
    (3, ⟨"(", none, 10, 11, false, false⟩),
    (3, ⟨")", none, 11, 12, false, false⟩),
    (2, ⟨"statement_block", some "body", 13, 15, true, false⟩),
    (3, ⟨"\x7b", none, 13, 14, false, false⟩),
    (3, ⟨"\x7d", none, 14, 15, false, false⟩),
    (1, ⟨"expression_statement", none, 16, 28, true, false⟩),
    (2, ⟨"call_expression", none, 16, 27, true, false⟩),
    (3, ⟨"identifier", some "function", 16, 19, true, false⟩),
    (3, ⟨"arguments", some "arguments", 19, 27, true, false⟩),
    (4, ⟨"(", none, 19, 20, false, false⟩),
    (4, ⟨"arrow_function", none, 20, 26, true, false⟩),
    (5, ⟨"identifier", some "parameter", 20, 21, true, false⟩),
    (5, ⟨"=>", none, 22, 24, false, false⟩),
    (5, ⟨"identifier", some "body", 25, 26, true, false⟩),
    (4, ⟨")", none, 26, 27, false, false⟩),
    (2, ⟨";", none, 27, 28, false, false⟩),
    (1, ⟨"type_alias_declaration", none, 29, 55, true, false⟩),
    (2, ⟨"type", none, 29, 33, false, false⟩),
    (2, ⟨"type_identifier", some "name", 34, 35, true, false⟩),
    (2, ⟨"=", none, 36, 37, false, false⟩),
    (2, ⟨"function_type", some "value", 38, 54, true, false⟩),
    (3, ⟨"formal_parameters", some "parameters", 38, 44, true, false⟩),
    (4, ⟨"(", none, 38, 39, false, false⟩),
    (4, ⟨"required_parameter", none, 39, 43, true, false⟩),
    (5, ⟨"identifier", some "pattern", 39, 40, true, false⟩),
    (5, ⟨"type_annotation", some "type", 40, 43, true, false⟩),
    (6, ⟨":", none, 40, 41, false, false⟩),
    (6, ⟨"type_identifier", none, 42, 43, true, false⟩),
    (4, ⟨")", none, 43, 44, false, false⟩),
    (3, ⟨"=>", none, 45, 47, false, false⟩),
    (3, ⟨"type_predicate", some "return_type", 48, 54, true, false⟩),
    (4, ⟨"identifier", some "name", 48, 49, true, false⟩),
    (4, ⟨"is", none, 50, 52, false, false⟩),
    (4, ⟨"type_identifier", some "type", 53, 54, true, false⟩),
    (2, ⟨";", none, 54, 55, false, false⟩),
    (1, ⟨"class_declaration", none, 56, 87, true, false⟩),
    (2, ⟨"class", none, 56, 61, false, false⟩),
    (2, ⟨"type_identifier", some "name", 62, 63, true, false⟩),
    (2, ⟨"class_body", some "body", 64, 87, true, false⟩),
    (3, ⟨"\x7b", none, 64, 65, false, false⟩),
    (3, ⟨"method_definition", none, 66, 85, true, false⟩),
    (4, ⟨"property_identifier", some "name", 66, 67, true, false⟩),
    (4, ⟨"formal_parameters", some "parameters", 67, 73, true, false⟩),
    (5, ⟨"(", none, 67, 68, false, false⟩),
    (5, ⟨"required_parameter", none, 68, 72, true, false⟩),
    (6, ⟨"identifier", some "pattern", 68, 69, true, false⟩),
    (6, ⟨"type_annotation", some "type", 69, 72, true, false⟩),
    (7, ⟨":", none, 69, 70, false, false⟩),
    (7, ⟨"type_identifier", none, 71, 72, true, false⟩),
    (5, ⟨")", none, 72, 73, false, false⟩),
    (4, ⟨"statement_block", some "body", 74, 85, true, false⟩),
    (5, ⟨"\x7b", none, 74, 75, false, false⟩),
    (5, ⟨"expression_statement", none, 76, 83, true, false⟩),
    (6, ⟨"call_expression", none, 76, 82, true, false⟩),
    (7, ⟨"identifier", some "function", 76, 79, true, false⟩),
    (7, ⟨"arguments", some "arguments", 79, 82, true, false⟩),
    (8, ⟨"(", none, 79, 80, false, false⟩),
    (8, ⟨"identifier", none, 80, 81, true, false⟩),
    (8, ⟨")", none, 81, 82, false, false⟩),
    (6, ⟨";", none, 82, 83, false, false⟩),
    (5, ⟨"\x7d", none, 84, 85, false, false⟩),
    (3, ⟨"\x7d", none, 86, 87, false, false⟩)]

/-- Node 10 is the body of the arrow function, node 7, and stands for its parameter, node 8; the
function outside is node 1. -/
theorem parameter_shadows_sameNameInside :
    ((ofSource sameNameInside).textOf 10 = "f" ∧ (ofSource sameNameInside).kind 7 = .arrowFunction ∧
      (ofSource sameNameInside).declaredName? 1 = some "f" ∧
      (ofSource sameNameInside).declarationsOf 10 = [8]) ∧
      (∀ d ∈ (ofSource sameNameInside).declarationsOf 10,
        d ∈ (ofSource sameNameInside).childrenWith 7 .parameter ∨
          7 ∈ (ofSource sameNameInside).ancestors d) ∧
      ∀ d ∈ (ofSource sameNameInside).declarationsOf 10,
        d ∉ (ofSource sameNameInside).childrenWith 13 .parameter := by
  obtain ⟨hfacts, ⟨href, hrole, hspace⟩, habove, hkind, hparameter, hname, htype⟩ :
      ((ofSource sameNameInside).textOf 10 = "f" ∧
        (ofSource sameNameInside).kind 7 = .arrowFunction ∧
        (ofSource sameNameInside).declaredName? 1 = some "f" ∧
        (ofSource sameNameInside).declarationsOf 10 = [8]) ∧
      ((ofSource sameNameInside).isReference 10 = true ∧
        (ofSource sameNameInside).role 10 ≠ some .property ∧
        (ofSource sameNameInside).namespaceOf 10 = .value) ∧
      7 ∈ (ofSource sameNameInside).ancestors 10 ∧
      (ofSource sameNameInside).kind 7 ∈
        [Kind.functionDeclaration, .arrowFunction, .functionExpression] ∧
      8 ∈ (ofSource sameNameInside).childrenWith 7 .parameter ∧
      (ofSource sameNameInside).declaredName? 8 = some ((ofSource sameNameInside).textOf 10) ∧
      (ofSource sameNameInside).kind 13 = .functionType := by
    decide +kernel
  obtain ⟨hshadows, htypes⟩ := parameter_shadows href hrole hspace
  exact ⟨hfacts, (hshadows 7 habove hkind 8 hparameter hname).2, htypes 13 htype⟩

/-- Not everything with parameters shadows. Node 18 is used inside the function type, node 13, whose
parameter, node 14, has its name, and it stands for the function outside. The same goes for node 32
in the method, node 23, which is one of the nodes that are not told apart. -/
theorem not_everything_with_parameters_shadows :
    (¬∀ (source : Concrete.Source) (r a p : Nat), (ofSource source).isReference r = true →
      (ofSource source).role r ≠ some .property → (ofSource source).namespaceOf r = .value →
      a ∈ (ofSource source).ancestors r → p ∈ (ofSource source).childrenWith a .parameter →
      (ofSource source).declaredName? p = some ((ofSource source).textOf r) →
      ∀ d ∈ (ofSource source).declarationsOf r,
        d ∈ (ofSource source).childrenWith a .parameter ∨ a ∈ (ofSource source).ancestors d) ∧
      ((ofSource sameNameInside).kind 13 = .functionType ∧
        (ofSource sameNameInside).declarationsOf 18 = [1]) ∧
      (ofSource sameNameInside).kind 23 = .unknown ∧
        (ofSource sameNameInside).declarationsOf 32 = [1] := by
  obtain ⟨⟨href, hrole, hspace⟩, habove, hparameter, hname, houtside, hdeclarations, hrest⟩ :
      ((ofSource sameNameInside).isReference 18 = true ∧
        (ofSource sameNameInside).role 18 ≠ some .property ∧
        (ofSource sameNameInside).namespaceOf 18 = .value) ∧
      13 ∈ (ofSource sameNameInside).ancestors 18 ∧
      14 ∈ (ofSource sameNameInside).childrenWith 13 .parameter ∧
      (ofSource sameNameInside).declaredName? 14 = some ((ofSource sameNameInside).textOf 18) ∧
      ¬(1 ∈ (ofSource sameNameInside).childrenWith 13 .parameter ∨
        13 ∈ (ofSource sameNameInside).ancestors 1) ∧
      (ofSource sameNameInside).declarationsOf 18 = [1] ∧
      (ofSource sameNameInside).kind 13 = .functionType ∧
      (ofSource sameNameInside).kind 23 = .unknown ∧
        (ofSource sameNameInside).declarationsOf 32 = [1] := by
    decide +kernel
  refine ⟨fun h => houtside ?_, ⟨hrest.1, hdeclarations⟩, hrest.2⟩
  refine h sameNameInside 18 13 14 href hrole hspace habove hparameter hname 1 ?_
  rw [hdeclarations]
  exact List.mem_singleton_self 1

end Tree

end ClosureWrap
