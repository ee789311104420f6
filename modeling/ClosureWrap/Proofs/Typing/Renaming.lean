import ClosureWrap.Proofs.Binding.Renaming
import ClosureWrap.Typing.Structural

/-!
# Types up to renaming

The structural checker goes from a name to its declarations, from there to an annotation, and on to
the next name. All of it depends on names only through what they mean. In a file in which the names
are exchanged for others, the checker therefore takes the same way and ends at the same functions.
What it hands out there contains names, those of the parameters, and these are the only thing that
is different.

## Main definitions

* `Signature.nodes` — the nodes of a signature, without names
* `CallType.Alike` — types with the same nodes in all their signatures

## Main results

* `Tree.Renaming.alike_types` — the types that the checker finds in the two trees
* `Tree.Renaming.same_up_to_names` — resolution depends on names only up to renaming
-/

namespace ClosureWrap

/-- The node that declares the signature and those that declare its parameters, in order. -/
def Signature.nodes {ν : Type} (s : Signature ν) : Option ν × List (Option ν) :=
  (s.declaration, s.parameters.map ParameterSymbol.declaration)

/-- The node with the same number in tree `u`. -/
def NodeRef.inTree (u : Tree) (r : NodeRef) : NodeRef := u.ref r.number

theorem Signature.nodes_map {ν μ : Type} (f : ν → μ) (s : Signature ν) :
    (s.map f).nodes = Prod.map (Option.map f) (List.map (Option.map f)) s.nodes := by
  simp only [nodes, Signature.map, List.map_map, Prod.map]
  rfl

namespace CallType

theorem nodes_map {ν μ : Type} (f : ν → μ) (c : CallType ν) :
    (c.map f).signatures.map Signature.nodes =
      (c.signatures.map Signature.nodes).map
        (Prod.map (Option.map f) (List.map (Option.map f))) := by
  simp only [map, List.map_map, Function.comp_def, Signature.nodes_map]

/-- The ways of calling have the same nodes, one by one. -/
def Alike (c d : CallType Nat) : Prop :=
  c.signatures.map Signature.nodes = d.signatures.map Signature.nodes

theorem Alike.refl (c : CallType Nat) : c.Alike c := rfl

theorem Alike.isCallable {c d : CallType Nat} (h : c.Alike d) : c.isCallable = d.isCallable := by
  have hlength := congrArg List.length h
  simp only [List.length_map] at hlength
  rw [Bool.eq_iff_iff, isCallable_iff, isCallable_iff, ← List.length_pos_iff, ← List.length_pos_iff,
    hlength]

end CallType

namespace Tree

/-- Which overload is chosen depends on the number of parameters only. -/
theorem nodes_overload? (signatures : List (Signature Nat)) (arguments : Nat) :
    (overload? signatures arguments).map Signature.nodes =
      ((signatures.map Signature.nodes).find? fun s => arguments ≤ s.2.length).or
        (signatures.map Signature.nodes).head? := by
  have hcount : (fun s : Option Nat × List (Option Nat) => decide (arguments ≤ s.2.length)) ∘
      Signature.nodes = fun s => decide (arguments ≤ s.parameters.length) := by
    funext s
    simp [Signature.nodes]
  rw [overload?, List.find?_map, List.head?_map, hcount, Option.orElse_eq_orElse,
    Option.orElse_eq_or, Option.map_or]

namespace Renaming

variable {t u : Tree} (h : t.Renaming u)

include h

theorem nodes_signatureOf (n : Nat) : (t.signatureOf n).nodes = (u.signatureOf n).nodes := by
  simp only [signatureOf, Signature.nodes, List.map_map, h.childrenWith]
  rfl

theorem alike_single (n : Nat) :
    CallType.Alike (.single (t.signatureOf n)) (.single (u.signatureOf n)) := by
  simp only [CallType.Alike, CallType.single, List.map_cons, List.map_nil, h.nodes_signatureOf]

theorem visibleFunctions (declarations : List Nat) :
    t.visibleFunctions declarations = u.visibleFunctions declarations := by
  simp only [Tree.visibleFunctions, h.kind, h.childWith?]

/-- A call settles on the same signature, if what it calls has the same type. -/
theorem nodes_settle? (call : Nat) {calleeType calleeType' : Nat → CallType Nat}
    (halike : ∀ n, (calleeType n).Alike (calleeType' n)) :
    (t.settle? call calleeType).map Signature.nodes =
      (u.settle? call calleeType').map Signature.nodes := by
  rw [settle?, settle?, h.childWith?, h.childrenWith]
  cases u.childWith? call .callee with
  | none => rfl
  | some callee => rw [Option.bind_some, Option.bind_some, nodes_overload?, nodes_overload?, halike]

/-! ### One step

Each kind of type within a budget, from the types within the next smaller one. -/

section Step

variable {budget : Nat}

theorem alike_expressionType_succ
    (hdeclared : ∀ ds, (t.declaredType budget ds).Alike (u.declaredType budget ds))
    (hexpression : ∀ n, (t.expressionType budget n).Alike (u.expressionType budget n))
    (hwritten : ∀ n, (t.writtenType budget n).Alike (u.writtenType budget n)) (n : Nat) :
    (t.expressionType (budget + 1) n).Alike (u.expressionType (budget + 1) n) := by
  rw [expressionType, expressionType, ← h.kind, ← h.children, ← h.declarationsOf]
  split
  · exact hdeclared _
  · exact h.alike_single n
  · exact h.alike_single n
  · split
    · exact .refl _
    · exact hexpression _
  · have hreturn : ((t.settle? n fun callee => t.expressionType budget callee).bind fun s =>
          s.declaration.bind fun d => t.childWith? d .returnType) =
        (u.settle? n fun callee => u.expressionType budget callee).bind fun s =>
          s.declaration.bind fun d => u.childWith? d .returnType := by
      have hnodes := congrArg (Option.bind · fun s => s.1.bind fun d => u.childWith? d .returnType)
        (h.nodes_settle? n hexpression)
      simpa only [Option.bind_map, Function.comp_def, Signature.nodes, h.childWith?] using hnodes
    rw [hreturn]
    split
    · exact .refl _
    · exact hwritten _
  · exact .refl _

theorem alike_writtenType_succ
    (hwritten : ∀ n, (t.writtenType budget n).Alike (u.writtenType budget n)) (n : Nat) :
    (t.writtenType (budget + 1) n).Alike (u.writtenType (budget + 1) n) := by
  rw [writtenType, writtenType, ← h.kind, ← h.children]
  split
  · exact h.alike_single n
  · split
    · exact .refl _
    · exact hwritten _
  · split
    · exact .refl _
    · have hcallable (m : Nat) : (t.writtenType budget m).isCallable =
          (u.writtenType budget m).isCallable := (hwritten m).isCallable
      simp only [hcallable]
      split
      · exact hwritten _
      · exact .refl _
  · show List.map Signature.nodes (List.flatMap _ _) = List.map Signature.nodes (List.flatMap _ _)
    rw [List.map_flatMap, List.map_flatMap]
    exact congrArg (fun f => List.flatMap f (t.children n)) (funext hwritten)
  · rename_i hkind
    have htarget : ((t.resolve n (t.referencedName n) .type).head?.bind fun a =>
        t.childWith? a .type) =
          (u.resolve n (u.referencedName n) .type).head?.bind fun a => u.childWith? a .type := by
      simp only [h.resolve (h.becomes_referencedName (.inr hkind)), h.childWith?]
    rw [htarget]
    split
    · exact .refl _
    · exact hwritten _
  · exact .refl _

/-- The functions among some declarations count whatever the budget is. -/
theorem alike_functions (functions : List Nat) :
    CallType.Alike ⟨functions.map t.signatureOf⟩ ⟨functions.map u.signatureOf⟩ := by
  show List.map Signature.nodes (List.map _ _) = List.map Signature.nodes (List.map _ _)
  rw [List.map_map, List.map_map]
  exact List.map_congr_left fun f _ => h.nodes_signatureOf f

theorem alike_declaredType_zero (ds : List Nat) :
    (t.declaredType 0 ds).Alike (u.declaredType 0 ds) := by
  rw [declaredType, declaredType, ← h.visibleFunctions]
  split
  · exact h.alike_functions _
  · exact .refl _

theorem alike_declaredType_succ
    (hexpression : ∀ n, (t.expressionType budget n).Alike (u.expressionType budget n))
    (hwritten : ∀ n, (t.writtenType budget n).Alike (u.writtenType budget n)) (ds : List Nat) :
    (t.declaredType (budget + 1) ds).Alike (u.declaredType (budget + 1) ds) := by
  unfold declaredType
  rw [← h.visibleFunctions]
  split
  · exact h.alike_functions _
  · cases ds with
    | nil => exact .refl _
    | cons d _ =>
      simp only [← h.kind, ← h.childWith?]
      split
      · split
        · exact hwritten _
        · exact hexpression _
        · exact .refl _
      · split
        · exact hwritten _
        · exact .refl _
      · exact .refl _

end Step

/-! ### All steps -/

/-- **The checker finds the same types in both trees**, up to the names of parameters. The three
kinds of types refer to each other with a smaller budget, so one induction on the budget serves them
all. -/
theorem alike_types (budget : Nat) :
    (∀ n, (t.expressionType budget n).Alike (u.expressionType budget n)) ∧
      (∀ ds, (t.declaredType budget ds).Alike (u.declaredType budget ds)) ∧
      ∀ n, (t.writtenType budget n).Alike (u.writtenType budget n) := by
  induction budget with
  | zero =>
    refine ⟨fun n => ?_, h.alike_declaredType_zero, fun n => ?_⟩
    · rw [expressionType, expressionType]
      exact .refl _
    · rw [writtenType, writtenType]
      exact .refl _
  | succ budget ih =>
    obtain ⟨hexpression, hdeclared, hwritten⟩ := ih
    exact ⟨h.alike_expressionType_succ hdeclared hexpression hwritten,
      h.alike_declaredType_succ hexpression hwritten, h.alike_writtenType_succ hwritten⟩

/-- **Resolution depends on names only up to renaming.** In two trees that differ in the choice of
names only, every node stands for the same declarations, and the checker gives it the same type and
the same resolved signature, except for the names of the parameters. A node of one tree is here the
same as the node with its number in the other. -/
theorem same_up_to_names (n : Nat) :
    t.declarationsOf n = u.declarationsOf n ∧
      ((Checker.structural.typeOf t n).map (NodeRef.inTree u)).signatures.map Signature.nodes =
        (Checker.structural.typeOf u n).signatures.map Signature.nodes ∧
      (Checker.structural.resolvedSignature t n).map (fun s => (s.map (NodeRef.inTree u)).nodes) =
        (Checker.structural.resolvedSignature u n).map Signature.nodes := by
  have hmoved : NodeRef.inTree u ∘ t.ref = u.ref := rfl
  have halike := (h.alike_types typingBudget).1
  refine ⟨h.declarationsOf n, ?_, ?_⟩
  · rw [Checker.typeOf_structural, Checker.typeOf_structural, CallType.map_map, hmoved,
      CallType.nodes_map, CallType.nodes_map, halike n]
  · simp only [Checker.structural, h.kind]
    split
    · have hsettled : (t.callSignature? typingBudget n).map Signature.nodes =
          (u.callSignature? typingBudget n).map Signature.nodes := h.nodes_settle? n halike
      have hplaced := congrArg
        (Option.map (Prod.map (Option.map u.ref) (List.map (Option.map u.ref)))) hsettled
      simp only [Option.map_map, Function.comp_def, ← Signature.nodes_map] at hplaced ⊢
      simp only [Signature.map_map, hmoved]
      exact hplaced
    · rfl

end Renaming

/-- A variable with the type of an alias, and a call of it with the name of the alias as
argument. -/
def callOfAlias : Tree :=
  ofRows "main.ts" "type T = (x) => 0; const f: T; f(T);" .sourceFile [
    ⟨0, .typeAliasDeclaration, none, 0, 18⟩,
    ⟨1, .identifier, some .name, 5, 6⟩,
    ⟨1, .functionType, some .type, 9, 17⟩,
    ⟨3, .parameter, some .parameter, 10, 11⟩,
    ⟨4, .identifier, some .name, 10, 11⟩,
    ⟨0, .variableStatement, none, 19, 30⟩,
    ⟨6, .variableDeclaration, none, 25, 29⟩,
    ⟨7, .identifier, some .name, 25, 26⟩,
    ⟨7, .typeReference, some .type, 28, 29⟩,
    ⟨0, .expressionStatement, none, 31, 36⟩,
    ⟨10, .callExpression, none, 31, 35⟩,
    ⟨11, .identifier, some .callee, 31, 32⟩,
    ⟨11, .identifier, some .argument, 33, 34⟩]

/-- The same with longer names, some of which had another meaning before. -/
def callOfAliasRenamed : Tree :=
  ofRows "other.ts" "type run = (T) => 0; const x1: run; x1(run);" .sourceFile [
    ⟨0, .typeAliasDeclaration, none, 0, 20⟩,
    ⟨1, .identifier, some .name, 5, 8⟩,
    ⟨1, .functionType, some .type, 11, 19⟩,
    ⟨3, .parameter, some .parameter, 12, 13⟩,
    ⟨4, .identifier, some .name, 12, 13⟩,
    ⟨0, .variableStatement, none, 21, 35⟩,
    ⟨6, .variableDeclaration, none, 27, 34⟩,
    ⟨7, .identifier, some .name, 27, 29⟩,
    ⟨7, .typeReference, some .type, 31, 34⟩,
    ⟨0, .expressionStatement, none, 36, 44⟩,
    ⟨10, .callExpression, none, 36, 43⟩,
    ⟨11, .identifier, some .callee, 36, 38⟩,
    ⟨11, .identifier, some .argument, 39, 42⟩]

/-- In both files the variable is declared by node 7, and the call settles on the function type of
the alias. -/
theorem same_up_to_names_callOfAlias :
    callOfAlias.Renaming callOfAliasRenamed ∧ callOfAliasRenamed.declarationsOf 12 = [7] ∧
      Checker.structural.resolvedSignature callOfAlias 11 =
        some (.map callOfAlias.ref ⟨some 3, [⟨"x", some 4⟩]⟩) ∧
      (Checker.structural.resolvedSignature callOfAliasRenamed 11).map Signature.nodes =
        some (some (callOfAliasRenamed.ref 3), [some (callOfAliasRenamed.ref 4)]) := by
  have hrenaming : callOfAlias.Renaming callOfAliasRenamed := by
    constructor <;> decide +kernel
  obtain ⟨hdeclarations, hcall, hsettled⟩ :
      callOfAlias.declarationsOf 12 = [7] ∧ callOfAlias.kind 11 = .callExpression ∧
        callOfAlias.callSignature? typingBudget 11 = some ⟨some 3, [⟨"x", some 4⟩]⟩ := by
    decide +kernel
  have hsignature : Checker.structural.resolvedSignature callOfAlias 11 =
      some (.map callOfAlias.ref ⟨some 3, [⟨"x", some 4⟩]⟩) := by
    rw [Checker.resolvedSignature_structural hcall, hsettled, Option.map_some]
  refine ⟨hrenaming, ?_, hsignature, ?_⟩
  · rw [← (hrenaming.same_up_to_names 12).1, hdeclarations]
  · rw [← (hrenaming.same_up_to_names 11).2.2, hsignature]
    rfl

end Tree

end ClosureWrap
