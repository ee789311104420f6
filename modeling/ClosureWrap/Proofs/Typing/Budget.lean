import ClosureWrap.Proofs.Tree.Links
import ClosureWrap.Typing.Structural

/-!
# A larger budget

The budget decides how far the checker goes, and nothing else. If it finds a way of calling within
some budget, it finds the same ways within every larger one; what a larger budget can change is a
type of which nothing was known.

The reason is that nothing can be made of an unknown type but an unknown type. A union one member of
which is unknown is unknown, and a call of something unknown has no result. There is one exception.
An intersection passes over the members that are unknown and keeps the others, so that a larger
budget can add to it, and a call may then settle on another signature. Trees with intersections are
therefore left out.

## Main definitions

* `CallType.SurvivesIn` — a type that is unknown, or the same as another one

## Main results

* `Tree.survives_types` — what the checker finds survives in a larger budget
* `Tree.budget_only_cuts_off` — the same for types and for the signatures of calls
-/

namespace ClosureWrap

namespace CallType

/-- If there is a way of calling `c`, then `d` is the same type. -/
def SurvivesIn (c d : CallType Nat) : Prop := c.isCallable = true → d = c

theorem SurvivesIn.refl (c : CallType Nat) : c.SurvivesIn c := fun _ => rfl

theorem survivesIn_unknown (d : CallType Nat) : unknown.SurvivesIn d := fun h => (by cases h)

end CallType

open CallType

namespace Tree

variable {t : Tree}

/-- Something is settled on only if there is something to choose from. -/
theorem isCallable_of_overload? {c : CallType Nat} {arguments : Nat} {s : Signature Nat}
    (h : overload? c.signatures arguments = some s) : c.isCallable = true := by
  rw [isCallable_iff]
  intro hnone
  rw [hnone] at h
  cases h

/-- A call that settles on a signature goes on to settle on it, if the type of what it calls
survives. -/
theorem settle?_of_survives {call : Nat} {calleeType calleeType' : Nat → CallType Nat}
    {s : Signature Nat}
    (hsurvives : ∀ n, (calleeType n).SurvivesIn (calleeType' n))
    (h : t.settle? call calleeType = some s) : t.settle? call calleeType' = some s := by
  obtain ⟨callee, hcallee, hs⟩ := Option.bind_eq_some_iff.1 h
  have hsame : calleeType' callee = calleeType callee :=
    hsurvives callee (isCallable_of_overload? hs)
  rw [settle?, hcallee, Option.bind_some, hsame]
  exact hs

/-! ### One step

Each kind of type within a budget, from the types within the next smaller one. -/

section Step

variable {budget more : Nat}

theorem survives_expressionType_succ
    (hdeclared : ∀ ds, (t.declaredType budget ds).SurvivesIn (t.declaredType more ds))
    (hexpression : ∀ n, (t.expressionType budget n).SurvivesIn (t.expressionType more n))
    (hwritten : ∀ n, (t.writtenType budget n).SurvivesIn (t.writtenType more n)) (n : Nat) :
    (t.expressionType (budget + 1) n).SurvivesIn (t.expressionType (more + 1) n) := by
  rw [expressionType, expressionType]
  split
  · exact hdeclared _
  · exact .refl _
  · exact .refl _
  · split
    · exact .refl _
    · exact hexpression _
  · -- A result that is known comes from a signature that was settled on, which is settled on again.
    cases hsettled : t.settle? n fun callee => t.expressionType budget callee with
    | none => exact survivesIn_unknown _
    | some s =>
      rw [settle?_of_survives hexpression hsettled, Option.bind_some]
      split
      · exact survivesIn_unknown _
      · exact hwritten _
  · exact .refl _

/-- The members of a union that can be called are the same within more, and so is the union. -/
theorem survives_writtenType_succ (hplain : ∀ n, t.kind n ≠ .intersectionType)
    (hwritten : ∀ n, (t.writtenType budget n).SurvivesIn (t.writtenType more n)) (n : Nat) :
    (t.writtenType (budget + 1) n).SurvivesIn (t.writtenType (more + 1) n) := by
  rw [writtenType, writtenType]
  split
  · exact .refl _
  · split
    · exact .refl _
    · exact hwritten _
  · split
    · exact .refl _
    · rename_i first others _
      intro hcallable
      simp only at hcallable ⊢
      split at hcallable
      next hall =>
        obtain ⟨hfirst, hothers⟩ := Bool.and_eq_true_iff.1 hall
        have hfirst' : t.writtenType more first = t.writtenType budget first :=
          hwritten first hfirst
        have hothers' : (others.all fun m => (t.writtenType more m).isCallable) = true := by
          rw [List.all_eq_true] at hothers ⊢
          intro m hm
          rw [hwritten m (hothers m hm)]
          exact hothers m hm
        rw [hfirst', if_pos (Bool.and_eq_true_iff.2 ⟨hfirst, hothers'⟩), if_pos hall]
      next => cases hcallable
  · exact absurd ‹_› (hplain n)
  · split
    · exact .refl _
    · exact hwritten _
  · exact .refl _

theorem survives_declaredType_zero (ds : List Nat) :
    (t.declaredType 0 ds).SurvivesIn (t.declaredType more ds) := by
  unfold declaredType
  split
  · exact .refl _
  · exact survivesIn_unknown _

theorem survives_declaredType_succ
    (hexpression : ∀ n, (t.expressionType budget n).SurvivesIn (t.expressionType more n))
    (hwritten : ∀ n, (t.writtenType budget n).SurvivesIn (t.writtenType more n)) (ds : List Nat) :
    (t.declaredType (budget + 1) ds).SurvivesIn (t.declaredType (more + 1) ds) := by
  unfold declaredType
  split
  · exact .refl _
  · cases ds with
    | nil => exact .refl _
    | cons d _ =>
      simp only
      split
      · split
        · exact hwritten _
        · exact hexpression _
        · exact .refl _
      · split
        · exact hwritten _
        · exact .refl _
      · exact .refl _

end Step

/-! ### All steps -/

/-- **What the checker finds survives in a larger budget.** The three kinds of types refer to each
other with a smaller budget, so one induction on the budget serves them all. -/
theorem survives_types (hplain : ∀ n, t.kind n ≠ .intersectionType) {budget more : Nat}
    (hle : budget ≤ more) :
    (∀ n, (t.expressionType budget n).SurvivesIn (t.expressionType more n)) ∧
      (∀ ds, (t.declaredType budget ds).SurvivesIn (t.declaredType more ds)) ∧
      ∀ n, (t.writtenType budget n).SurvivesIn (t.writtenType more n) := by
  induction budget generalizing more with
  | zero =>
    refine ⟨fun n => ?_, survives_declaredType_zero, fun n => ?_⟩
    · rw [expressionType]
      exact survivesIn_unknown _
    · rw [writtenType]
      exact survivesIn_unknown _
  | succ budget ih =>
    obtain ⟨more, rfl⟩ : ∃ m, more = m + 1 := ⟨more - 1, by omega⟩
    obtain ⟨hexpression, hdeclared, hwritten⟩ := ih (Nat.le_of_succ_le_succ hle)
    exact ⟨survives_expressionType_succ hdeclared hexpression hwritten,
      survives_declaredType_succ hexpression hwritten, survives_writtenType_succ hplain hwritten⟩

/-- **The budget only cuts off.** In a tree without intersections, an expression or a written type
that can be called within some budget has the same type within every larger one, and a call that
settles on a signature settles on the same one. -/
theorem budget_only_cuts_off (t : Tree) (hplain : ∀ n < t.size, t.kind n ≠ .intersectionType)
    (budget more : Nat) (hle : budget ≤ more) :
    (∀ n, (t.expressionType budget n).isCallable = true →
        t.expressionType more n = t.expressionType budget n) ∧
      (∀ n, (t.writtenType budget n).isCallable = true →
        t.writtenType more n = t.writtenType budget n) ∧
      ∀ call s, t.callSignature? budget call = some s → t.callSignature? more call = some s := by
  have hnowhere (n : Nat) : t.kind n ≠ .intersectionType := by
    intro hkind
    exact hplain n (lt_size_of_kind (by rw [hkind]; exact Kind.noConfusion)) hkind
  obtain ⟨hexpression, -, hwritten⟩ := survives_types hnowhere hle
  exact ⟨hexpression, hwritten, fun call s h => settle?_of_survives hexpression h⟩

/-- An overloaded function, of which one result is a union with an alias, and a call of what a call
of it returns. -/
def callOfResult : Tree :=
  ofRows "main.ts"
    "declare function f(): A; declare function f(a): A | (() => 0); type A = (x) => 0; f(1)(2);"
    .sourceFile [
      ⟨0, .functionDeclaration, none, 8, 24⟩,
      ⟨1, .identifier, some .name, 17, 18⟩,
      ⟨1, .typeReference, some .returnType, 22, 23⟩,
      ⟨0, .functionDeclaration, none, 33, 62⟩,
      ⟨4, .identifier, some .name, 42, 43⟩,
      ⟨4, .parameter, some .parameter, 44, 45⟩,
      ⟨6, .identifier, some .name, 44, 45⟩,
      ⟨4, .unionType, some .returnType, 48, 61⟩,
      ⟨8, .typeReference, none, 48, 49⟩,
      ⟨8, .parenthesizedType, none, 52, 61⟩,
      ⟨10, .functionType, none, 53, 60⟩,
      ⟨0, .typeAliasDeclaration, none, 63, 81⟩,
      ⟨12, .identifier, some .name, 68, 69⟩,
      ⟨12, .functionType, some .type, 72, 80⟩,
      ⟨14, .parameter, some .parameter, 73, 74⟩,
      ⟨15, .identifier, some .name, 73, 74⟩,
      ⟨0, .expressionStatement, none, 82, 90⟩,
      ⟨17, .callExpression, none, 82, 89⟩,
      ⟨18, .callExpression, some .callee, 82, 86⟩,
      ⟨19, .identifier, some .callee, 82, 83⟩,
      ⟨19, .numericLiteral, some .argument, 84, 85⟩,
      ⟨18, .numericLiteral, some .argument, 87, 88⟩]

/-- The outer call, node 18, settles on nothing within a budget of 3. Within 4 it settles on the
function type of the alias, and so it does within the budget of a question. -/
theorem budget_only_cuts_off_callOfResult :
    (∀ n < callOfResult.size, callOfResult.kind n ≠ .intersectionType) ∧
      callOfResult.callSignature? 3 18 = none ∧
      callOfResult.callSignature? 4 18 = some ⟨some 14, [⟨"x", some 15⟩]⟩ ∧
      callOfResult.callSignature? typingBudget 18 = some ⟨some 14, [⟨"x", some 15⟩]⟩ := by
  have hplain : ∀ n < callOfResult.size, callOfResult.kind n ≠ .intersectionType := by
    decide +kernel
  have hbefore : callOfResult.callSignature? 3 18 = none := by
    decide +kernel
  have hfound : callOfResult.callSignature? 4 18 = some ⟨some 14, [⟨"x", some 15⟩]⟩ := by
    decide +kernel
  exact ⟨hplain, hbefore, hfound,
    (budget_only_cuts_off callOfResult hplain 4 typingBudget (by decide)).2.2 18 _ hfound⟩

end Tree

end ClosureWrap
