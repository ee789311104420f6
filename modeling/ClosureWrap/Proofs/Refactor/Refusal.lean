import ClosureWrap.Proofs.Refactor.Wrap
import ClosureWrap.Proofs.Tree.Nesting

/-!
# Why no edit is made

A request for an edit is refused for one of two reasons. Either there is nothing to wrap at the
offset, or there is an identifier in a call and the call does not say what the closure has to look
like. The first reason also keeps the refactoring from being offered. The second is found out only
when the edit is asked for, so it may come as a surprise to a user; `Wrap.Shortcoming` lists what it
can be.

Together with the edits that are made, this says what becomes of every request.

## Main definitions

* `Span.Holds` — an offset lies in a span
* `Wrap.Shortcoming` — what a call may lack, and the error that says so

## Main results

* `Wrap.callbackParameters_eq_error_iff` — the calls that expect no callback
* `Wrap.buildEdit_eq_error_iff` — the requests that are refused
* `Wrap.isApplicable_iff` — where the refactoring is offered
* `Wrap.holds_of_buildEdit` — an edit replaces something around the cursor
* `Wrap.buildEdit_of_findTarget`, `Wrap.exists_target_of_buildEdit` — only the place decides which
  of the two reasons there can be
-/

namespace ClosureWrap

/-- The offset lies in the span. -/
def Span.Holds (s : Span) (offset : Nat) : Prop := s.start ≤ offset ∧ offset < s.start + s.length

/-- A node that holds an offset has a span that does. -/
theorem Tree.holds_span {t : Tree} {n offset : Nat} (h : t.contains n offset = true) :
    (t.span n).Holds offset := by
  obtain ⟨hstart, hstop⟩ := contains_iff.1 h
  refine ⟨hstart, ?_⟩
  simp only [span, Span.ofRange]
  omega

namespace Wrap

variable {checker : Checker} {t : Tree} {strict : Bool} {mode : ArrowParens} {offset : Nat}

/-- What a call lacks that expects no callback, with the error that says so. -/
inductive Shortcoming (checker : Checker) (t : Tree) (call : Nat) : RefactorError → Prop
  /-- What is called is not known, or takes no parameter. -/
  | noParameter
      (unknown : ((checker.resolvedSignature t call).bind fun s => s.parameters.head?) = none) :
      Shortcoming checker t call (.noParameter (calleeText t call))
  /-- The first parameter has no declaration, or one of another kind. -/
  | notAParameter {signature : Signature NodeRef} {first : ParameterSymbol NodeRef}
      (resolved : checker.resolvedSignature t call = some signature)
      (first_eq : signature.parameters.head? = some first)
      (undeclared : ∀ d, first.declaration = some d → d.kind ≠ .parameter) :
      Shortcoming checker t call (.notAParameter (first.declaration.map NodeRef.kind))
  /-- The first parameter has no annotation, or one that is not a function type. -/
  | unsupportedParameterType {signature : Signature NodeRef} {first : ParameterSymbol NodeRef}
      {declaration : NodeRef}
      (resolved : checker.resolvedSignature t call = some signature)
      (first_eq : signature.parameters.head? = some first)
      (declared : first.declaration = some declaration)
      (isParameter : declaration.kind = .parameter)
      (unannotated : ∀ w, declaration.tree.childWith? declaration.number .type = some w →
        declaration.tree.kind w ≠ .functionType) :
      Shortcoming checker t call
        (.unsupportedParameterType
          ((declaration.tree.childWith? declaration.number .type).map declaration.tree.kind))

theorem filter_kind_eq_none {ν : Type} {kindOf : ν → Kind} {o : Option ν} {kind : Kind}
    (h : ∀ n, o = some n → kindOf n ≠ kind) : (o.filter fun n => kindOf n == kind) = none := by
  rw [Option.filter_eq_none_iff]
  intro n hn
  simpa using h n hn

/-- **The calls that expect no callback** are those that lack something. -/
theorem callbackParameters_eq_error_iff {call : Nat} {e : RefactorError} :
    callbackParameters checker t call = .error e ↔ Shortcoming checker t call e := by
  constructor
  · intro h
    unfold callbackParameters at h
    split at h
    · rename_i hunknown
      cases h
      exact .noParameter hunknown
    · rename_i first hfirst
      obtain ⟨signature, hresolved, hhead⟩ := Option.bind_eq_some_iff.1 hfirst
      split at h
      · rename_i hundeclared
        cases h
        rw [Option.filter_eq_none_iff] at hundeclared
        exact .notAParameter hresolved hhead fun d hd => by simpa using hundeclared d hd
      · rename_i declaration hdeclaration
        obtain ⟨hdeclared, hparameter⟩ := Option.filter_eq_some_iff.1 hdeclaration
        simp only at h
        split at h
        · rename_i hunannotated
          cases h
          rw [Option.filter_eq_none_iff] at hunannotated
          exact .unsupportedParameterType hresolved hhead hdeclared (by simpa using hparameter)
            fun w hw => by simpa using hunannotated w hw
        · cases h
  · intro h
    cases h with
    | noParameter hunknown => simp only [callbackParameters, hunknown]
    | notAParameter hresolved hfirst hundeclared =>
      simp only [callbackParameters, hresolved, Option.bind_some, hfirst,
        filter_kind_eq_none hundeclared]
    | unsupportedParameterType hresolved hfirst hdeclared hparameter hunannotated =>
      simp only [callbackParameters, hresolved, Option.bind_some, hfirst, hdeclared,
        Option.filter_some, hparameter, beq_self_eq_true, if_true,
        filter_kind_eq_none hunannotated]

/-- **The requests that are refused**: there is nothing to wrap at the offset, or the call of what
is there lacks something. -/
theorem buildEdit_eq_error_iff {e : RefactorError} :
    buildEdit checker t strict mode offset = .error e ↔
      (∃ obstacle, findTarget t offset strict = .error obstacle ∧
        e = .precondition offset obstacle.message) ∨
      ∃ target, findTarget t offset strict = .ok target ∧ Shortcoming checker t target.call e := by
  cases htarget : findTarget t offset strict with
  | error obstacle => simp [buildEdit, htarget, eq_comm]
  | ok target =>
    simp only [buildEdit, htarget, reduceCtorEq, false_and, exists_false, false_or, Except.ok.injEq,
      exists_eq_left']
    rw [← callbackParameters_eq_error_iff]
    cases callbackParameters checker t target.call <;> simp [Except.map]

/-- **The refactoring is offered** where there is something to wrap that can be called. -/
theorem isApplicable_iff :
    isApplicable checker t strict offset = true ↔
      ∃ target, findTarget t offset strict = .ok target ∧
        (checker.typeOf t target.identifier).isCallable = true := by
  unfold isApplicable
  cases findTarget t offset strict <;> simp

/-- An edit replaces something around the cursor. -/
theorem holds_of_buildEdit {edit : Edit} (h : buildEdit checker t strict mode offset = .ok edit) :
    edit.span.Holds offset := by
  obtain ⟨target, htarget, c, rfl⟩ := buildEdit_eq_ok_iff.1 h
  exact Tree.holds_span (Tree.contains_of_locate? (findTarget_eq_ok_iff.1 htarget).1)

/-- Where there is something to wrap, an edit is made around it, or its call lacks something. -/
theorem buildEdit_of_findTarget {target : Target} (h : findTarget t offset strict = .ok target)
    (checker : Checker) (mode : ArrowParens) :
    (∃ edit, buildEdit checker t strict mode offset = .ok edit ∧ edit.span.Holds offset) ∨
      ∃ e, buildEdit checker t strict mode offset = .error e ∧
        Shortcoming checker t target.call e := by
  cases hedit : buildEdit checker t strict mode offset with
  | ok edit => exact .inl ⟨edit, rfl, holds_of_buildEdit hedit⟩
  | error e =>
    rcases buildEdit_eq_error_iff.1 hedit with ⟨obstacle, hnone, -⟩ | ⟨found, hfound, hlacks⟩
    · rw [h] at hnone
      cases hnone
    · rw [h] at hfound
      cases hfound
      exact .inr ⟨e, rfl, hlacks⟩

/-- A request that is not refused because of its place is about something to wrap. -/
theorem exists_target_of_buildEdit
    (h : ∀ place reason,
      buildEdit checker t strict mode offset ≠ .error (.precondition place reason)) :
    ∃ target, findTarget t offset strict = .ok target := by
  cases htarget : findTarget t offset strict with
  | ok target => exact ⟨target, rfl⟩
  | error obstacle =>
    exact absurd (buildEdit_eq_error_iff.2 (.inl ⟨obstacle, htarget, rfl⟩)) (h _ _)

end Wrap

end ClosureWrap
