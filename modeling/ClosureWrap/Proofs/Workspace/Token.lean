import ClosureWrap.Proofs.Lowering.Nesting
import ClosureWrap.Proofs.Refactor.Refusal
import ClosureWrap.Workspace.Service

/-!
# Questions about a token

An editor asks about an offset, and a user means the token there. The two agree: whatever is asked
at one byte of an identifier has the same answer at every other byte of it. Everything that takes an
offset first looks for the innermost node there and then forgets the offset, with one exception. An
error about the place itself names the offset that was asked about.

## Main definitions

* `RefactorError.reportedAt` — an error as it would be reported at another offset
* `Tree.SameAnswers` — two offsets at which every question has the same answer

## Main results

* `Tree.sameAnswers_of_locate?` — an offset counts only through the node that is found there
* `Tree.identifier_found_at_every_byte` — every byte of an identifier finds it, and asks the same
-/

namespace ClosureWrap

/-- The same error, reported at another offset. Only an error about the place itself names one. -/
def RefactorError.reportedAt (offset : Nat) : RefactorError → RefactorError
  | .precondition _ reason => .precondition offset reason
  | other => other

/-- An error about the parameters of a call names no offset. -/
theorem Wrap.reportedAt_of_callbackParameters {checker : Checker} {t : Tree} {call : Nat}
    {e : RefactorError} (h : Wrap.callbackParameters checker t call = .error e) (offset : Nat) :
    e.reportedAt offset = e := by
  cases callbackParameters_eq_error_iff.1 h with
  | noParameter => rfl
  | notAParameter => rfl
  | unsupportedParameterType => rfl

namespace Tree

/-- Every question about a place has the same answer at the offsets `a` and `b`, except that an
error about the place itself names the offset that was asked about. -/
structure SameAnswers (t : Tree) (a b : Nat) : Prop where
  applicable : ∀ checker strict,
    Wrap.isApplicable checker t strict a = Wrap.isApplicable checker t strict b
  edit : ∀ checker strict mode,
    (Wrap.buildEdit checker t strict mode a).mapError (RefactorError.reportedAt b) =
      Wrap.buildEdit checker t strict mode b
  quickInfo : ∀ (m : Type → Type) [Monad m] (files : Files) (name : String),
    files.get? name = some t →
      (files.service : LanguageService m).quickInfo name a =
        (files.service : LanguageService m).quickInfo name b
  definition : ∀ (m : Type → Type) [Monad m] (files : Files) (name : String),
    files.get? name = some t →
      (files.service : LanguageService m).definition name a =
        (files.service : LanguageService m).definition name b
  references : ∀ (m : Type → Type) [Monad m] (files : Files) (name : String),
    files.get? name = some t →
      (files.service : LanguageService m).references name a =
        (files.service : LanguageService m).references name b

/-- An offset counts only through the node that is found there. -/
theorem sameAnswers_of_locate? {t : Tree} {a b : Nat}
    (h : t.locate? root a = t.locate? root b) : t.SameAnswers a b := by
  have htarget (strict : Bool) : Wrap.findTarget t a strict = Wrap.findTarget t b strict := by
    rw [Wrap.findTarget, Wrap.findTarget, h]
  have hsymbol : t.symbolAt? a = t.symbolAt? b := by rw [symbolAt?, symbolAt?, h]
  refine ⟨fun checker strict => ?_, fun checker strict mode => ?_, ?_, ?_, ?_⟩
  · rw [Wrap.isApplicable, Wrap.isApplicable, htarget]
  · rw [Wrap.buildEdit, Wrap.buildEdit, htarget]
    cases Wrap.findTarget t b strict with
    | error obstacle => rfl
    | ok target =>
      simp only
      cases hnames : Wrap.callbackParameters checker t target.call with
      | error e =>
        exact congrArg Except.error (Wrap.reportedAt_of_callbackParameters hnames b)
      | ok names => rfl
  · intro m _ files name hfile
    simp only [Files.service, hfile, Option.bind_some, quickInfoAt, hsymbol]
  · intro m _ files name hfile
    simp only [Files.service, hfile, Option.map_some, definitionsAt, hsymbol]
  · intro m _ files name hfile
    simp only [Files.service, hfile, Option.map_some, referencesAt, hsymbol]

/-- **Every byte of an identifier finds that identifier.** If the ranges of the concrete tree are
nested, those of the lowered tree are, the search at any byte of an identifier ends at it, and no
question tells two of its bytes apart. -/
theorem identifier_found_at_every_byte {source : Concrete.Source} (h : source.Nested) :
    ((ofSource source).start root = 0 ∧
      (ofSource source).stop root = Text.byteLength source.text ∧ (ofSource source).WellNested) ∧
      ∀ n, (ofSource source).kind n = .identifier →
        ∀ a, (ofSource source).start n ≤ a → a < (ofSource source).stop n →
          (ofSource source).locate? root a = some n ∧
            ∀ b, (ofSource source).start n ≤ b → b < (ofSource source).stop n →
              (ofSource source).SameAnswers a b := by
  refine ⟨⟨?_, ?_, wellNested_ofSource h⟩, fun n hn a h₁ h₂ => ?_⟩
  · rw [start, node_root_ofSource]
  · rw [stop, node_root_ofSource]
  · have found := locate?_of_identifier h hn h₁ h₂
    refine ⟨found, fun b h₃ h₄ => sameAnswers_of_locate? ?_⟩
    rw [found, locate?_of_identifier h hn h₃ h₄]

/-- The call `run(arg=>arg)`: an argument list to flatten, and a bare parameter to double. -/
def callOfArrow : Concrete.Source :=
  .ofTable "main.ts" "run(arg=>arg)" [
    (0, ⟨"program", none, 0, 13, true, false⟩),
    (1, ⟨"expression_statement", none, 0, 13, true, false⟩),
    (2, ⟨"call_expression", none, 0, 13, true, false⟩),
    (3, ⟨"identifier", some "function", 0, 3, true, false⟩),
    (3, ⟨"arguments", some "arguments", 3, 13, true, false⟩),
    (4, ⟨"(", none, 3, 4, false, false⟩),
    (4, ⟨"arrow_function", none, 4, 12, true, false⟩),
    (5, ⟨"identifier", some "parameter", 4, 7, true, false⟩),
    (5, ⟨"=>", none, 7, 9, false, false⟩),
    (5, ⟨"identifier", some "body", 9, 12, true, false⟩),
    (4, ⟨")", none, 12, 13, false, false⟩)]

/-- Node 6 is the name of the bare parameter; it has the range of the parameter above it. -/
theorem bare_parameter_found_at_every_byte :
    callOfArrow.Nested ∧ (ofSource callOfArrow).kind 6 = .identifier ∧
      (ofSource callOfArrow).span 6 = ⟨4, 3⟩ ∧ (ofSource callOfArrow).span 5 = ⟨4, 3⟩ ∧
        (ofSource callOfArrow).locate? root 4 = some 6 ∧
          (ofSource callOfArrow).SameAnswers 4 6 := by
  have hnested : callOfArrow.Nested := by decide +kernel
  have hkind : (ofSource callOfArrow).kind 6 = .identifier := by decide +kernel
  obtain ⟨found, same⟩ := (identifier_found_at_every_byte hnested).2 6 hkind 4
    (by decide +kernel) (by decide +kernel)
  exact ⟨hnested, hkind, by decide +kernel, by decide +kernel, found,
    same 6 (by decide +kernel) (by decide +kernel)⟩

end Tree

end ClosureWrap
