import ClosureWrap.Service.Basic

/-!
# A service with fixed answers

A host whose answers are written down beforehand, for watching what a decorated service asks of it.

## Main definitions

* `Checker.canned` — a checker with fixed answers
* `CannedEdits`, `LanguageService.canned` — the answers of a host
-/

namespace ClosureWrap

/-- A checker for which a node can be called if its text is in `callables`, and every call settles
on the given parameters. -/
def Checker.canned (callables : List String)
    (parameters : Option (List (ParameterSymbol NodeRef))) : Checker where
  typeOf t n := if t.textOf n ∈ callables then .single ⟨none, []⟩ else .unknown
  resolvedSignature _ _ := parameters.map fun ps => ⟨none, ps⟩

/-- The answer of a host to a request for edits. -/
inductive CannedEdits where
  /-- No edits. -/
  | none
  /-- One edit that puts a text at the start of the file. -/
  | insert (newText : String)
  /-- A refusal. -/
  | refuse

/-- The answer itself. -/
def CannedEdits.answer (request : EditRequest) :
    CannedEdits → Except RefactorError (Option EditInfo)
  | .none => .ok Option.none
  | .insert newText => .ok (some ⟨[⟨request.fileName, ⟨0, 0⟩, newText⟩], Option.none, Option.none⟩)
  | .refuse => .error (.precondition request.locus.offset "host refused")

/-- A host with fixed answers, which holds at most one tree. -/
def LanguageService.canned {m : Type → Type} [Monad m] (tree : Option Tree) (checker : Checker)
    (refactors : List Descriptor) (edits : CannedEdits) : LanguageService m where
  program := return tree.map fun t =>
    ⟨fun name => if name = t.fileName then some t else none, checker⟩
  refactors _ _ := return refactors
  edits request := return edits.answer request
  quickInfo _ offset := return some ⟨⟨offset, 1⟩, "host info"⟩
  definition fileName offset := return [⟨fileName, ⟨offset, 3⟩⟩]
  references _ _ := return []

end ClosureWrap
