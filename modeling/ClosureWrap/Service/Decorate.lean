import ClosureWrap.Refactor.Wrap
import ClosureWrap.Service.Basic

/-!
# Decorating a language service

The refactoring is added to a language service from outside. The decorated service lists the
refactoring after those of the host and makes its edits itself; every other question goes to the
host. The files are those of the host.

## Main definitions

* `Settings.offers` — whether the refactoring is offered at a place of a file
* `Settings.ownEdit?` — the edit for a request, if the file is known
* `LanguageService.decorate` — the decorated service
-/

namespace ClosureWrap

/-- Whether the refactoring is offered at a place of a file of the program. -/
def Settings.offers (settings : Settings) (program : Option Program) (fileName : String)
    (locus : Locus) : Bool :=
  settings.enabled && program.any fun p =>
    (p.sourceTree fileName).any fun t =>
      Wrap.isApplicable p.checker t settings.strictArgumentPosition locus.offset

/-- The refactorings that a host lists, followed by this one if it is offered and not yet listed. -/
def Settings.extend (settings : Settings) (program : Option Program) (fileName : String)
    (locus : Locus) (listed : List Descriptor) : List Descriptor :=
  if settings.offers program fileName locus &&
      !listed.any fun d => d.name == Wrap.descriptor.name then
    listed ++ [Wrap.descriptor]
  else
    listed

/-- The edit for a request, if the file is known. -/
def Settings.ownEdit? (settings : Settings) (program : Option Program) (request : EditRequest) :
    Option (Except RefactorError Edit) :=
  program.bind fun p => (p.sourceTree request.fileName).map fun t =>
    Wrap.buildEdit p.checker t settings.strictArgumentPosition settings.arrowParens
      request.locus.offset

/-- The service `s` with the refactoring added. A request for edits is left to the host if it is
about another action, if the refactoring is switched off, or if the file is not known. The host is
asked for its program only where the answer depends on it. -/
def LanguageService.decorate {m : Type → Type} [Monad m] (settings : Settings)
    (s : LanguageService m) : LanguageService m where
  program := s.program
  refactors fileName locus := do
    let listed ← s.refactors fileName locus
    if settings.enabled then
      return settings.extend (← s.program) fileName locus listed
    else
      return listed
  edits request :=
    if request.actionName = Wrap.actionName ∧ settings.enabled then do
      match settings.ownEdit? (← s.program) request with
      | some edit => return edit.map fun e => some ⟨[e], none, none⟩
      | none => s.edits request
    else
      s.edits request
  quickInfo := s.quickInfo
  definition := s.definition
  references := s.references

end ClosureWrap
