import ClosureWrap.Locus
import ClosureWrap.Refactor.Edit
import ClosureWrap.Refactor.Error
import ClosureWrap.Settings.Basic
import ClosureWrap.Typing.Signature

/-!
# Language services

A language service answers an editor's questions about the files of a program. Its operations may
have effects of their own, so a service is given over a monad; over the identity it is a collection
of plain functions. To be asked for the program is an operation like any other; the program itself
is a snapshot, which is looked at without effect.

A service can be watched: `LanguageService.logged` is the same service that also keeps a list of the
calls it received.

## Main definitions

* `Program` — the trees of the files, with a checker for them
* `EditRequest` — what is passed along when edits are asked for
* `LanguageService` — the operations
* `Call`, `LanguageService.logged` — a call that a service received, and a service that keeps them
-/

namespace ClosureWrap

/-- A snapshot of the files, and the checker for them. -/
structure Program where
  /-- The tree of a file, if the file is known. -/
  sourceTree : String → Option Tree
  /-- The checker for all files. -/
  checker : Checker

/-- What is passed along when edits are asked for. -/
structure EditRequest where
  /-- The file. -/
  fileName : String
  /-- How the editor formats. -/
  formatOptions : FormatOptions
  /-- Where the cursor is. -/
  locus : Locus
  /-- Name of the refactoring. -/
  refactorName : String
  /-- Name of the action. -/
  actionName : String
  /-- What the user prefers. -/
  preferences : UserPreferences
  deriving DecidableEq, Repr

/-- The operations of a language service. -/
structure LanguageService (m : Type → Type) where
  /-- The files, if there are any. -/
  program : m (Option Program)
  /-- The refactorings on offer at a place. -/
  refactors : String → Locus → m (List Descriptor)
  /-- The edits that carry out a refactoring. -/
  edits : EditRequest → m (Except RefactorError (Option EditInfo))
  /-- What is shown about the symbol at an offset. -/
  quickInfo : String → Nat → m (Option QuickInfo)
  /-- Where the symbol at an offset is declared. -/
  definition : String → Nat → m (List Location)
  /-- Where the symbol at an offset is used. -/
  references : String → Nat → m (List Location)

/-- A call that a service received. -/
inductive Call where
  | program
  | refactors (fileName : String) (locus : Locus)
  | edits (request : EditRequest)
  | quickInfo (fileName : String) (offset : Nat)
  | definition (fileName : String) (offset : Nat)
  | references (fileName : String) (offset : Nat)
  deriving DecidableEq, Repr

/-- An answer together with the log in which its call is kept. -/
def Call.record {m : Type → Type} [Monad m] {α : Type} (call : Call) (answer : m α) :
    StateT (List Call) m α := fun log => do
  let a ← answer
  return (a, log ++ [call])

/-- The same service, which keeps the calls that it received in order. -/
def LanguageService.logged {m : Type → Type} [Monad m] (s : LanguageService m) :
    LanguageService (StateT (List Call) m) where
  program := Call.program.record s.program
  refactors f l := (Call.refactors f l).record (s.refactors f l)
  edits r := (Call.edits r).record (s.edits r)
  quickInfo f o := (Call.quickInfo f o).record (s.quickInfo f o)
  definition f o := (Call.definition f o).record (s.definition f o)
  references f o := (Call.references f o).record (s.references f o)

end ClosureWrap
