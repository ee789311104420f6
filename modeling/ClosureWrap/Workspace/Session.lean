import ClosureWrap.Lowering
import ClosureWrap.Service.Decorate
import ClosureWrap.Workspace.Service

/-!
# Sessions

A session is a workspace whose service is decorated, as it goes through changes: files are added,
replaced and removed, the whole workspace is replaced by one file, and the settings are exchanged.

## Main definitions

* `Session`, `Session.service` — the files and settings, and the decorated service
* `Session.Step`, `Session.step`, `Session.run` — the changes
-/

namespace ClosureWrap

/-- The state of a session. -/
structure Session where
  /-- The files. -/
  files : Files
  /-- The settings of the refactoring. -/
  settings : Settings

namespace Session

/-- A session with no files. -/
def start (settings : Settings) : Session := ⟨.empty, settings⟩

/-- The service of the files, with the refactoring added. -/
def service {m : Type → Type} [Monad m] (s : Session) : LanguageService m :=
  s.files.service.decorate s.settings

/-- A change to a session. -/
inductive Step where
  /-- Adds a file, or replaces it. -/
  | add (source : Concrete.Source)
  /-- Replaces all files by one. -/
  | openOnly (source : Concrete.Source)
  /-- Removes a file. -/
  | remove (name : String)
  /-- Exchanges the settings. -/
  | configure (settings : Settings)

/-- The session after a change. -/
def step (s : Session) : Step → Session
  | .add source => { s with files := s.files.insert source.name (Tree.ofSource source) }
  | .openOnly source => { s with files := Files.empty.insert source.name (Tree.ofSource source) }
  | .remove name => { s with files := s.files.erase name }
  | .configure settings => { s with settings := settings }

/-- The session after several changes. -/
def run (s : Session) (steps : List Step) : Session := steps.foldl step s

end Session

end ClosureWrap
