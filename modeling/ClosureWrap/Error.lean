import ClosureWrap.Locus
import ClosureWrap.Refactor.Error

/-!
# Errors of the tool

Everything that can go wrong outside the refactoring itself, with its wording.

## Main definitions

* `ReadProblem` — why a file cannot be read
* `ToolError`, `ToolError.message`
-/

namespace ClosureWrap

/-- Why a file cannot be read. -/
inductive ReadProblem where
  /-- There is no such file. -/
  | notFound
  /-- A directory stands there. -/
  | isDirectory
  /-- A file stands where a directory is needed. -/
  | notADirectory
  /-- The bytes are not a text. -/
  | invalidText
  /-- Any other cause, in the words of the system. -/
  | other (wording : String)
  deriving DecidableEq, Repr

/-- The wording of a problem. -/
def ReadProblem.message : ReadProblem → String
  | .notFound => "No such file or directory (os error 2)"
  | .isDirectory => "Is a directory (os error 21)"
  | .notADirectory => "Not a directory (os error 20)"
  | .invalidText => "stream did not contain valid UTF-8"
  | .other wording => wording

/-- Everything that can go wrong. -/
inductive ToolError where
  /-- A file is not part of the program. -/
  | unknownFile (fileName : String)
  /-- A file has no concrete tree. -/
  | unparsed (fileName : String)
  /-- A written position does not name a place in the file. -/
  | position (input problem : String)
  /-- Settings cannot be read. -/
  | config (problem : String)
  /-- A file cannot be read or written. -/
  | access (problem : ReadProblem)
  /-- The refactoring fails. -/
  | refactor (error : RefactorError)
  deriving DecidableEq, Repr

namespace ToolError

/-- The wording of an error; one of the refactoring speaks for itself. -/
def message : ToolError → String
  | .unknownFile fileName => "File not found in program: " ++ fileName
  | .unparsed fileName => "Failed to parse " ++ fileName
  | .position input problem => "Invalid position `" ++ input ++ "`: " ++ problem
  | .config problem => "Invalid configuration: " ++ problem
  | .access problem => "IO error: " ++ problem.message
  | .refactor error => error.message

/-- A refused position as an error. -/
def ofLocus (e : LocusError) : ToolError := .position e.input e.problem.message

end ToolError

end ClosureWrap
