import ClosureWrap.CommandLine.Outcome
import ClosureWrap.Settings.Layer
import ClosureWrap.Storage

/-!
# Running a command

A command needs files to read and to write, and a parser. They are given as operations of a monad,
so that a run in memory and one on a real system are the same program. First the settings are read,
then the file, then the place in it; the file is parsed last.

## Main definitions

* `Surroundings` — the operations that a run needs
* `Invocation.run`, `CommandLine.run` — a run
* `Surroundings.inMemory` — the operations on a `Storage`
-/

namespace ClosureWrap

/-- The operations that a run needs. -/
structure Surroundings (m : Type → Type) where
  /-- The text of a file. -/
  read : String → m (Except ReadProblem String)
  /-- Replaces the text of a file. -/
  write : String → String → m (Except ReadProblem Unit)
  /-- The concrete tree of a file with the given name and text. -/
  parse : String → String → m (Option Concrete.Source)
  /-- Path of the settings that count unless others are named. -/
  userSettings : Option String

namespace Invocation

variable {m : Type → Type} [Monad m]

/-- The settings that hold for a run. -/
def settings (inv : Invocation) (env : Surroundings m) : m (Except ToolError Settings) := do
  match inv.config <|> env.userSettings with
  | some path => return Settings.ofReading inv.config (← env.read path)
  | none => return .ok (.ofFile {})

/-- Reads the file and finds the place in it. -/
def openFile (inv : Invocation) (env : Surroundings m) (settings : Settings) :
    m (Except Fault (Except ToolError Opened)) := do
  match ← env.read inv.file with
  | .error problem => return .ok (.error (.access problem))
  | .ok text =>
    match Locus.parse text inv.place with
    | .error fault => return .error fault
    | .ok (.error e) => return .ok (.error (.ofLocus e))
    | .ok (.ok locus) =>
      match ← env.parse inv.file text with
      | none => return .ok (.error (.unparsed inv.file))
      | some source => return .ok (.ok ⟨source, locus, settings⟩)

/-- Replaces the file by the rewritten text, if there is one. -/
def store (inv : Invocation) (env : Surroundings m) (outcome : Outcome) : m Outcome := do
  match outcome.rewritten with
  | none => return outcome
  | some text =>
    match ← env.write inv.file text with
    | .ok () => return outcome
    | .error problem => return .failure (.access problem)

/-- Runs a command. -/
def run (inv : Invocation) (env : Surroundings m) : m (Except Fault Outcome) := do
  match ← inv.settings env with
  | .error e => return .ok (.failure e)
  | .ok settings =>
    match ← inv.openFile env settings with
    | .error fault => return .error fault
    | .ok (.error e) => return .ok (.failure e)
    | .ok (.ok opened) =>
      match opened.perform inv.command with
      | .error fault => return .error fault
      | .ok outcome => return .ok (← inv.store env outcome)

end Invocation

/-- The outcome of arguments that are not used as they should be. -/
def Outcome.usage : Outcome where
  status := 2
  complaint :=
    "usage: wrapref [--config PATH] (refactors | apply [--write | --diff]) FILE --at PLACE\n"

/-- The name of the program and its version. -/
def versionText : String := "wrapref 0.1.0\n"

/-- Runs what a list of arguments asks for. -/
def CommandLine.run {m : Type → Type} [Monad m] (args : List String) (env : Surroundings m) :
    m (Except Fault Outcome) :=
  match Request.parse? args with
  | none => return .ok .usage
  | some .version => return .ok { status := 0, output := versionText }
  | some (.invoke inv) => inv.run env

/-- The operations on files in memory. -/
def Surroundings.inMemory (parse : String → String → Option Concrete.Source)
    (userSettings : Option String) : Surroundings (StateM Storage) where
  read path := fun s => (s.read path, s)
  write path text := fun s =>
    match s.write path text with
    | .ok s' => (.ok (), s')
    | .error problem => (.error problem, s)
  parse name text := return parse name text
  userSettings := userSettings

end ClosureWrap
