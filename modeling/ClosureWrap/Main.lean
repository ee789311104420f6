import ClosureWrap.CommandLine.Run
import ClosureWrap.Concrete.Table
import ClosureWrap.Settings.Location

/-!
# The command line program

Connects the commands to the files of the system. The concrete tree of a source file is read from a
table beside it, under the name of the file with `.tree` or, for markup, `.treex` added.
-/

namespace ClosureWrap

/-- The number of a system error; some operations report it negated. -/
def errorNumber (code : UInt32) : Nat :=
  if code.toNat < Nat.pow 2 31 then code.toNat else Nat.pow 2 32 - code.toNat

/-- The cause behind an error of the system. -/
def ReadProblem.ofSystem (e : IO.Error) : ReadProblem :=
  match e with
  | .noFileOrDirectory .. => .notFound
  | .inappropriateType _ code details =>
    if errorNumber code = 21 then .isDirectory
    else if errorNumber code = 20 then .notADirectory
    else .other details
  | _ => .other (toString e)

/-- The text of a file. -/
def readFile (path : String) : IO (Except ReadProblem String) := do
  try
    match String.fromUTF8? (← IO.FS.readBinFile path) with
    | some text => return .ok text
    | none => return .error .invalidText
  catch e => return .error (.ofSystem e)

/-- Replaces the text of a file. -/
def writeFile (path text : String) : IO (Except ReadProblem Unit) := do
  try
    IO.FS.writeFile path text
    return .ok ()
  catch e => return .error (.ofSystem e)

/-- The concrete tree of a file, from the table beside it. -/
def readTree (name text : String) : IO (Option Concrete.Source) := do
  let ending := match Concrete.dialectOf name with
    | .ts => ".tree"
    | .tsx => ".treex"
  match ← readFile (name ++ ending) with
  | .ok table => return (Concrete.parseTable? table).map fun rows => .ofTable name text rows
  | .error _ => return none

end ClosureWrap

open ClosureWrap in
/-- Runs what the arguments ask for. -/
def main (args : List String) : IO UInt32 := do
  let env : Surroundings IO := {
    read := readFile
    write := writeFile
    parse := readTree
    userSettings := SettingsFile.userPath? (← IO.getEnv "XDG_CONFIG_HOME") (← IO.getEnv "HOME") }
  match ← CommandLine.run args env with
  | .ok outcome =>
    IO.print outcome.output
    IO.eprint outcome.complaint
    return outcome.status.toUInt32
  | .error _ =>
    IO.eprintln "a position has no line and column, or lies past the largest address"
    return 101
