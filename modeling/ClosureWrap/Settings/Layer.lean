import ClosureWrap.Error
import ClosureWrap.Settings.Toml

/-!
# Loading a layer of settings

A file that is not there leaves everything open. A file that cannot be read, or that does not hold
settings, is an error.

## Main definitions

* `SettingsFile.ofReading` — the layer in a file, from the attempt to read it
* `Settings.ofReading` — the settings that hold, whether or not the file was asked for by name
-/

namespace ClosureWrap

/-- The layer in a file, from the attempt to read it. -/
def SettingsFile.ofReading : Except ReadProblem String → Except ToolError (Option SettingsFile)
  | .error .notFound => .ok none
  | .error problem => .error (.access problem)
  | .ok text =>
    match SettingsFile.ofToml? text with
    | some file => .ok (some file)
    | none => .error (.config "the file does not hold settings")

/-- The settings that hold, from the attempt to read their file. A file that was asked for by its
path (`named`) has to be there. -/
def Settings.ofReading (named : Option String) (reading : Except ReadProblem String) :
    Except ToolError Settings := do
  match ← SettingsFile.ofReading reading, named with
  | some file, _ => .ok (.ofFile file)
  | none, none => .ok (.ofFile {})
  | none, some path => .error (.config ("config file not found: " ++ path))

end ClosureWrap
