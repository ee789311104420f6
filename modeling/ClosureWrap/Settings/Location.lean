/-!
# Where the settings of a user are

The file lies below a directory for configurations, which the environment may name; otherwise it is
the usual one below the home directory.

## Main definitions

* `Path.join` — a path below a directory
* `SettingsFile.userPath?` — the path of a user's settings
-/

namespace ClosureWrap

/-- The path `rest` below the directory `base`. -/
def Path.join (base rest : String) : String :=
  if base.isEmpty then rest
  else if base.toList.getLast? = some '/' then base ++ rest
  else base ++ "/" ++ rest

/-- The path of a user's settings. A directory for configurations counts unless its name is
empty. -/
def SettingsFile.userPath? (configHome home : Option String) : Option String :=
  let base := match configHome.filter fun dir => !dir.isEmpty with
    | some dir => some dir
    | none => home.map fun dir => Path.join dir ".config"
  base.map fun dir => Path.join (Path.join dir "wrapref") "wrapref.toml"

end ClosureWrap
