import ClosureWrap.Format.Toml.Reader
import ClosureWrap.Settings.Json

/-!
# Settings in TOML

The settings of a user stand in a file of their own. Keys that are not known do not matter.

## Main definitions

* `SettingsFile.ofToml?`
-/

namespace ClosureWrap

namespace Toml

/-- A truth value. -/
def Value.bool? : Value → Option Bool
  | .bool b => some b
  | _ => none

/-- The name of a variant without content: a text, or a table with the name as its only key and
something empty as its value. -/
def Value.variant? : Value → Option String
  | .text s => some s
  | .table _ [(name, .table _ [])] => some name
  | .table _ [(name, .array [])] => some name
  | _ => none

/-- The value of a field that is named by any of the given keys; a field comes at most once. -/
def Members.field? {α : Type} (ms : Members) (names : List String) (read : Value → Option α) :
    Option (Option α) :=
  match ms.filter fun m => names.contains m.1 with
  | [] => some none
  | [m] => (read m.2).map some
  | _ => none

end Toml

/-- A layer of settings from the text of a file. -/
def SettingsFile.ofToml? (text : String) : Option SettingsFile := do
  let members ← Toml.parse? text
  match keys with
  | [enabled, strict, parens] =>
    return {
      enabled := ← members.field? enabled Toml.Value.bool?
      strictArgumentPosition := ← members.field? strict Toml.Value.bool?
      arrowParens := ← members.field? parens fun v => v.variant?.bind ArrowParens.ofName? }
  | _ => none

end ClosureWrap
