import ClosureWrap.Format.Json.Reader
import ClosureWrap.Settings.Basic

/-!
# Settings in JSON

The settings of a project stand in an entry of its configuration, next to keys that do not concern
them. What an editor passes along with a request has the same form.

## Main definitions

* `ArrowParens.ofName?` — the choice with a given name
* `SettingsFile.ofJson?`, `FormatOptions.ofJson?`, `UserPreferences.ofJson?`
-/

namespace ClosureWrap

/-- The choice with a given name. -/
def ArrowParens.ofName? : String → Option ArrowParens
  | "as-needed" => some .asNeeded
  | "always" => some .always
  | _ => none

/-- The keys of the settings, each with its second spelling. -/
def SettingsFile.keys : List (List String) := [
  ["enabled"],
  ["strict_argument_position", "strictArgumentPosition"],
  ["arrow_parens", "arrowParens"]]

/-- A layer of settings from the text of an entry. -/
def SettingsFile.ofJson? (text : String) : Option SettingsFile := do
  match ← (← Json.parse? text).record? keys with
  | [enabled, strict, parens] =>
    return {
      enabled := ← enabled.optional? Json.bool?
      strictArgumentPosition := ← strict.optional? Json.bool?
      arrowParens := ← parens.optional? fun j => j.variant?.bind ArrowParens.ofName? }
  | _ => none

/-- Widths fit in 32 bits. -/
def FormatOptions.widthLimit : Nat := Nat.pow 2 32

/-- Formatting options from their text. -/
def FormatOptions.ofJson? (text : String) : Option FormatOptions := do
  match ← (← Json.parse? text).record?
      [["indentSize"], ["tabSize"], ["convertTabsToSpaces"], ["newLineCharacter"]] with
  | [indent, tab, convert, newLine] =>
    return {
      indentSize := ← indent.optional? (Json.nat? widthLimit)
      tabSize := ← tab.optional? (Json.nat? widthLimit)
      convertTabsToSpaces := ← convert.optional? Json.bool?
      newLineCharacter := ← newLine.optional? Json.text? }
  | _ => none

/-- Preferences from their text. -/
def UserPreferences.ofJson? (text : String) : Option UserPreferences := do
  match ← (← Json.parse? text).record?
      [["quotePreference"], ["provideRefactorNotApplicableReason"]] with
  | [quotes, reason] =>
    return {
      quotePreference := ← quotes.optional? Json.text?
      provideRefactorNotApplicableReason := ← reason.optional? Json.bool? }
  | _ => none

end ClosureWrap
