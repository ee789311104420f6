import ClosureWrap.Closure

/-!
# Settings

Settings come in layers, an entry in a project's configuration and a file of the user. In a layer
every key may be left open; what stays open takes its default.

## Main definitions

* `SettingsFile`, `SettingsFile.merge` — a layer, and one layer on top of another
* `Settings`, `Settings.ofFile` — what holds in the end
* `FormatOptions`, `UserPreferences` — what an editor passes along with a request
-/

namespace ClosureWrap

/-- A layer of settings. -/
structure SettingsFile where
  /-- Whether the refactoring is offered. -/
  enabled : Option Bool := none
  /-- Whether only arguments of a call are wrapped, never what is called. -/
  strictArgumentPosition : Option Bool := none
  /-- When the parentheses around a single parameter are written. -/
  arrowParens : Option ArrowParens := none
  deriving DecidableEq, Repr

/-- What `primary` settles holds, and `fallback` settles the rest. -/
def SettingsFile.merge (fallback primary : SettingsFile) : SettingsFile where
  enabled := primary.enabled <|> fallback.enabled
  strictArgumentPosition := primary.strictArgumentPosition <|> fallback.strictArgumentPosition
  arrowParens := primary.arrowParens <|> fallback.arrowParens

/-- Two layers of which either may be absent. -/
def SettingsFile.mergeLayers : Option SettingsFile → Option SettingsFile → Option SettingsFile
  | some fallback, some primary => some (fallback.merge primary)
  | fallback, primary => primary <|> fallback

/-- The settings that hold. -/
structure Settings where
  /-- Whether the refactoring is offered. -/
  enabled : Bool := true
  /-- Whether only arguments of a call are wrapped, never what is called. -/
  strictArgumentPosition : Bool := true
  /-- When the parentheses around a single parameter are written. -/
  arrowParens : ArrowParens := .asNeeded
  deriving DecidableEq, Repr

/-- The settings of a layer, completed by the defaults. -/
def Settings.ofFile (file : SettingsFile) : Settings where
  enabled := file.enabled.getD true
  strictArgumentPosition := file.strictArgumentPosition.getD true
  arrowParens := file.arrowParens.getD .asNeeded

/-- How an editor formats; handed on as it is. -/
structure FormatOptions where
  /-- Width of an indentation. -/
  indentSize : Option Nat := none
  /-- Width of a tabulator. -/
  tabSize : Option Nat := none
  /-- Whether tabulators become blanks. -/
  convertTabsToSpaces : Option Bool := none
  /-- The end of a line. -/
  newLineCharacter : Option String := none
  deriving DecidableEq, Repr

/-- What a user prefers; handed on as it is. -/
structure UserPreferences where
  /-- Which quotes are used. -/
  quotePreference : Option String := none
  /-- Whether a reason is wanted where a refactoring is not offered. -/
  provideRefactorNotApplicableReason : Option Bool := none
  deriving DecidableEq, Repr

end ClosureWrap
