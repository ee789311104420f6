import ClosureWrap.CommandLine.Arguments
import ClosureWrap.Diff.Unified
import ClosureWrap.Error
import ClosureWrap.Format.Json.Printer
import ClosureWrap.Workspace.Session

/-!
# Outcomes of the commands

What a command does with a file that has been opened, without any effect: what it prints, the text
that is to replace the file, and its status. The status is 0 if the refactoring is on offer and
succeeds, 2 if it is not on offer, and 1 if something else is wrong.

A place may have no line and column that can be written. To report it is a fault, which is kept
apart from every status.

## Main definitions

* `Outcome` — status, printed texts, and the new text of the file
* `Opened` — a file, a place in it, and the settings
* `Opened.list`, `Opened.apply`, `Opened.perform` — the commands
-/

namespace ClosureWrap

/-- What a command comes to. -/
structure Outcome where
  /-- The status with which it ends. -/
  status : Nat
  /-- What it prints. -/
  output : String := ""
  /-- What it complains about. -/
  complaint : String := ""
  /-- The text that is to replace the file. -/
  rewritten : Option String := none
  deriving DecidableEq, Repr

/-- The outcome of an error. -/
def Outcome.failure (e : ToolError) : Outcome where
  status := 1
  complaint := "Error: " ++ e.message ++ "\n"

/-! ### Listing -/

/-- A member of an object at a level. -/
def memberText (key value : String) : String := Json.quote key ++ ": " ++ value

/-- An action as an object at a level. -/
def Action.toJson (a : Action) (level : Nat) : String :=
  Json.bracketed "\x7b" "\x7d" level [
    memberText "name" (Json.quote a.name),
    memberText "description" (Json.quote a.description)]

/-- A descriptor as an object at a level. -/
def Descriptor.toJson (d : Descriptor) (level : Nat) : String :=
  Json.bracketed "\x7b" "\x7d" level [
    memberText "name" (Json.quote d.name),
    memberText "description" (Json.quote d.description),
    memberText "actions"
      (Json.bracketed "[" "]" (level + 1) (d.actions.map fun a => a.toJson (level + 2)))]

/-- Descriptors as an array. -/
def Descriptor.listJson (ds : List Descriptor) : String :=
  Json.bracketed "[" "]" 0 (ds.map fun d => d.toJson 1)

/-! ### The commands -/

/-- A file, a place in it, and the settings. -/
structure Opened where
  /-- The file. -/
  source : Concrete.Source
  /-- The place. -/
  locus : Locus
  /-- The settings. -/
  settings : Settings

namespace Opened

/-- The language service of the file alone. -/
def service (o : Opened) : LanguageService Id :=
  ((Session.start o.settings).step (.openOnly o.source)).service

/-- The refactorings on offer at the place. -/
def refactors (o : Opened) : List Descriptor := o.service.refactors o.source.name o.locus

/-- The wrapping is on offer at the place. -/
def isOffered (o : Opened) : Bool := o.refactors.any fun d => d.name == Wrap.refactorName

/-- Lists the refactorings on offer. -/
def list (o : Opened) : Outcome where
  status := if o.isOffered then 0 else 2
  output := Descriptor.listJson o.refactors ++ "\n"

/-- The report that the wrapping is not on offer, with line and column of the place. -/
def notOffered (o : Opened) : Except Fault Outcome := do
  let lineCol ← LineCol.written o.source.text o.locus.offset
  return {
    status := 2
    complaint :=
      "wrapref: refactor not applicable at " ++ o.source.name ++ ":" ++ lineCol ++ "\n" }

/-- The edits of the wrapping. -/
def edits (o : Opened) : Except RefactorError (Option EditInfo) :=
  o.service.edits {
    fileName := o.source.name
    formatOptions := {}
    locus := o.locus
    refactorName := Wrap.refactorName
    actionName := Wrap.actionName
    preferences := {} }

/-- The text after edits, made one after the other. -/
def rewrite (text : String) : List Edit → Except Fault (Except ToolError String)
  | [] => .ok (.ok text)
  | e :: es => do
    match ← e.apply text with
    | some text => rewrite text es
    | none =>
      let stop ← e.span.stop
      let range := Text.decimal e.span.start ++ ".." ++ Text.decimal stop
      return .error (.position range "edit span outside file")

/-- What becomes of the rewritten text. -/
def deliver (o : Opened) (mode : OutputMode) (text : String) : Outcome :=
  match mode with
  | .print => { status := 0, output := text }
  | .write => { status := 0, rewritten := some text }
  | .diff => { status := 0, output := Diff.unified o.source.name o.source.text text }

/-- Wraps the reference. The edits come in the order of the source and are made from the last to the
first, so that none moves the place of another. -/
def apply (o : Opened) (mode : OutputMode) : Except Fault Outcome :=
  if o.isOffered then
    match o.edits with
    | .error e => .ok (.failure (.refactor e))
    | .ok none => o.notOffered
    | .ok (some info) => do
      match ← rewrite o.source.text info.edits.reverse with
      | .ok text => return o.deliver mode text
      | .error e => return .failure e
  else o.notOffered

/-- Carries out a command. -/
def perform (o : Opened) : Command → Except Fault Outcome
  | .refactors => .ok o.list
  | .apply mode => o.apply mode

end Opened

end ClosureWrap
