import ClosureWrap.Text.Slice
import ClosureWrap.Text.Span

/-!
# Descriptors, edits and locations

What a language service hands back: the refactorings on offer, the edits that carry one out, and
places in files.

## Main definitions

* `Descriptor`, `Action` — a refactoring on offer, and what can be done with it
* `Edit`, `Edit.apply` — the replacement of a span, and the text after it
* `EditInfo` — all that carries out a refactoring
* `Location`, `QuickInfo` — a place, and what is shown there
-/

namespace ClosureWrap

/-- Something that can be done with a refactoring. -/
structure Action where
  /-- Name by which it is asked for. -/
  name : String
  /-- Title shown to the user. -/
  description : String
  deriving DecidableEq, Repr

/-- A refactoring on offer. -/
structure Descriptor where
  /-- Name by which it is asked for. -/
  name : String
  /-- Title shown to the user. -/
  description : String
  /-- What can be done with it. -/
  actions : List Action
  deriving DecidableEq, Repr

/-- Whether an action of the given name is among those of the refactoring. -/
def Descriptor.hasAction (d : Descriptor) (name : String) : Bool :=
  d.actions.any fun a => a.name == name

/-- The replacement of a span of a file. -/
structure Edit where
  /-- File that is changed. -/
  fileName : String
  /-- What is replaced. -/
  span : Span
  /-- What stands there afterwards. -/
  newText : String
  deriving DecidableEq, Repr

/-- The text after the replacement. There is none if the span is not a slice of the text. -/
def Edit.apply (e : Edit) (text : String) : Except Fault (Option String) :=
  e.span.stop.map fun stop =>
    (Text.slice? text 0 e.span.start).bind fun before =>
      (Text.slice? text stop (Text.byteLength text)).map fun after =>
        before ++ e.newText ++ after

/-- All that carries out a refactoring. -/
structure EditInfo where
  /-- The replacements in the order of the source. -/
  edits : List Edit
  /-- File in which something is to be renamed afterwards. -/
  renameFilename : Option String := none
  /-- Where something is to be renamed afterwards. -/
  renameLocation : Option Nat := none
  deriving DecidableEq, Repr

/-- A place in a file. -/
structure Location where
  /-- The file. -/
  fileName : String
  /-- The place. -/
  span : Span
  deriving DecidableEq, Repr

/-- What is shown about the symbol at a place. -/
structure QuickInfo where
  /-- Where the symbol is. -/
  span : Span
  /-- The text shown. -/
  display : String
  deriving DecidableEq, Repr

end ClosureWrap
