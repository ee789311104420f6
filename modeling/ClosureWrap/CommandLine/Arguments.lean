import ClosureWrap.Text.Blank

/-!
# Arguments of the command line

Two commands work on a file at a place: one lists the refactorings on offer there, the other carries
out the wrapping. An option comes at most once; its value stands behind an equals sign or is the
next argument, which then must not look like an option. After a bare double dash all arguments are
taken as they are. A file for the settings may be named before the command and after it, and the one
after it counts.

## Main definitions

* `Invocation`, `Command`, `OutputMode` — what is asked for
* `Request`, `Request.parse?` — the meaning of a list of arguments, if they have one
-/

namespace ClosureWrap

/-- What is done with the rewritten text. -/
inductive OutputMode where
  /-- It is printed. -/
  | print
  /-- It replaces the file. -/
  | write
  /-- Its difference from the file is printed. -/
  | diff
  deriving DecidableEq, Repr

/-- A command. -/
inductive Command where
  /-- Lists the refactorings on offer. -/
  | refactors
  /-- Wraps the reference. -/
  | apply (mode : OutputMode)
  deriving DecidableEq, Repr

/-- A command with what it works on. -/
structure Invocation where
  /-- The command. -/
  command : Command
  /-- Path of the source file. -/
  file : String
  /-- The place in the file, as it was written. -/
  place : String
  /-- Path of the settings, if they are named. -/
  config : Option String
  deriving DecidableEq, Repr

/-- What a list of arguments asks for. -/
inductive Request where
  /-- The version of the program. -/
  | version
  | invoke (invocation : Invocation)
  deriving DecidableEq, Repr

namespace CommandLine

/-- The form of an argument. -/
inductive Word where
  /-- The bare double dash. -/
  | escape
  /-- An option behind two dashes, with the value behind its equals sign. -/
  | long (name : String) (value : Option String)
  /-- Options of one letter behind a dash, by the first of them. -/
  | short (first : Char)
  /-- Anything else; a single dash too. -/
  | plain (word : String)
  deriving DecidableEq, Repr

/-- The form of an argument. -/
def Word.ofString (arg : String) : Word :=
  match arg.toList with
  | ['-', '-'] => .escape
  | '-' :: '-' :: rest =>
    match Text.splitOnce? ['='] rest with
    | some (name, value) => .long (String.ofList name) (some (String.ofList value))
    | none => .long (String.ofList rest) none
  | '-' :: c :: _ => .short c
  | _ => .plain arg

/-- What the arguments of a command have settled so far. -/
structure Draft where
  file : Option String := none
  place : Option String := none
  config : Option String := none
  write : Bool := false
  diff : Bool := false

/-- An option that takes a value. -/
def takesValue (name : String) : Bool := name = "at" || name = "config"

/-- A path, which is not empty, for what is not settled yet. -/
def pathOnce? (settled : Option String) (path : String) : Option String :=
  if settled.isSome ∨ path.isEmpty then none else some path

namespace Draft

/-- With the value of an option. -/
def withValue? (d : Draft) (name value : String) : Option Draft :=
  if name = "at" then
    if d.place.isSome then none else some { d with place := some value }
  else if name = "config" then (pathOnce? d.config value).map fun p => { d with config := some p }
  else none

/-- With an option that has no value; only the command that rewrites has such. -/
def withFlag? (d : Draft) (rewrites : Bool) (name : String) : Option Draft :=
  if !rewrites then none
  else if name = "write" ∧ !d.write then some { d with write := true }
  else if name = "diff" ∧ !d.diff then some { d with diff := true }
  else none

/-- With an argument that is no option. -/
def withFile? (d : Draft) (path : String) : Option Draft :=
  (pathOnce? d.file path).map fun p => { d with file := some p }

/-- The arguments of a command added to a draft; `escaped` tells whether all are taken as they
are. -/
def extend? (rewrites : Bool) : (escaped : Bool) → Draft → List String → Option Draft
  | _, d, [] => some d
  | true, d, arg :: args => (d.withFile? arg).bind fun d => extend? rewrites true d args
  | false, d, arg :: args =>
    match Word.ofString arg with
    | .escape => extend? rewrites true d args
    | .short _ => none
    | .plain path => (d.withFile? path).bind fun d => extend? rewrites false d args
    | .long name (some value) =>
      (d.withValue? name value).bind fun d => extend? rewrites false d args
    | .long name none =>
      if takesValue name then
        match args with
        | [] => none
        | next :: args =>
          match Word.ofString next with
          | .plain value => (d.withValue? name value).bind fun d => extend? rewrites false d args
          | _ => none
      else (d.withFlag? rewrites name).bind fun d => extend? rewrites false d args

/-- What is done with the rewritten text; the two options exclude each other. -/
def mode? (d : Draft) : Option OutputMode :=
  match d.write, d.diff with
  | true, true => none
  | true, false => some .write
  | false, true => some .diff
  | false, false => some .print

/-- The finished invocation; file and place are required. -/
def finish? (d : Draft) (rewrites : Bool) (config : Option String) : Option Invocation := do
  let mode ← d.mode?
  return {
    command := if rewrites then .apply mode else .refactors
    file := ← d.file
    place := ← d.place
    config := d.config <|> config }

end Draft

/-- A command with its arguments. -/
def command? (name : String) (config : Option String) (args : List String) : Option Request := do
  let rewrites ←
    if name = "refactors" then some false else if name = "apply" then some true else none
  let d ← Draft.extend? rewrites false {} args
  return .invoke (← d.finish? rewrites config)

/-- The request of arguments, with the path of the settings if it was already named. -/
def request? (config : Option String) : List String → Option Request
  | [] => none
  | arg :: args =>
    match Word.ofString arg with
    | .plain name => command? name config args
    | .short c => if c = 'V' then some .version else none
    | .long "version" none => some .version
    | .long "config" (some value) =>
      (pathOnce? config value).bind fun p => request? (some p) args
    | .long "config" none =>
      match args with
      | [] => none
      | next :: args =>
        match Word.ofString next with
        | .plain value => (pathOnce? config value).bind fun p => request? (some p) args
        | _ => none
    | _ => none

end CommandLine

/-- The meaning of a list of arguments. None if they are not used as they should be. -/
def Request.parse? (args : List String) : Option Request := CommandLine.request? none args

end ClosureWrap
