import ClosureWrap.Service.Basic
import ClosureWrap.Typing.Structural
import ClosureWrap.Workspace.Files
import ClosureWrap.Workspace.Hover

/-!
# The language service of a workspace

Hovering, going to the definition and finding references, all from the binding of names within one
file. The workspace offers no refactorings of its own.

## Main definitions

* `Tree.symbolAt?` — the identifier or type reference at an offset
* `Tree.quickInfoAt`, `Tree.definitionsAt`, `Tree.referencesAt` — the answers within one file
* `Files.program`, `Files.service` — the program and the service of a workspace
-/

namespace ClosureWrap

namespace Tree

/-- The identifier or type reference at an offset. -/
def symbolAt? (t : Tree) (offset : Nat) : Option Nat :=
  (t.locate? root offset).filter fun n => t.kind n == .identifier || t.kind n == .typeReference

/-- The place of node `n`. -/
def locationOf (t : Tree) (n : Nat) : Location := ⟨t.fileName, t.span n⟩

/-- Where one goes to see declaration `n`: its name, or all of it if it has none. -/
def nameNode (t : Tree) (n : Nat) : Nat := (t.childWith? n .name).getD n

/-- What is shown about the symbol at an offset: its first declaration. -/
def quickInfoAt (t : Tree) (offset : Nat) : Option QuickInfo :=
  (t.symbolAt? offset).bind fun symbol =>
    (t.declarationsOf symbol).head?.map fun d => ⟨t.span symbol, t.display d⟩

/-- Where the symbol at an offset is declared. -/
def definitionsAt (t : Tree) (offset : Nat) : List Location :=
  match t.symbolAt? offset with
  | none => []
  | some symbol => (t.declarationsOf symbol).map fun d => t.locationOf (t.nameNode d)

/-- Node `n` is a use of `name`. A type reference with arguments carries its name as a child, which
is then the use. -/
def mentions (t : Tree) (name : String) (n : Nat) : Bool :=
  match t.kind n with
  | .identifier => t.textOf n == name
  | .typeReference => (t.childWith? n .name).isNone && t.textOf n == name
  | _ => false

/-- The uses of declaration `target` under `name`, in pre-order. -/
def uses (t : Tree) (target : Nat) (name : String) : List Nat :=
  t.descendants.filter fun n => t.mentions name n && (t.declarationsOf n).head? == some target

/-- Where the symbol at an offset is used: the uses of its first declaration. -/
def referencesAt (t : Tree) (offset : Nat) : List Location :=
  match (t.symbolAt? offset).bind fun symbol => (t.declarationsOf symbol).head? with
  | none => []
  | some target =>
    match t.declaredName? target with
    | none => []
    | some name => (t.uses target name).map t.locationOf

end Tree

namespace Files

/-- The program of a workspace. -/
def program (files : Files) : Program := ⟨files.get?, .structural⟩

/-- The language service of a workspace. -/
def service {m : Type → Type} [Monad m] (files : Files) : LanguageService m where
  program := return some files.program
  refactors _ _ := return []
  edits _ := return .ok none
  quickInfo name offset := return (files.get? name).bind fun t => t.quickInfoAt offset
  definition name offset := return ((files.get? name).map fun t => t.definitionsAt offset).getD []
  references name offset := return ((files.get? name).map fun t => t.referencesAt offset).getD []

end Files

end ClosureWrap
