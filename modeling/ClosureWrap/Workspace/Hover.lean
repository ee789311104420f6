import ClosureWrap.Binding
import ClosureWrap.Text.Blank

/-!
# What is shown about a declaration

A function is shown by its head: the text up to its body, without a final semicolon and without the
words that only say how it is published. A variable is shown with the word that introduces it, a
parameter with a remark, and a type alias with what it stands for.

## Main definitions

* `Tree.headText` — the text of a function up to its body
* `Tree.display` — the text shown about a declaration
-/

namespace ClosureWrap

namespace Tree

/-- The characters of function `n` up to its body, without blanks and semicolons at the end. -/
def headText (t : Tree) (n : Nat) : List Char :=
  let text := match t.childWith? n .body with
    | some body => (Text.slice? t.text (t.start n) (t.start body)).getD ""
    | none => t.textOf n
  Text.trimEnd (Text.dropEndWhile (· == ';') (Text.trimEnd text.toList))

/-- A keyword and a name, with the written type of declaration `n` if there is one. -/
def annotated (t : Tree) (n : Nat) (keyword name : String) : String :=
  match t.childWith? n .type with
  | some type => keyword ++ " " ++ name ++ ": " ++ t.textOf type
  | none => keyword ++ " " ++ name

/-- The word that introduces variable `n`: the first one of its statement. -/
def introducingWord (t : Tree) (n : Nat) : String :=
  match (t.parent n).bind fun p => Text.firstWord? (t.textOf p).toList with
  | some word => String.ofList word
  | none => "var"

/-- The text shown about declaration `n`. -/
def display (t : Tree) (n : Nat) : String :=
  let name := (t.declaredName? n).getD ""
  match t.kind n with
  | .functionDeclaration =>
    String.ofList (Text.withoutLead "declare ".toList
      (Text.withoutLead "export ".toList (t.headText n)))
  | .variableDeclaration => t.annotated n (t.introducingWord n) name
  | .parameter => t.annotated n "(parameter)" name
  | .typeAliasDeclaration =>
    match t.childWith? n .type with
    | some type => "type " ++ name ++ " = " ++ t.textOf type
    | none => "type " ++ name
  | _ => t.textOf n

end Tree

end ClosureWrap
