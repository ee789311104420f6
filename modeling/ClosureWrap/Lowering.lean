import ClosureWrap.Concrete.Basic
import ClosureWrap.Tree.Basic

/-!
# From concrete syntax to trees

The tree of a file is a projection of its concrete tree. Of the nodes that the grammar names and
that are really there, comments are dropped with all that is below them, a few bracketing nodes are
dropped while what is below them moves up, and the others are kept with a kind and a role of their
own. What is below an identifier or a literal is of no interest.

Where a single bare identifier stands for a whole parameter list, it becomes a parameter with that
identifier as its name.

The projection is written as a function from forests to forests. Numbering the kept nodes in
pre-order, after the root, gives the rows of the tree.

## Main definitions

* `Lowering.Treatment`, `Lowering.treatment` — what becomes of a concrete node
* `Lowering.roleOf?` — the role that a field of the grammar means
* `Lowering.project` — the kept nodes as a forest
* `Lowering.rows`, `Tree.ofSource` — the numbered nodes, and the tree of a file
-/

namespace ClosureWrap

namespace Lowering

/-- What becomes of a concrete node. -/
inductive Treatment where
  /-- Dropped with everything below it. -/
  | skip
  /-- Dropped, but what is below it moves up. -/
  | splice
  /-- Kept as a node of the given kind. -/
  | keep (kind : Kind)
  deriving DecidableEq, Repr

/-- The concrete kinds that are told apart, apart from type names. -/
def keptKinds : List (String × Kind) := [
  ("expression_statement", .expressionStatement),
  ("function_declaration", .functionDeclaration),
  ("function_signature", .functionDeclaration),
  ("generator_function_declaration", .functionDeclaration),
  ("lexical_declaration", .variableStatement),
  ("variable_declaration", .variableStatement),
  ("variable_declarator", .variableDeclaration),
  ("type_alias_declaration", .typeAliasDeclaration),
  ("required_parameter", .parameter),
  ("optional_parameter", .parameter),
  ("statement_block", .block),
  ("return_statement", .returnStatement),
  ("identifier", .identifier),
  ("property_identifier", .identifier),
  ("shorthand_property_identifier", .identifier),
  ("call_expression", .callExpression),
  ("arrow_function", .arrowFunction),
  ("function_expression", .functionExpression),
  ("function", .functionExpression),
  ("member_expression", .propertyAccessExpression),
  ("parenthesized_expression", .parenthesizedExpression),
  ("string", .stringLiteral),
  ("template_string", .stringLiteral),
  ("number", .numericLiteral),
  ("function_type", .functionType),
  ("union_type", .unionType),
  ("intersection_type", .intersectionType),
  ("parenthesized_type", .parenthesizedType),
  ("type_identifier", .typeReference),
  ("generic_type", .typeReference),
  ("nested_type_identifier", .typeReference),
  ("predefined_type", .keywordType)]

/-- The concrete kinds that only bracket what is below them. -/
def splicedKinds : List String :=
  ["arguments", "formal_parameters", "type_annotation", "ambient_declaration"]

/-- What becomes of a node with this concrete kind and field. A type name that stands as the name of
something is an identifier, any other is a reference to a type. -/
def treatment (kind : String) (field : Option String) : Treatment :=
  if kind = "comment" then .skip
  else if kind ∈ splicedKinds then .splice
  else if kind = "type_identifier" ∧ field = some "name" then .keep .identifier
  else .keep ((keptKinds.lookup kind).getD .unknown)

/-- The fields that mean the same role in every node. -/
def fieldRoles : List (String × Role) := [
  ("name", .name),
  ("pattern", .name),
  ("function", .callee),
  ("arguments", .argument),
  ("parameters", .parameter),
  ("parameter", .parameter),
  ("type", .type),
  ("return_type", .returnType),
  ("value", .initializer),
  ("body", .body),
  ("object", .object),
  ("property", .property)]

/-- The role that a field means in a node of the given concrete kind. The value of a type alias is a
type, any other value is an initializer. -/
def roleOf? (field parentKind : String) : Option Role :=
  if field = "value" ∧ parentKind = "type_alias_declaration" then some .type
  else fieldRoles.lookup field

/-- The role that a bracketing node gives to what is below it: argument lists and parameter lists
give their own, the others hand on the role `inherited` that they stand in. -/
def splicedRole (kind : String) (inherited : Option Role) : Option Role :=
  if kind = "arguments" then some .argument
  else if kind = "formal_parameters" then some .parameter
  else inherited

/-- A kept node: what it is, what it is to the kept node above it, and where it is. -/
structure Kept where
  /-- What the node is. -/
  kind : Kind
  /-- What the node is to its parent. -/
  role : Option Role
  /-- Offset of the first byte. -/
  start : Nat
  /-- Offset just past the last byte. -/
  stop : Nat
  deriving DecidableEq, Repr

/-- The kept nodes of a row of concrete nodes that stand below a node of kind `parentKind`. If a
bracketing node was dropped right above, `given` is the role that it gives. -/
def project (parentKind : String) (given : Option Role) :
    Forest Concrete.Label → Forest Kept
  | .nil => .nil
  | .cons c below rest =>
    let later := project parentKind given rest
    if !c.named || c.missing then later
    else
      let role := given <|> c.field.bind fun f => roleOf? f parentKind
      match treatment c.kind c.field with
      | .skip => later
      | .splice => (project c.kind (splicedRole c.kind role) below).append later
      | .keep kind =>
        if c.field = some "parameter" ∧ kind = .identifier then
          .cons ⟨.parameter, some .parameter, c.start, c.stop⟩
            (.cons ⟨.identifier, some .name, c.start, c.stop⟩ .nil .nil) later
        else
          .cons ⟨kind, role, c.start, c.stop⟩
            (if kind.isLeaf then .nil else project c.kind none below) later

/-- The rows of a forest that arrives below node `parent`, when `next` is the next free number. -/
def rows (parent next : Nat) : Forest Kept → List Tree.Row
  | .nil => []
  | .cons k below rest =>
    ⟨parent, k.kind, k.role, k.start, k.stop⟩ ::
      (rows next (next + 1) below ++ rows parent (next + 1 + below.size) rest)

end Lowering

/-- The tree of a source file. -/
def Tree.ofSource (source : Concrete.Source) : Tree :=
  Tree.ofRows source.name source.text .sourceFile
    (Lowering.rows Tree.root 1 (Lowering.project source.rootKind none source.trees))

end ClosureWrap
