/-!
# Kinds and roles of nodes

The tree of a source file keeps just the distinctions that name resolution and the refactoring need.
A node has a kind, and it has a role in its parent.

## Main definitions

* `Kind`, `Kind.name` — what a node is, and how the kind is written
* `Kind.isFunctionLike`, `Kind.isScope`, `Kind.isLeaf` — classes of kinds
* `Role` — what a node is to its parent
-/

namespace ClosureWrap

/-- What a node of the tree is. -/
inductive Kind where
  | sourceFile
  | expressionStatement
  | functionDeclaration
  | variableStatement
  | variableDeclaration
  | typeAliasDeclaration
  | parameter
  | block
  | returnStatement
  | identifier
  | callExpression
  | arrowFunction
  | functionExpression
  | propertyAccessExpression
  | parenthesizedExpression
  | stringLiteral
  | numericLiteral
  | functionType
  | unionType
  | intersectionType
  | parenthesizedType
  | typeReference
  | keywordType
  /-- Anything that is not told apart further. -/
  | unknown
  deriving DecidableEq, Repr

namespace Kind

/-- Every kind, in the order of declaration. -/
def all : List Kind := [
  .sourceFile, .expressionStatement, .functionDeclaration, .variableStatement,
  .variableDeclaration, .typeAliasDeclaration, .parameter, .block, .returnStatement, .identifier,
  .callExpression, .arrowFunction, .functionExpression, .propertyAccessExpression,
  .parenthesizedExpression, .stringLiteral, .numericLiteral, .functionType, .unionType,
  .intersectionType, .parenthesizedType, .typeReference, .keywordType, .unknown]

/-- The written name of a kind. -/
def name : Kind → String
  | .sourceFile => "SourceFile"
  | .expressionStatement => "ExpressionStatement"
  | .functionDeclaration => "FunctionDeclaration"
  | .variableStatement => "VariableStatement"
  | .variableDeclaration => "VariableDeclaration"
  | .typeAliasDeclaration => "TypeAliasDeclaration"
  | .parameter => "Parameter"
  | .block => "Block"
  | .returnStatement => "ReturnStatement"
  | .identifier => "Identifier"
  | .callExpression => "CallExpression"
  | .arrowFunction => "ArrowFunction"
  | .functionExpression => "FunctionExpression"
  | .propertyAccessExpression => "PropertyAccessExpression"
  | .parenthesizedExpression => "ParenthesizedExpression"
  | .stringLiteral => "StringLiteral"
  | .numericLiteral => "NumericLiteral"
  | .functionType => "FunctionType"
  | .unionType => "UnionType"
  | .intersectionType => "IntersectionType"
  | .parenthesizedType => "ParenthesizedType"
  | .typeReference => "TypeReference"
  | .keywordType => "KeywordType"
  | .unknown => "Unknown"

/-- The kind with a given written name. -/
def ofName? (s : String) : Option Kind := all.find? fun k => k.name == s

/-- Kinds that have parameters of their own. -/
def isFunctionLike : Kind → Bool
  | .functionDeclaration | .arrowFunction | .functionExpression | .functionType => true
  | _ => false

/-- Kinds in which names are declared. A function type declares none. -/
def isScope : Kind → Bool
  | .sourceFile | .block | .functionDeclaration | .arrowFunction | .functionExpression => true
  | _ => false

/-- Kinds whose inside is of no interest. -/
def isLeaf : Kind → Bool
  | .identifier | .stringLiteral | .numericLiteral | .keywordType => true
  | _ => false

/-- Kinds whose name child introduces the name instead of referring to it. -/
def introducesName : Kind → Bool
  | .functionDeclaration | .variableDeclaration | .typeAliasDeclaration | .parameter => true
  | _ => false

end Kind

/-- What a node is to its parent. -/
inductive Role where
  | name
  | callee
  | argument
  | parameter
  | type
  | returnType
  | initializer
  | body
  | object
  | property
  deriving DecidableEq, Repr

namespace Role

/-- Every role, in the order of declaration. -/
def all : List Role := [
  .name, .callee, .argument, .parameter, .type, .returnType, .initializer, .body, .object,
  .property]

/-- The written name of a role. -/
def label : Role → String
  | .name => "Name"
  | .callee => "Callee"
  | .argument => "Argument"
  | .parameter => "Parameter"
  | .type => "Type"
  | .returnType => "ReturnType"
  | .initializer => "Initializer"
  | .body => "Body"
  | .object => "Object"
  | .property => "Property"

/-- The role with a given written name. -/
def ofLabel? (s : String) : Option Role := all.find? fun f => f.label == s

end Role

end ClosureWrap
