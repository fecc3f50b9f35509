import ExportIndex.Proofs.Arena.Layout
import ExportIndex.Python.Exports
import Mathlib

/-
This file says what a module consists of, which syntax an interpreter reports for it, and which
trees a grammar may give it.
-/

namespace ExportIndex.Python

namespace Ast

/-- What an interpreter reports of a target. -/
inductive Expression where
  | name (id : String)
  | tuple
  | list
  | member
  | subscript
deriving DecidableEq, Repr

/-- What an interpreter reports of a statement. -/
inductive Statement where
  | functionDef (name : String)
  | asyncFunctionDef (name : String)
  | classDef (name : String)
  | assign (targets : List Expression)
  | annAssign (target : Expression)
  | augAssign (target : Expression)
  | other
deriving DecidableEq, Repr

def Expression.name? : Expression → Option String
  | name id => some id
  | _ => none

/-- The names that `script` takes out of a statement. -/
def Statement.names : Statement → List String
  | functionDef name | asyncFunctionDef name | classDef name => [name]
  | assign targets => targets.filterMap Expression.name?
  | _ => []

/-- The names that `script` prints for a module. -/
def topLevelSymbols (body : List Statement) : List String :=
  (body.flatMap Statement.names).filter fun name => !isPrivate name

end Ast

/-- A target of an assignment as it is written. -/
inductive Target where
  | name (text : String)
  | parenthesized (inner : Target)
  | tuple
  | list
  | member
  | subscript
deriving DecidableEq, Repr

/-- A definition, whatever its body. -/
inductive Definition where
  | function (name : String)
  | asyncFunction (name : String)
  | classDefinition (name : String)
deriving DecidableEq, Repr

/-- A statement of a module as it is written. -/
inductive Statement where
  | definition (decorated : Bool) (definition : Definition)
  /-- An assignment to one target or to several of them. -/
  | assignment (first : Target) (others : List Target)
  | annotated (target : Target)
  | augmented (target : Target)
  /-- Any other statement, whatever is defined within. -/
  | other
deriving DecidableEq, Repr

/-- Parentheses leave no trace in the syntax. -/
def Target.toAst : Target → Ast.Expression
  | name text => .name text
  | parenthesized inner => inner.toAst
  | tuple => .tuple
  | list => .list
  | member => .member
  | subscript => .subscript

def Definition.toAst : Definition → Ast.Statement
  | function name => .functionDef name
  | asyncFunction name => .asyncFunctionDef name
  | classDefinition name => .classDef name

/-- Decorators do not change what is defined. -/
def Statement.toAst : Statement → Ast.Statement
  | .definition _ defined => defined.toAst
  | assignment first others => .assign ((first :: others).map Target.toAst)
  | annotated target => .annAssign target.toAst
  | augmented target => .augAssign target.toAst
  | other => .other

/-- The kinds of the nodes that may stand anywhere in a tree. -/
def extraKinds : List String := ["comment", "line_continuation"]

def nameKinds : List String := ["identifier", "keyword_identifier"]

/-- The kinds of the nodes that parentheses make around targets. -/
def parenthesisKinds : List String := ["parenthesized_expression", "tuple_pattern", "tuple"]

def definitionKinds : List String :=
  ["function_definition", "class_definition", "decorated_definition"]

/-- The named children of a node that belong to its notion. -/
def parts (tree : ParseTree) : List ParseTree :=
  tree.namedChildren.filter fun child => !extraKinds.contains child.label.kind

section Drawing

variable (characters : List Char)

/-- A tree is one of a target. -/
inductive Target.Drawn : Target → ParseTree → Prop
  | name {text : String} {tree : ParseTree}
      (kind : tree.label.kind ∈ nameKinds) (covers : tree.Covers characters text) :
      Drawn (.name text) tree
  /-- Redundant parentheses make a node with a single part and no comma. -/
  | parenthesized {inner : Target} {tree child : ParseTree}
      (kind : tree.label.kind ∈ parenthesisKinds) (plain : tree.hasChild "," = false)
      (only : tree.namedChildren = [child]) (drawn : inner.Drawn child) :
      Drawn (.parenthesized inner) tree
  | pattern {tree : ParseTree} (kind : tree.label.kind = "pattern_list") : Drawn .tuple tree
  /-- Any other parentheses make a tuple, an empty one among them. -/
  | tuple {tree : ParseTree} (kind : tree.label.kind ∈ parenthesisKinds)
      (several : tree.hasChild "," = true ∨ tree.namedChildren = []) : Drawn .tuple tree
  | list {tree : ParseTree} (kind : tree.label.kind ∈ ["list_pattern", "list"]) :
      Drawn .list tree
  | member {tree : ParseTree} (kind : tree.label.kind = "attribute") : Drawn .member tree
  | subscript {tree : ParseTree} (kind : tree.label.kind = "subscript") : Drawn .subscript tree

/-- A tree is one of an assignment to targets; the second target and those behind it stand in an
assignment on its right. -/
inductive Chain : List Target → ParseTree → Prop
  | last {target : Target} {tree left : ParseTree} (kind : tree.label.kind = "assignment")
      (untyped : tree.field? "type" = none) (isLeft : tree.field? "left" = some left)
      (drawn : target.Drawn characters left)
      (value : ∀ right ∈ tree.field? "right", right.label.kind ≠ "assignment") :
      Chain [target] tree
  | more {target : Target} {rest : List Target} {tree left right : ParseTree}
      (kind : tree.label.kind = "assignment") (untyped : tree.field? "type" = none)
      (isLeft : tree.field? "left" = some left) (drawn : target.Drawn characters left)
      (isRight : tree.field? "right" = some right) (chain : Chain rest right) :
      Chain (target :: rest) tree

/-- A tree is one of a definition without decorators. -/
inductive Definition.Drawn : Definition → ParseTree → Prop
  | function {text : String} {tree name : ParseTree}
      (kind : tree.label.kind = "function_definition") (plain : tree.hasChild "async" = false)
      (isName : tree.field? "name" = some name) (covers : name.Covers characters text) :
      Drawn (.function text) tree
  | asyncFunction {text : String} {tree name : ParseTree}
      (kind : tree.label.kind = "function_definition") (async : tree.hasChild "async" = true)
      (isName : tree.field? "name" = some name) (covers : name.Covers characters text) :
      Drawn (.asyncFunction text) tree
  | classDefinition {text : String} {tree name : ParseTree}
      (kind : tree.label.kind = "class_definition")
      (isName : tree.field? "name" = some name) (covers : name.Covers characters text) :
      Drawn (.classDefinition text) tree

/-- A tree is one of a statement. -/
inductive Statement.Drawn : Statement → ParseTree → Prop
  | plain {definition : Definition} {tree : ParseTree}
      (drawn : definition.Drawn characters tree) : Drawn (.definition false definition) tree
  | decorated {definition : Definition} {tree inner : ParseTree}
      (kind : tree.label.kind = "decorated_definition")
      (isDefinition : tree.field? "definition" = some inner)
      (drawn : definition.Drawn characters inner) : Drawn (.definition true definition) tree
  | assignment {first : Target} {others : List Target} {tree assignment : ParseTree}
      (kind : tree.label.kind = "expression_statement") (only : parts tree = [assignment])
      (chain : Chain characters (first :: others) assignment) :
      Drawn (.assignment first others) tree
  | annotated {target : Target} {tree assignment left : ParseTree}
      (kind : tree.label.kind = "expression_statement") (only : parts tree = [assignment])
      (assigns : assignment.label.kind = "assignment")
      (typed : (assignment.field? "type").isSome)
      (isLeft : assignment.field? "left" = some left) (drawn : target.Drawn characters left) :
      Drawn (.annotated target) tree
  | augmented {target : Target} {tree assignment left : ParseTree}
      (kind : tree.label.kind = "expression_statement") (only : parts tree = [assignment])
      (assigns : assignment.label.kind = "augmented_assignment")
      (isLeft : assignment.field? "left" = some left) (drawn : target.Drawn characters left) :
      Drawn (.augmented target) tree
  | other {tree : ParseTree} (kind : tree.label.kind ∉ definitionKinds)
      (plain : tree.label.kind = "expression_statement" →
        ∀ part ∈ parts tree, part.label.kind ≠ "assignment") : Drawn .other tree

end Drawing

/-- A tree is one of a module. -/
structure ModuleDrawn (source : String) (body : List Statement) (tree : ParseTree) : Prop where
  kind : tree.label.kind = "module"
  derived : ∀ label ∈ tree.labels, label.isError = false ∧ label.isMissing = false
  /-- No statement is one of an earlier version of the language. -/
  current : ∀ label ∈ tree.labels, label.kind ∉ formerKinds
  drawn : List.Forall₂ (Statement.Drawn source.toList) body (parts tree)

end ExportIndex.Python
