import ExportIndex.Arena.Check
import ExportIndex.Arena.OfTree

/-
This file finds the names that the statements of a module define: those of functions
and classes, and those that an assignment without a type gives a value.
-/

namespace ExportIndex.Python

/-- Statements of an earlier version of the language, which its grammar derives. -/
def formerKinds : List String := ["print_statement", "exec_statement"]

def formerStatement? (arena : Arena) : Option Nat :=
  (arena.walk 0).find? fun id => formerKinds.contains (arena.kind id)

/-- The name that a target is, perhaps within parentheses that make no tuple.
Parentheses nest at most `depth` deep. -/
def plainName? (arena : Arena) : Nat → Nat → Option Nat
  | 0, _ => none
  | depth + 1, target =>
    match arena.kind target with
    | "identifier" | "keyword_identifier" => some target
    | "parenthesized_expression" | "tuple_pattern" | "tuple" =>
      if (arena.childOfKind? target ",").isSome then none
      else match arena.namedChildren target with
        | [only] => plainName? arena depth only
        | _ => none
    | _ => none

/-- The names of an assignment and of those on its right, at most `depth` of them. -/
def assigned (arena : Arena) : Nat → Nat → List Nat
  | 0, _ => []
  | depth + 1, assignment =>
    if (arena.field? assignment "type").isSome then []
    else
      let left := (arena.field? assignment "left").bind (plainName? arena (arena.size + 1))
      let right := (arena.field? assignment "right").filter fun right =>
        arena.kind right == "assignment"
      left.toList ++ (right.map (assigned arena depth)).getD []

/-- The names that a statement defines. Decorators nest at most `depth` deep. -/
def defined (arena : Arena) : Nat → Nat → List Nat
  | 0, _ => []
  | depth + 1, statement =>
    match arena.kind statement with
    | "function_definition" | "class_definition" => (arena.field? statement "name").toList
    | "decorated_definition" =>
      ((arena.field? statement "definition").map (defined arena depth)).getD []
    | "expression_statement" =>
      ((arena.namedChildren statement).filter fun child =>
        arena.kind child == "assignment").flatMap (assigned arena (arena.size + 1))
    | _ => []

/-- The names that the statements of a module define, in order. -/
def topLevel (grammar : Grammar) (path : FilePath) (source : String) :
    Except ParseFailure (List String) := do
  let arena := Arena.ofTree source (grammar source)
  arena.checked path
  match formerStatement? arena with
  | some id => throw (arena.violation path id (.formerStatement (arena.kind id)))
  | none =>
    return ((arena.namedChildren 0).flatMap (defined arena (arena.size + 1))).map arena.text

end ExportIndex.Python
