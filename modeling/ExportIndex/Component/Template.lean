import ExportIndex.Arena
import ExportIndex.Record

/-
This file decides which functions are components, and which props they take.
-/

namespace ExportIndex.Component

def elementKinds : List String := ["jsx_element", "jsx_self_closing_element", "jsx_fragment"]

/-- The functions whose body is looked at. -/
def functionKinds : List String :=
  ["function_declaration", "function", "function_expression", "arrow_function"]

/-- The nodes to which rendering is passed on. -/
def branches (arena : Arena) (id : Nat) : List Nat :=
  match arena.kind id with
  | "parenthesized_expression" | "return_statement" => (arena.namedChildren id).head?.toList
  | "statement_block" => arena.namedChildren id
  | "ternary_expression" => ["consequence", "alternative"].filterMap (arena.field? id)
  | "binary_expression" =>
    if (arena.field? id "operator").any fun operator =>
      ["&&", "||", "??"].contains (arena.text operator)
    then ["left", "right"].filterMap (arena.field? id) else []
  | _ => []

/-- Whether an element is reached over at most `depth` branches. -/
def rendersAt (arena : Arena) : Nat → Nat → Bool
  | 0, _ => false
  | depth + 1, id =>
    elementKinds.contains (arena.kind id) || (branches arena id).any (rendersAt arena depth)

/-- Whether a node renders an element on one path at least. -/
def renders (arena : Arena) (id : Nat) : Bool := rendersAt arena (arena.size + 1) id

def isComponent (arena : Arena) (function : Nat) : Bool :=
  functionKinds.contains (arena.kind function) &&
    (arena.field? function "body").any (renders arena)

/-- The first parameter, which stands alone or is the first that is no comment. -/
def firstParameter? (arena : Arena) (function : Nat) : Option Nat :=
  (arena.field? function "parameter").or <|
    (arena.field? function "parameters").bind fun parameters =>
      (arena.namedChildren parameters).find? fun parameter => arena.kind parameter != "comment"

/-- The pattern of a parameter, which may stand within a typed one. -/
def patternOf? (arena : Arena) (parameter : Nat) : Option Nat :=
  if ["required_parameter", "optional_parameter"].contains (arena.kind parameter) then
    arena.field? parameter "pattern"
  else some parameter

def propKey? (arena : Arena) (member : Nat) : Option Nat :=
  match arena.kind member with
  | "shorthand_property_identifier_pattern" => some member
  | "pair_pattern" => arena.field? member "key"
  | "object_assignment_pattern" => arena.field? member "left"
  | _ => none

/-- The props that a function takes out of its first parameter. -/
def props (arena : Arena) (function : Nat) : List ComponentProp :=
  match (firstParameter? arena function).bind (patternOf? arena) with
  | some pattern =>
    if arena.kind pattern = "object_pattern" then
      (arena.namedChildren pattern).filterMap fun member =>
        (propKey? arena member).map fun key => .untyped (arena.text key)
    else []
  | none => []

end ExportIndex.Component
