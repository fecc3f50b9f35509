import ExportIndex.Text.LowerCase
import ExportIndex.TypeScript.StringLiteral

/-
This file writes types in a canonical form. Shapes that tell an importer little are
replaced by a word.
-/

namespace ExportIndex.TypeScript

/-- The type of a member without a type. -/
def implicitAny : String := "any"

/-- The text of types that have no form of their own. -/
def unknownType : String := "unknown"

def firstNamed? (arena : Arena) (id : Nat) : Option Nat := (arena.namedChildren id).head?

/-- The text of a literal; a string is written anew between double quotes. -/
def literalText (arena : Arena) (id : Nat) : String :=
  if arena.kind id = "string" then
    ((stringValue? arena id).map Json.quote).getD (arena.text id)
  else arena.text id

/-- Whether an object type is a mapped one. -/
def isMapped (arena : Arena) (id : Nat) : Bool :=
  (arena.namedChildren id).any fun member =>
    arena.kind member == "index_signature" &&
      (arena.childOfKind? member "mapped_type_clause").isSome

def optionalMark (arena : Arena) (id : Nat) : String :=
  if (arena.childOfKind? id "?").isSome then "?" else ""

/-- The text of a member of an object type that is a property, when types have some texts. -/
def propertyText? (arena : Arena) (typeText : Nat → String) (member : Nat) : Option String :=
  if arena.kind member = "property_signature" then
    (arena.field? member "name").map fun name =>
      arena.text name ++ optionalMark arena member ++ ": " ++
        match arena.field? member "type" with
        | some type => typeText type
        | none => implicitAny
  else none

/-- The text of an object type with members of some texts. -/
def objectText (members : List String) : String :=
  if members = [] then "\x7b\x7d" else "\x7b " ++ "; ".intercalate members ++ " \x7d"

/-- The text of a body, when types have some texts. -/
def objectShape (arena : Arena) (typeText : Nat → String) (id : Nat) : String :=
  if isMapped arena id then "mapped"
  else objectText ((arena.namedChildren id).filterMap (propertyText? arena typeText))

mutual
/-- The text of a type node. Types nest at most `depth` deep. -/
def resolveAt (arena : Arena) : Nat → Nat → String
  | 0, _ => unknownType
  | depth + 1, id =>
    let resolve? := fun (id? : Option Nat) => match id? with
      | some id => resolveAt arena depth id
      | none => unknownType
    match arena.kind id with
    | "type_annotation" | "parenthesized_type" | "readonly_type" =>
      resolve? (firstNamed? arena id)
    | "predefined_type" => Text.lowerCase (arena.text id)
    | "type_identifier" | "nested_type_identifier" | "this_type" => arena.text id
    | "generic_type" =>
      let name := ((arena.field? id "name").map arena.text).getD unknownType
      let items := ((arena.field? id "type_arguments").map arena.namedChildren).getD []
      name ++ "<" ++ ", ".intercalate (items.map (resolveAt arena depth)) ++ ">"
    | "array_type" => resolve? (firstNamed? arena id) ++ "[]"
    | "union_type" => " | ".intercalate (membersAt arena "union_type" depth id)
    | "intersection_type" => " & ".intercalate (membersAt arena "intersection_type" depth id)
    | "literal_type" => ((firstNamed? arena id).map (literalText arena)).getD (arena.text id)
    | "object_type" => objectShape arena (resolveAt arena depth) id
    | "function_type" | "constructor_type" => "function"
    | "tuple_type" =>
      "[" ++ ", ".intercalate ((arena.namedChildren id).map (tupleMemberAt arena depth)) ++ "]"
    | "optional_type" => resolve? (firstNamed? arena id) ++ "?"
    | "conditional_type" => "conditional"
    | _ => unknownType

/-- The members of a union or intersection; nested ones of the same kind are opened. -/
def membersAt (arena : Arena) (kind : String) : Nat → Nat → List String
  | 0, _ => [unknownType]
  | depth + 1, id =>
    (arena.namedChildren id).flatMap fun member =>
      if arena.kind member = kind then membersAt arena kind depth member
      else [resolveAt arena depth member]

/-- A member of a tuple keeps its label. -/
def tupleMemberAt (arena : Arena) : Nat → Nat → String
  | 0, _ => unknownType
  | depth + 1, id =>
    if ["required_parameter", "optional_parameter"].contains (arena.kind id) then
      let mark := if arena.kind id = "optional_parameter" then "?" else ""
      let type := match arena.field? id "type" with
        | some type => resolveAt arena depth type
        | none => unknownType
      match (arena.field? id "name").or (arena.field? id "pattern") with
      | some label => arena.text label ++ mark ++ ": " ++ type
      | none => type
    else resolveAt arena depth id
end

/-- The canonical text of a type or of its typeClause. -/
def resolve (arena : Arena) (id : Nat) : String := resolveAt arena (3 * arena.size + 3) id

end ExportIndex.TypeScript
