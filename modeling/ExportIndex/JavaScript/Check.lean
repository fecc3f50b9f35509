import ExportIndex.Arena.Check

/-
This file decides which trees are modules and which are scripts.
-/

namespace ExportIndex.JavaScript

/-- How a tree is to be understood. -/
inductive SourceType where
  /-- With imports and exports, under the rules of strict code. -/
  | module
  /-- Without imports and exports, under no further rules. -/
  | script
deriving DecidableEq, Repr

def elementKinds : List String := ["jsx_element", "jsx_self_closing_element", "jsx_fragment"]

/-- The kinds that a `return` belongs to. -/
def functionKinds : List String :=
  ["function_declaration", "generator_function_declaration", "function",
    "function_expression", "generator_function", "arrow_function", "method_definition"]

/-- Words that bind nothing in strict code. -/
def strictReserved : List String :=
  ["implements", "interface", "package", "private", "protected", "public", "static",
    "yield", "let", "await"]

def isLegacyOctal (text : String) : Bool :=
  1 < text.length && text.toList.head? == some '0' && text.toList.all Char.isDigit

/-- An escape by digits other than a single zero. -/
def isOctalEscape (text : String) : Bool :=
  match text.toList with
  | '\\' :: digits => digits.head?.any Char.isDigit && digits != ['0']
  | _ => false

def isOutsideFunction (arena : Arena) (id : Nat) : Bool :=
  (arena.ancestors arena.size id).all fun ancestor =>
    !functionKinds.contains (arena.kind ancestor)

def deletesBinding (arena : Arena) (id : Nat) : Bool :=
  (arena.field? id "operator").any (fun operator => arena.text operator == "delete") &&
    (arena.field? id "argument").any fun argument => arena.kind argument == "identifier"

/-- What a node may not do in strict code. -/
def strictViolation? (arena : Arena) (id : Nat) : Option Violation :=
  match arena.kind id with
  | "with_statement" => some .withStatement
  | "return_statement" =>
    if isOutsideFunction arena id then some .returnOutsideFunction else none
  | "number" => if isLegacyOctal (arena.text id) then some .octalLiteral else none
  | "escape_sequence" => if isOctalEscape (arena.text id) then some .octalEscape else none
  | "unary_expression" => if deletesBinding arena id then some .deletedBinding else none
  | "identifier" =>
    if strictReserved.contains (arena.text id) then some .reservedWord else none
  | _ => none

def scriptViolation? (arena : Arena) (id : Nat) : Option Violation :=
  if ["import_statement", "export_statement"].contains (arena.kind id) then
    some .moduleItemInScript
  else none

def nodeViolation? (arena : Arena) (sourceType : SourceType) (allowsElements : Bool)
    (id : Nat) : Option Violation :=
  if !allowsElements && elementKinds.contains (arena.kind id) then some .elementsNotEnabled
  else match sourceType with
    | .module => strictViolation? arena id
    | .script => scriptViolation? arena id

/-- How a declaration of the program binds a name. -/
inductive Binding where
  /-- By `let`, `const` or `class`; the name is bound once. -/
  | lexical
  /-- By `var` or as a function; the name may be bound so again. -/
  | var
deriving DecidableEq, Repr

def bindingOf? (kind : String) : Option Binding :=
  match kind with
  | "lexical_declaration" | "class_declaration" => some .lexical
  | "variable_declaration" | "function_declaration" | "generator_function_declaration" =>
    some .var
  | _ => none

/-- The declared name of a declarator that binds a single one. -/
def declaratorName? (arena : Arena) (declarator : Nat) : Option Nat :=
  if arena.kind declarator = "variable_declarator" then
    (arena.field? declarator "name").filter fun name => arena.kind name == "identifier"
  else none

/-- The nodes of the names that a declaration binds. -/
def declaredNames (arena : Arena) (declaration : Nat) : List (Nat × Binding) :=
  match bindingOf? (arena.kind declaration) with
  | none => []
  | some binding =>
    let names :=
      if ["lexical_declaration", "variable_declaration"].contains (arena.kind declaration) then
        (arena.namedChildren declaration).filterMap (declaratorName? arena)
      else (arena.field? declaration "name").toList
    names.map fun name => (name, binding)

/-- The declaration in a statement of the program. -/
def declarationOf? (arena : Arena) (statement : Nat) : Option Nat :=
  if arena.kind statement = "export_statement" then arena.field? statement "declaration"
  else some statement

def programNames (arena : Arena) : List (Nat × Binding) :=
  ((arena.namedChildren 0).filterMap (declarationOf? arena)).flatMap (declaredNames arena)

/-- The first name that clashes with one in `bound` or with one before it. -/
def firstClash? (arena : Arena) : List (String × Binding) → List (Nat × Binding) → Option Nat
  | _, [] => none
  | bound, (name, binding) :: rest =>
    match bound.lookup (arena.text name) with
    | some previous =>
      if previous = .lexical || binding = .lexical then some name
      else firstClash? arena ((arena.text name, binding) :: bound) rest
    | none => firstClash? arena ((arena.text name, binding) :: bound) rest

def duplicateBinding? (arena : Arena) : Option Nat :=
  firstClash? arena [] (programNames arena)

/-- Accepts a tree as a module or as a script. -/
def validated (arena : Arena) (path : FilePath) (sourceType : SourceType)
    (allowsElements : Bool) : Except ParseFailure Unit := do
  arena.checked path
  let found := (arena.walk 0).findSome? fun id =>
    (nodeViolation? arena sourceType allowsElements id).map fun violation => (id, violation)
  match found.or ((duplicateBinding? arena).map fun id => (id, .duplicateBinding)) with
  | none => .ok ()
  | some (id, violation) => .error (arena.violation path id violation)

end ExportIndex.JavaScript
