import ExportIndex.Proofs.Arena.Layout
import ExportIndex.Proofs.Extraction.Contribution
import Mathlib

/-
This file compares the two readings of a module, as an untyped and as a typed source. They find
the same exports in a module that keeps to what both of them know.
-/

namespace ExportIndex

open ExportRecord

/-- The declarations that both readings know. -/
def commonDeclarationKinds : List String :=
  ["lexical_declaration", "variable_declaration", "function_declaration",
    "generator_function_declaration", "class_declaration"]

/-- The functions and classes that both readings know, with a name or without one. -/
def commonDefinitionKinds : List String :=
  ["function_declaration", "generator_function_declaration", "function", "function_expression",
    "generator_function", "class_declaration", "class"]

/-- An assignment exports in the older way: an object to `module.exports`, or anything to a member
of `exports`. -/
def AssignsExport (arena : Arena) (id : Nat) : Prop :=
  ∃ left ∈ arena.field? id "left", arena.kind left = "member_expression" ∧
    ∃ object ∈ arena.field? left "object", arena.kind object = "identifier" ∧
      ∃ property ∈ arena.field? left "property",
        (arena.text object = "module" ∧ arena.text property = "exports" ∧
          ∃ right ∈ arena.field? id "right", arena.kind right = "object") ∨
        (arena.text object = "exports" ∧ arena.kind property = "property_identifier")

/-- An export statement is one that both readings know. -/
structure CommonExport (arena : Arena) (id : Nat) : Prop where
  /-- It stands directly below the root. -/
  atTop : arena.parent? id = some 0
  /-- A default export is one of a function or a class with a name. -/
  default : (arena.childOfKind? id "default").isSome →
    ∃ target ∈ JavaScript.defaultTarget? arena id,
      arena.kind target ∈ commonDefinitionKinds ∧ (arena.field? target "name").isSome
  declaration : arena.childOfKind? id "default" = none →
    ∀ declaration ∈ arena.field? id "declaration",
      arena.kind declaration ∈ commonDeclarationKinds
  /-- It does not export a namespace. -/
  namespaced : arena.childOfKind? id "namespace_export" = none

instance (arena : Arena) (id : Nat) : Decidable (AssignsExport arena id) :=
  inferInstanceAs (Decidable (∃ left ∈ arena.field? id "left", _ ∧
    ∃ object ∈ arena.field? left "object", _ ∧
      ∃ property ∈ arena.field? left "property", (_ ∧ _ ∧ ∃ right ∈ arena.field? id "right", _) ∨
        (_ ∧ _)))

instance (arena : Arena) (id : Nat) : Decidable (CommonExport arena id) :=
  decidable_of_iff
    (arena.parent? id = some 0 ∧
      ((arena.childOfKind? id "default").isSome →
        ∃ target ∈ JavaScript.defaultTarget? arena id,
          arena.kind target ∈ commonDefinitionKinds ∧ (arena.field? target "name").isSome) ∧
      (arena.childOfKind? id "default" = none →
        ∀ declaration ∈ arena.field? id "declaration",
          arena.kind declaration ∈ commonDeclarationKinds) ∧
      arena.childOfKind? id "namespace_export" = none)
    ⟨fun ⟨atTop, default, declaration, namespaced⟩ => ⟨atTop, default, declaration, namespaced⟩,
      fun common => ⟨common.atTop, common.default, common.declaration, common.namespaced⟩⟩

/-- A module keeps to what both readings know. -/
structure CommonModule (arena : Arena) : Prop where
  root : arena.kind 0 = "program"
  exports : ∀ id ∈ arena.walk 0, arena.kind id = "export_statement" → CommonExport arena id
  assignments : ∀ id ∈ arena.walk 0, arena.kind id = "assignment_expression" →
    ¬ AssignsExport arena id

/-- Both readings take the same names out of an export clause. -/
theorem clauseRecords_eq (arena : Arena) (clause : Nat) :
    JavaScript.clauseRecords arena clause =
      (arena.namedChildren clause).filterMap (TypeScript.specifierRecord? arena) := by
  rw [JavaScript.clauseRecords, List.map_filterMap]
  congr 1
  funext specifier
  rw [JavaScript.specifierName?, TypeScript.specifierRecord?]
  split <;> rfl

theorem variableRecords_eq (arena : Arena) (declaration : Nat) :
    ((arena.namedChildren declaration).filterMap (JavaScript.declaratorName? arena)).map
        (fun name => ExportRecord.named (arena.text name) .variable) =
      (arena.namedChildren declaration).filterMap (TypeScript.declaratorRecord? arena) := by
  rw [List.map_filterMap]
  congr 1
  funext declarator
  rw [JavaScript.declaratorName?, TypeScript.declaratorRecord?]
  split <;> rfl

/-- Both readings report a declaration that they know in the same way, however deep typed
declarations may nest. -/
theorem declarationRecords_eq (arena : Arena) (depth : Nat) {declaration : Nat}
    (common : arena.kind declaration ∈ commonDeclarationKinds) :
    JavaScript.declarationRecords arena declaration =
      TypeScript.declarationRecords arena (depth + 1) declaration := by
  have declarators := variableRecords_eq arena declaration
  rw [JavaScript.declarationRecords, TypeScript.declarationRecords]
  simp only [commonDeclarationKinds, List.mem_cons, List.not_mem_nil, or_false] at common
  rcases common with kind | kind | kind | kind | kind
  · simpa [kind, TypeScript.functionKinds, TypeScript.classKinds] using declarators
  · simpa [kind, TypeScript.functionKinds, TypeScript.classKinds] using declarators
  · cases name : arena.field? declaration "name" <;>
      simp [kind, TypeScript.functionKinds, JavaScript.callableKind?]
  · cases name : arena.field? declaration "name" <;>
      simp [kind, TypeScript.functionKinds, JavaScript.callableKind?]
  · cases name : arena.field? declaration "name" <;>
      simp [kind, TypeScript.functionKinds, TypeScript.classKinds, JavaScript.callableKind?]

theorem definitionKind_eq {kind : String} (common : kind ∈ commonDefinitionKinds) :
    ∃ symbol, JavaScript.callableKind? kind = some symbol ∧
      TypeScript.defaultKind? kind = some symbol := by
  simp only [commonDefinitionKinds, List.mem_cons, List.not_mem_nil, or_false] at common
  rcases common with rfl | rfl | rfl | rfl | rfl | rfl | rfl
  all_goals exact ⟨_, rfl, rfl⟩

/-- A function or class with a name is exported as the default under this name, not under one that
is made of the path. -/
theorem defaultRecord_eq {arena : Arena} (path other : FilePath) {id target : Nat}
    (leads : JavaScript.defaultTarget? arena id = some target)
    (common : arena.kind target ∈ commonDefinitionKinds)
    (named : (arena.field? target "name").isSome) :
    JavaScript.defaultRecord arena path id = TypeScript.defaultRecord arena other id := by
  obtain ⟨symbol, untyped, typed⟩ := definitionKind_eq common
  obtain ⟨name, present⟩ := Option.isSome_iff_exists.mp named
  have same : (arena.field? id "declaration").or (arena.field? id "value") = some target := leads
  simp [JavaScript.defaultRecord, TypeScript.defaultRecord, leads, same, untyped, typed, present]

/-- Both readings report an export statement that they know in the same way. -/
theorem statementRecords_eq {arena : Arena} (path other : FilePath) {id : Nat}
    (common : CommonExport arena id) :
    JavaScript.statementRecords arena path id =
      if (arena.childOfKind? id "default").isSome then [TypeScript.defaultRecord arena other id]
      else TypeScript.namedRecords arena id := by
  rw [JavaScript.statementRecords]
  split
  · next default =>
    obtain ⟨target, leads, kind, named⟩ := common.default default
    rw [defaultRecord_eq path other leads kind named]
  · next plain =>
    have declared : (arena.field? id "declaration").map (JavaScript.declarationRecords arena) =
        (arena.field? id "declaration").map
          (TypeScript.declarationRecords arena (arena.size + 1)) := by
      apply Option.map_congr
      intro declaration member
      exact declarationRecords_eq arena arena.size
        (common.declaration (by simpa using plain) declaration member)
    have listed : JavaScript.clauseRecords arena = fun clause =>
        (arena.namedChildren clause).filterMap (TypeScript.specifierRecord? arena) :=
      funext (clauseRecords_eq arena)
    rw [TypeScript.namedRecords, declared, listed, common.namespaced]
    simp

/-- An assignment that does not export in the older way gives no records. -/
theorem assignmentRecords_eq_nil {arena : Arena} {id : Nat} (plain : ¬ AssignsExport arena id) :
    JavaScript.assignmentRecords arena id = [] := by
  rw [JavaScript.assignmentRecords]
  split
  · rfl
  · next left member =>
    obtain ⟨isLeft, isMember⟩ := Option.filter_eq_some_iff.mp member
    have memberExpression : arena.kind left = "member_expression" := by simpa using isMember
    split
    · next object property isObject isProperty =>
      split
      · next identifier =>
        rw [JavaScript.propertyRecords]
        split
        · next exporting =>
          split
          · next right isObjectLiteral =>
            obtain ⟨isRight, literal⟩ := Option.filter_eq_some_iff.mp isObjectLiteral
            refine absurd ⟨left, isLeft, memberExpression, object, isObject, identifier,
              property, isProperty, .inl ?_⟩ plain
            simp only [Bool.and_eq_true, decide_eq_true_eq] at exporting
            exact ⟨exporting.1, exporting.2, right, isRight, by simpa using literal⟩
          · rfl
        · split
          · next exporting =>
            simp only [Bool.and_eq_true, decide_eq_true_eq] at exporting
            exact absurd ⟨left, isLeft, memberExpression, object, isObject, identifier,
              property, isProperty, .inr exporting⟩ plain
          · rfl
      · rfl
    · rfl

/-- Every node of such a module contributes the same under both readings. -/
theorem contribution_eq {arena : Arena} (common : CommonModule arena) (path other : FilePath)
    {id : Nat} (visited : id ∈ arena.walk 0) :
    JavaScript.contribution arena path id = TypeScript.contribution arena other id := by
  unfold JavaScript.contribution TypeScript.contribution
  -- Typed sources look for exports alone, and only below the root; here all of them stand there.
  split
  · next exporting =>
    have known := common.exports id visited exporting
    have top : TypeScript.isTopLevel arena id = true := by
      simp [TypeScript.isTopLevel, known.atTop, common.root]
    simp only [exporting, top, statementRecords_eq path other known]
    simp
  · next assigning =>
    rw [assignmentRecords_eq_nil (common.assignments id visited assigning)]
    simp [assigning]
  · next other _ =>
    have silent : arena.kind id ≠ "export_statement" := other
    simp [silent]

/-- The exports of a module that keeps to what both readings know are the same under both of them,
in order, kinds and export kinds, whatever paths it is read under. -/
theorem common_module_exports_agree {arena : Arena} (common : CommonModule arena)
    (path other : FilePath) :
    JavaScript.recordsFrom arena path 0 = TypeScript.recordsFrom arena other 0 := by
  rw [JavaScript.recordsFrom_eq_dedup, TypeScript.recordsFrom_eq_dedup]
  congr 1
  exact List.flatMap_congr fun id visited => contribution_eq common path other visited

/-- A module with a pattern, an alias that is taken, an assignment that exports nothing, and a
class with a name as its default. -/
def mixed : ParseTree :=
  .notion "program" 0 83 [
    (none, .notion "export_statement" 0 28 [
      (none, .token "export" 0),
      (some "declaration", .notion "lexical_declaration" 7 28 [
        (some "kind", .token "const" 7),
        (none, .notion "variable_declarator" 13 18 [
          (some "name", .notion "identifier" 13 14 []),
          (none, .token "=" 15),
          (some "value", .notion "number" 17 18 [])]),
        (none, .token "," 18),
        (none, .notion "variable_declarator" 20 27 [
          (some "name", .notion "object_pattern" 20 23 [
            (none, .token "\x7b" 20),
            (none, .notion "shorthand_property_identifier_pattern" 21 22 []),
            (none, .token "\x7d" 22)]),
          (none, .token "=" 24),
          (some "value", .notion "identifier" 26 27 [])]),
        (none, .token ";" 27)])]),
    (none, .notion "export_statement" 29 48 [
      (none, .token "export" 29),
      (none, .notion "export_clause" 36 47 [
        (none, .token "\x7b" 36),
        (none, .notion "export_specifier" 37 43 [
          (some "name", .notion "identifier" 37 38 []),
          (none, .token "as" 39),
          (some "alias", .notion "identifier" 42 43 [])]),
        (none, .token "," 43),
        (none, .notion "export_specifier" 45 46 [
          (some "name", .notion "identifier" 45 46 [])]),
        (none, .token "\x7d" 46)]),
      (none, .token ";" 47)]),
    (none, .notion "expression_statement" 49 57 [
      (none, .notion "assignment_expression" 49 56 [
        (some "left", .notion "member_expression" 49 52 [
          (some "object", .notion "identifier" 49 50 []),
          (none, .token "." 50),
          (some "property", .notion "property_identifier" 51 52 [])]),
        (none, .token "=" 53),
        (some "right", .notion "number" 55 56 [])]),
      (none, .token ";" 56)]),
    (none, .notion "export_statement" 58 83 [
      (none, .token "export" 58),
      (none, .token "default" 65),
      (some "declaration", .notion "class_declaration" 73 83 [
        (none, .token "class" 73),
        (some "name", .notion "identifier" 79 80 []),
        (some "body", .notion "class_body" 81 83 [
          (none, .token "\x7b" 81),
          (none, .token "\x7d" 82)])])])]

def mixedArena : Arena :=
  .ofTree
    ("export const a = 1, \x7bb\x7d = o; export \x7bc as a, d\x7d; x.y = 1; " ++
      "export default class G \x7b\x7d")
    mixed

theorem common_mixedArena : CommonModule mixedArena where
  root := by decide +kernel
  exports := by
    rw [mixedArena, Arena.walk_ofTree]
    decide +kernel
  assignments := by
    rw [mixedArena, Arena.walk_ofTree]
    decide +kernel

/-- Both readings of that module find the same three exports. -/
theorem common_module_exports_agree_of_mixed :
    JavaScript.recordsFrom mixedArena ⟨"m.js"⟩ 0 =
        [.named "a" .variable, .named "d" .reExport, .ofDefault "G" .classDefinition] ∧
      JavaScript.recordsFrom mixedArena ⟨"m.js"⟩ 0 =
        TypeScript.recordsFrom mixedArena ⟨"m.ts"⟩ 0 := by
  constructor
  · rw [JavaScript.recordsFrom_eq_dedup, mixedArena, Arena.walk_ofTree]
    decide +kernel
  · exact common_module_exports_agree common_mixedArena ⟨"m.js"⟩ ⟨"m.ts"⟩

end ExportIndex
