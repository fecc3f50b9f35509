import ExportIndex.Proofs.Component.Rearrangement
import ExportIndex.Proofs.Extraction.CommonModule
import Mathlib

/-
This file compares the names of exported components with those that a module exports. A component
keeps the name of its declaration, also where a list exports it under an alias.
-/

namespace ExportIndex.Component

open ExportRecord

/-- A statement of the module that exports by name. -/
def isNamedExport (arena : Arena) (id : Nat) : Bool :=
  isModuleLevel arena id && arena.kind id == "export_statement" && !isDefaultExport arena id

def namedExports (arena : Arena) (start : Nat) : List Nat :=
  (arena.walk start).filter (isNamedExport arena)

/-- The declarations directly under those statements. -/
def exportedDeclarations (arena : Arena) (start : Nat) : List Nat :=
  (namedExports arena start).filterMap (arena.field? · "declaration")

/-- The names that a declaration gives to components. -/
def declaredNames (arena : Arena) (declaration : Nat) : List String :=
  (declaredBy arena declaration (some .named)).map Declaration.name

def clauseSpecifiers (arena : Arena) (id : Nat) : List Nat :=
  (arena.childOfKind? id "export_clause").elim [] arena.namedChildren

def exportSpecifiers (arena : Arena) (start : Nat) : List Nat :=
  (namedExports arena start).flatMap (clauseSpecifiers arena)

/-- The name within the module of what a specifier exports. -/
def localName? (arena : Arena) (specifier : Nat) : Option String :=
  (arena.field? specifier "name").map arena.text

/-- The name under which a specifier exports: its alias if it has one. -/
def exportedName? (arena : Arena) (specifier : Nat) : Option String :=
  (JavaScript.specifierName? arena specifier).map arena.text

/-- Both readings of a module, as an untyped and as a typed source, report a name. -/
structure BothReport (arena : Arena) (path : FilePath) (start : Nat) (name : String) : Prop where
  untyped : name ∈ (JavaScript.recordsFrom arena path start).map ExportRecord.name
  typed : name ∈ (TypeScript.recordsFrom arena path start).map ExportRecord.name

/-- How a module exports a component of some name. -/
inductive ExportsComponent (arena : Arena) (path : FilePath) (start : Nat) (name : String) : Prop
  | declared {declaration : Nat} (exported : declaration ∈ exportedDeclarations arena start)
      (declares : name ∈ declaredNames arena declaration)
      (reported : BothReport arena path start name)
  /-- The others report the specifier under the name that it exports. -/
  | listed {specifier : Nat} (exported : specifier ∈ exportSpecifiers arena start)
      (lists : localName? arena specifier = some name)
      (reported : ∀ other, exportedName? arena specifier = some other → other ≠ "" →
        BothReport arena path start other)

/-- What binds a value under an exported declaration is a declarator. -/
def BindsInDeclarators (arena : Arena) (start : Nat) : Prop :=
  ∀ declaration ∈ exportedDeclarations arena start,
    ∀ child ∈ arena.namedChildren declaration, (boundValue? arena child).isSome →
      arena.kind child = "variable_declarator"

section Origin

variable {arena : Arena} {path : FilePath} {start id : Nat} {name : String}

theorem isNamedExport_iff : isNamedExport arena id = true ↔
    isModuleLevel arena id = true ∧ arena.kind id = "export_statement" ∧
      isDefaultExport arena id = false := by
  simp [isNamedExport, and_assoc]

theorem mem_namedExports : id ∈ namedExports arena start ↔
    id ∈ arena.walk start ∧ isNamedExport arena id = true :=
  List.mem_filter

theorem mem_declared {function : Nat} {exportKind : Option ExportKind} {declaration : Declaration}
    (member : declaration ∈ declared arena name function exportKind) :
    declaration.name = name ∧ declaration.exportKind = exportKind := by
  unfold declared at member
  split at member
  · rw [List.mem_singleton.mp member]
    exact ⟨rfl, rfl⟩
  · cases member

theorem exportKind_of_mem_declaredBy {target : Nat} {exportKind : Option ExportKind}
    {declaration : Declaration} (member : declaration ∈ declaredBy arena target exportKind) :
    declaration.exportKind = exportKind := by
  unfold declaredBy at member
  split at member
  · cases found : arena.field? target "name" with
    | none => simp [found] at member
    | some node =>
      rw [found, Option.elim_some] at member
      exact (mem_declared member).2
  · split at member
    · obtain ⟨_, _, inside⟩ := List.mem_flatMap.mp member
      exact (mem_declared inside).2
    · cases member

/-- A component that is declared as a named export is declared by an export statement. -/
theorem named_declaration {declaration : Declaration}
    (member : declaration ∈ declarationsAt arena path id)
    (named : declaration.exportKind = some .named) :
    isNamedExport arena id = true ∧ ∃ target, arena.field? id "declaration" = some target ∧
      declaration ∈ declaredBy arena target (some .named) := by
  unfold declarationsAt at member
  split at member
  · next atTop =>
    split at member
    · next exporting =>
      unfold exportDeclarations at member
      split at member
      · -- A default export declares components as defaults.
        unfold defaultDeclarations at member
        cases found : defaultTarget? arena id with
        | none => simp [found] at member
        | some target =>
          rw [found, Option.elim_some] at member
          split at member
          · cases member
          · have isDefault := (mem_declared member).2
            rw [named] at isDefault
            cases isDefault
      · next plain =>
        refine ⟨isNamedExport_iff.mpr ⟨atTop, exporting, by simpa using plain⟩, ?_⟩
        cases found : arena.field? id "declaration" with
        | none => simp [found] at member
        | some target =>
          rw [found, Option.elim_some] at member
          exact ⟨target, rfl, member⟩
    · have silent := exportKind_of_mem_declaredBy member
      rw [named] at silent
      cases silent
  · cases member

/-- A name that is noted as a named export is the local one of a specifier. -/
theorem named_reference (member : (name, .named) ∈ referencesAt arena id) :
    isNamedExport arena id = true ∧
      ∃ specifier ∈ clauseSpecifiers arena id, localName? arena specifier = some name := by
  unfold referencesAt at member
  split at member
  · next atTop =>
    split at member
    · next exporting =>
      unfold exportReferences at member
      split at member
      · unfold defaultReferences at member
        cases found : defaultTarget? arena id with
        | none => simp [found] at member
        | some target =>
          rw [found, Option.elim_some] at member
          split at member
          · cases List.mem_singleton.mp member
          · cases member
      · next plain =>
        refine ⟨isNamedExport_iff.mpr ⟨atTop, exporting, by simpa using plain⟩, ?_⟩
        unfold clauseSpecifiers
        cases found : arena.childOfKind? id "export_clause" with
        | none => simp [found] at member
        | some clause =>
          rw [found, Option.elim_some] at member
          obtain ⟨node, listed, same⟩ := List.mem_map.mp member
          obtain ⟨specifier, inside, isName⟩ := List.mem_filterMap.mp listed
          obtain rfl : arena.text node = name := (Prod.mk.inj same).1
          exact ⟨specifier, inside, by rw [localName?, isName, Option.map_some]⟩
    · cases member
  · cases member

theorem mem_of_lastExport? {exports : List (String × ExportKind)} {kind : ExportKind}
    (last : lastExport? exports name = some kind) : (name, kind) ∈ exports := by
  obtain ⟨before, behind, same, -⟩ := List.lookup_eq_some_iff.mp last
  exact List.mem_reverse.mp (same ▸ by simp)

/-- A component that is reported as a named export is declared by an export statement, or it is
one that a list of exports names. -/
theorem origin_of_named {record : ExportRecord} (member : record ∈ recordsFrom arena path start)
    (named : record.exportKind = some .named) :
    record.name ≠ "" ∧
      ((∃ declaration ∈ exportedDeclarations arena start,
          record.name ∈ declaredNames arena declaration) ∨
        ∃ specifier ∈ exportSpecifiers arena start,
          localName? arena specifier = some record.name) := by
  rw [recordsFrom_eq_report] at member
  obtain ⟨declaration, kept, kind, last, rfl⟩ := mem_report.mp member
  obtain rfl : kind = .named := Option.some.inj named
  have filled : declaration.name ≠ "" := by
    simpa using firstOfEach_fresh Declaration.name _ _ declaration kept
  refine ⟨filled, ?_⟩
  rw [← lastExport?_append] at last
  rcases List.mem_append.mp (mem_of_lastExport? last) with declares | refers
  · obtain ⟨other, listed, sameName, exports⟩ := mem_exportsOf.mp declares
    obtain ⟨id, visited, here⟩ := List.mem_flatMap.mp listed
    obtain ⟨exporting, target, found, inside⟩ := named_declaration here exports
    refine .inl ⟨target, List.mem_filterMap.mpr ⟨id, mem_namedExports.mpr ⟨visited, exporting⟩,
      found⟩, ?_⟩
    exact List.mem_map.mpr ⟨other, inside, sameName⟩
  · obtain ⟨id, visited, here⟩ := List.mem_flatMap.mp refers
    obtain ⟨exporting, specifier, inside, isLocal⟩ := named_reference here
    exact .inr ⟨specifier, List.mem_flatMap.mpr ⟨id, mem_namedExports.mpr ⟨visited, exporting⟩,
      inside⟩, isLocal⟩

end Origin

section Readings

variable {arena : Arena} {path : FilePath} {start id : Nat} {name : String}

/-- The name of a record that a visited node contributes to both readings is reported by both. -/
theorem bothReport_of_contributed {record : ExportRecord} (visited : id ∈ arena.walk start)
    (contributed : record ∈ JavaScript.contribution arena path id)
    (typed : record ∈ TypeScript.contribution arena path id) (filled : record.name ≠ "") :
    BothReport arena path start record.name := by
  have fresh : record.name ∉ [""] := by simpa using filled
  constructor
  · rw [JavaScript.recordsFrom_eq_dedup, dedup, mem_map_firstOfEach]
    exact ⟨List.mem_map_of_mem (List.mem_flatMap.mpr ⟨id, visited, contributed⟩), fresh⟩
  · rw [TypeScript.recordsFrom_eq_dedup, dedup, mem_map_firstOfEach]
    exact ⟨List.mem_map_of_mem (List.mem_flatMap.mpr ⟨id, visited, typed⟩), fresh⟩

/-- What an export statement that is no default contributes to the untyped reading. -/
theorem untyped_contribution (exporting : isNamedExport arena id = true) :
    JavaScript.contribution arena path id =
      ((arena.field? id "declaration").map (JavaScript.declarationRecords arena)).getD [] ++
        ((arena.childOfKind? id "export_clause").map (JavaScript.clauseRecords arena)).getD [] := by
  obtain ⟨-, isExport, plain⟩ := isNamedExport_iff.mp exporting
  rw [isDefaultExport] at plain
  rw [JavaScript.contribution, isExport]
  simp [JavaScript.statementRecords, plain]

theorem typed_contribution (exporting : isNamedExport arena id = true) :
    TypeScript.contribution arena path id = TypeScript.namedRecords arena id := by
  obtain ⟨atTop, isExport, plain⟩ := isNamedExport_iff.mp exporting
  rw [isDefaultExport] at plain
  have top : TypeScript.isTopLevel arena id = true := atTop
  rw [TypeScript.contribution]
  simp [isExport, top, plain]

/-- A component that a declaration binds is a function or a variable for both readings. -/
theorem declared_records {declaration : Nat} (declares : name ∈ declaredNames arena declaration)
    (declarators : ∀ child ∈ arena.namedChildren declaration, (boundValue? arena child).isSome →
      arena.kind child = "variable_declarator") :
    arena.kind declaration ∈ commonDeclarationKinds ∧
      ∃ record ∈ JavaScript.declarationRecords arena declaration, record.name = name := by
  obtain ⟨component, member, rfl⟩ := List.mem_map.mp declares
  unfold declaredBy at member
  split at member
  · next isFunction =>
    cases found : arena.field? declaration "name" with
    | none => simp [found] at member
    | some node =>
      rw [found, Option.elim_some] at member
      refine ⟨by simp [isFunction, commonDeclarationKinds], .named (arena.text node) .function, ?_,
        (mem_declared member).1.symm⟩
      simp [JavaScript.declarationRecords, isFunction, JavaScript.callableKind?, found]
  · split at member
    · next isVariable =>
      obtain ⟨⟨node, value⟩, bound, inside⟩ := List.mem_flatMap.mp member
      obtain ⟨declarator, child, isBound⟩ := List.mem_filterMap.mp bound
      have isDeclarator := declarators declarator child (by rw [isBound]; rfl)
      have isNode : JavaScript.declaratorName? arena declarator = some node := by
        rw [JavaScript.declaratorName?, if_pos isDeclarator]
        unfold boundValue? at isBound
        obtain ⟨other, isName, rest⟩ := Option.bind_eq_some_iff.mp isBound
        obtain ⟨_, -, same⟩ := Option.bind_eq_some_iff.mp rest
        obtain ⟨rfl, -⟩ := Prod.mk.inj (Option.some.inj same)
        exact isName
      have common : arena.kind declaration ∈ commonDeclarationKinds := by
        simp only [List.contains_eq_mem, decide_eq_true_eq, List.mem_cons, List.not_mem_nil,
          or_false] at isVariable
        rcases isVariable with kind | kind <;> simp [kind, commonDeclarationKinds]
      refine ⟨common, .named (arena.text node) .variable, ?_, (mem_declared inside).1.symm⟩
      rw [JavaScript.declarationRecords, if_pos isVariable]
      exact List.mem_map.mpr ⟨node, List.mem_filterMap.mpr ⟨declarator, child, isNode⟩, rfl⟩
    · cases member

theorem bothReport_of_declared {declaration : Nat}
    (exported : declaration ∈ exportedDeclarations arena start)
    (declares : name ∈ declaredNames arena declaration) (filled : name ≠ "")
    (declarators : ∀ child ∈ arena.namedChildren declaration, (boundValue? arena child).isSome →
      arena.kind child = "variable_declarator") : BothReport arena path start name := by
  obtain ⟨id, exporting, found⟩ := List.mem_filterMap.mp exported
  obtain ⟨visited, exporting⟩ := mem_namedExports.mp exporting
  obtain ⟨common, record, member, rfl⟩ := declared_records declares declarators
  refine bothReport_of_contributed visited ?_ ?_ filled
  · rw [untyped_contribution exporting, found]
    exact List.mem_append_left _ member
  · rw [typed_contribution exporting, TypeScript.namedRecords, found, Option.map_some,
      ← declarationRecords_eq arena arena.size common]
    exact List.mem_append_left _ (List.mem_append_left _ member)

theorem bothReport_of_listed {specifier : Nat} (exported : specifier ∈ exportSpecifiers arena start)
    (isName : exportedName? arena specifier = some name) (filled : name ≠ "") :
    BothReport arena path start name := by
  obtain ⟨id, exporting, inside⟩ := List.mem_flatMap.mp exported
  obtain ⟨visited, exporting⟩ := mem_namedExports.mp exporting
  obtain ⟨node, isNode, rfl⟩ := Option.map_eq_some_iff.mp isName
  cases found : arena.childOfKind? id "export_clause" with
  | none => simp [clauseSpecifiers, found] at inside
  | some clause =>
    rw [clauseSpecifiers, found, Option.elim_some] at inside
    obtain ⟨record, isName, member⟩ : ∃ record : ExportRecord, record.name = arena.text node ∧
        record ∈ JavaScript.clauseRecords arena clause :=
      ⟨.named (arena.text node) .reExport, rfl,
        List.mem_map.mpr ⟨node, List.mem_filterMap.mpr ⟨specifier, inside, isNode⟩, rfl⟩⟩
    rw [← isName] at filled ⊢
    refine bothReport_of_contributed visited ?_ ?_ filled
    · rw [untyped_contribution exporting, found]
      exact List.mem_append_right _ member
    · rw [typed_contribution exporting, TypeScript.namedRecords, found, Option.map_some,
        ← clauseRecords_eq]
      exact List.mem_append_left _ (List.mem_append_right _ member)

end Readings

/-- A component that is reported as a named export is declared by an export statement, or it is the
local name in an export specifier. Both other readings report the declared name, and of a specifier
the exported one. So they report the name of the component unless an alias hides it. -/
theorem named_components_are_exported {arena : Arena} {start : Nat}
    (binds : BindsInDeclarators arena start) (path : FilePath) :
    ∀ record ∈ recordsFrom arena path start, record.exportKind = some .named →
      ExportsComponent arena path start record.name ∧
        ((∀ specifier ∈ exportSpecifiers arena start,
            localName? arena specifier = some record.name →
              exportedName? arena specifier = some record.name) →
          BothReport arena path start record.name) := by
  intro record member named
  obtain ⟨filled, ⟨declaration, exported, declares⟩ | ⟨specifier, exported, lists⟩⟩ :=
    origin_of_named member named
  · have reported : BothReport arena path start record.name :=
      bothReport_of_declared exported declares filled (binds declaration exported)
    exact ⟨.declared exported declares reported, fun _ => reported⟩
  · refine ⟨.listed exported lists fun other isName => bothReport_of_listed exported isName,
      fun unaliased => ?_⟩
    exact bothReport_of_listed exported (unaliased specifier exported lists) filled

/-- A component behind which a list exports it is reported by all readings. -/
theorem named_components_are_exported_of_list :
    BindsInDeclarators listBehind 0 ∧
      ∃ record ∈ recordsFrom listBehind ⟨"A.jsx"⟩ 0,
        record.exportKind = some .named ∧ BothReport listBehind ⟨"A.jsx"⟩ 0 record.name := by
  have binds : BindsInDeclarators listBehind 0 := by
    rw [BindsInDeclarators, exportedDeclarations, namedExports, listBehind, Arena.walk_ofTree]
    decide +kernel
  have listed : ∃ record ∈ recordsFrom listBehind ⟨"A.jsx"⟩ 0,
      record.exportKind = some .named ∧ ∀ specifier ∈ exportSpecifiers listBehind 0,
        localName? listBehind specifier = some record.name →
          exportedName? listBehind specifier = some record.name := by
    rw [recordsFrom, exportSpecifiers, namedExports, listBehind, Arena.walk_ofTree]
    decide +kernel
  obtain ⟨record, member, named, unaliased⟩ := listed
  exact ⟨binds, record, member, named,
    (named_components_are_exported binds ⟨"A.jsx"⟩ record member named).2 unaliased⟩

/-- The statement `export { A as B };` from an offset on. -/
def aliasAt (start : Nat) : ParseTree :=
  .notion "export_statement" start (start + 18) [
    (none, .token "export" start),
    (none, .notion "export_clause" (start + 7) (start + 17) [
      (none, .token "\x7b" (start + 7)),
      (none, .notion "export_specifier" (start + 9) (start + 15) [
        (some "name", .notion "identifier" (start + 9) (start + 10) []),
        (none, .token "as" (start + 11)),
        (some "alias", .notion "identifier" (start + 14) (start + 15) [])]),
      (none, .token "\x7d" (start + 16))]),
    (none, .token ";" (start + 17))]

def aliasBehind : Arena :=
  .ofTree "const A = () => <i/>; export { A as B };"
    (.notion "program" 0 40 [(none, bindingAt 0), (none, aliasAt 22)])

/-- Behind an alias a component is reported under a name that the module does not export. -/
theorem alias_hides_component :
    ∃ record ∈ recordsFrom aliasBehind ⟨"A.jsx"⟩ 0, record.exportKind = some .named ∧
      (∀ declaration ∈ exportedDeclarations aliasBehind 0,
        record.name ∉ declaredNames aliasBehind declaration) ∧
      (∀ specifier ∈ exportSpecifiers aliasBehind 0,
        exportedName? aliasBehind specifier ≠ some record.name) ∧
      record.name ∉ (JavaScript.recordsFrom aliasBehind ⟨"A.jsx"⟩ 0).map ExportRecord.name ∧
      record.name ∉ (TypeScript.recordsFrom aliasBehind ⟨"A.jsx"⟩ 0).map ExportRecord.name := by
  rw [recordsFrom, exportedDeclarations, exportSpecifiers, namedExports, JavaScript.recordsFrom,
    TypeScript.recordsFrom, aliasBehind, Arena.walk_ofTree]
  decide +kernel

end ExportIndex.Component
