import ExportIndex.Component.Exports
import ExportIndex.Proofs.Record.Distinct
import Mathlib

/-
This file says which components of a module are reported. The search changes its records on the
way, but what it comes to depends on two sequences alone: the components that are declared, and
the names that are exported elsewhere than at their declaration.
-/

namespace ExportIndex.Component

/-- A component that is declared, and how its declaration exports it. -/
structure Declaration where
  name : String
  props : List ComponentProp
  exportKind : Option ExportKind
deriving DecidableEq, Repr, Inhabited

/-- The declaration of a function under a name, if that is a component. -/
def declared (arena : Arena) (name : String) (function : Nat) (exportKind : Option ExportKind) :
    List Declaration :=
  if isComponent arena function then [⟨name, props arena function, exportKind⟩] else []

/-- The components that a declaration binds. -/
def declaredBy (arena : Arena) (declaration : Nat) (exportKind : Option ExportKind) :
    List Declaration :=
  if arena.kind declaration = "function_declaration" then
    (arena.field? declaration "name").elim [] fun name =>
      declared arena (arena.text name) declaration exportKind
  else if ["lexical_declaration", "variable_declaration"].contains (arena.kind declaration) then
    ((arena.namedChildren declaration).filterMap (boundValue? arena)).flatMap
      fun (name, value) => declared arena (arena.text name) value exportKind
  else []

def isModuleLevel (arena : Arena) (id : Nat) : Bool :=
  (arena.parent? id).any fun parent => arena.kind parent == "program"

def isDefaultExport (arena : Arena) (id : Nat) : Bool :=
  (arena.childOfKind? id "default").isSome

/-- What a default export exports. -/
def defaultTarget? (arena : Arena) (id : Nat) : Option Nat :=
  (arena.field? id "declaration").or (arena.field? id "value")

/-- The component that a default export declares, with a name of its own or without. -/
def defaultDeclarations (arena : Arena) (path : FilePath) (id : Nat) : List Declaration :=
  (defaultTarget? arena id).elim [] fun target =>
    if arena.kind target = "identifier" then []
    else declared arena
      (((arena.field? target "name").map arena.text).getD (anonymousDefault.nameFor path)) target
      (some .default)

/-- The name that is a default export. -/
def defaultReferences (arena : Arena) (id : Nat) : List (String × ExportKind) :=
  (defaultTarget? arena id).elim [] fun target =>
    if arena.kind target = "identifier" then [(arena.text target, .default)] else []

/-- The components that an export declares. -/
def exportDeclarations (arena : Arena) (path : FilePath) (id : Nat) : List Declaration :=
  if isDefaultExport arena id then defaultDeclarations arena path id
  else (arena.field? id "declaration").elim [] (declaredBy arena · (some .named))

/-- The names that an export lists, or the one that is its default. -/
def exportReferences (arena : Arena) (id : Nat) : List (String × ExportKind) :=
  if isDefaultExport arena id then defaultReferences arena id
  else (arena.childOfKind? id "export_clause").elim [] fun clause =>
    ((arena.namedChildren clause).filterMap (arena.field? · "name")).map
      fun name => (arena.text name, .named)

/-- The components that a node declares if it is a statement of the module. -/
def declarationsAt (arena : Arena) (path : FilePath) (id : Nat) : List Declaration :=
  if isModuleLevel arena id then
    if arena.kind id = "export_statement" then exportDeclarations arena path id
    else declaredBy arena id none
  else []

/-- The names that a node exports without declaring them if it is a statement of the module. -/
def referencesAt (arena : Arena) (id : Nat) : List (String × ExportKind) :=
  if isModuleLevel arena id then
    if arena.kind id = "export_statement" then exportReferences arena id else []
  else []

/-- The components that are declared in a module, in the order of the source. -/
def declarations (arena : Arena) (path : FilePath) (start : Nat) : List Declaration :=
  (arena.walk start).flatMap (declarationsAt arena path)

/-- The names that are exported by lists and by defaults, in the order of the source. -/
def references (arena : Arena) (start : Nat) : List (String × ExportKind) :=
  (arena.walk start).flatMap (referencesAt arena)

/-- The exports at the declarations themselves. -/
def exportsOf (declarations : List Declaration) : List (String × ExportKind) :=
  declarations.filterMap fun declaration =>
    declaration.exportKind.map fun kind => (declaration.name, kind)

/-- How the last export of a name among some exports exports it. -/
def lastExport? (exports : List (String × ExportKind)) (name : String) : Option ExportKind :=
  exports.reverse.lookup name

/-- The record of a component that is exported in some way, or not at all. -/
def Declaration.record (declaration : Declaration) (exportKind : Option ExportKind) :
    ExportRecord :=
  ⟨declaration.name, .component, exportKind.isSome, exportKind, some (.props declaration.props)⟩

/-- What is reported of components that are declared and of names that are exported. The first
declaration of a name stands for it. -/
def report (declarations : List Declaration) (references : List (String × ExportKind)) :
    List ExportRecord :=
  (firstOfEach Declaration.name [""] declarations).filterMap fun declaration =>
    ((lastExport? references declaration.name).or
      (lastExport? (exportsOf declarations) declaration.name)).map
      fun kind => declaration.record (some kind)

section Track

theorem lastExport?_append (first second : List (String × ExportKind)) (name : String) :
    lastExport? (first ++ second) name =
      (lastExport? second name).or (lastExport? first name) := by
  rw [lastExport?, List.reverse_append, List.lookup_append]
  rfl

theorem lastExport?_singleton (name other : String) (kind : ExportKind) :
    lastExport? [(name, kind)] other = if other = name then some kind else none := by
  rw [lastExport?, List.reverse_singleton, List.lookup_cons]
  split <;> simp_all

theorem lastExport?_eq_none_iff {exports : List (String × ExportKind)} {name : String} :
    lastExport? exports name = none ↔ ∀ kind, (name, kind) ∉ exports := by
  rw [lastExport?, List.lookup_eq_none_iff]
  constructor
  · intro apart kind member
    simpa using apart (name, kind) (List.mem_reverse.mpr member)
  · intro absent (other, kind) member
    simp only [bne_iff_ne]
    rintro rfl
    exact absent kind (List.mem_reverse.mp member)

theorem exportsOf_append (first second : List Declaration) :
    exportsOf (first ++ second) = exportsOf first ++ exportsOf second :=
  List.filterMap_append

theorem exportsOf_silent (name : String) (props : List ComponentProp) :
    exportsOf [⟨name, props, none⟩] = [] := rfl

theorem exportsOf_exporting (name : String) (props : List ComponentProp) (kind : ExportKind) :
    exportsOf [⟨name, props, some kind⟩] = [(name, kind)] := rfl

theorem mem_exportsOf {declarations : List Declaration} {name : String} {kind : ExportKind} :
    (name, kind) ∈ exportsOf declarations ↔
      ∃ declaration ∈ declarations, declaration.name = name ∧
        declaration.exportKind = some kind := by
  simp only [exportsOf, List.mem_filterMap, Option.map_eq_some_iff, Prod.mk.injEq]
  constructor
  · rintro ⟨declaration, member, other, exports, named, rfl⟩
    exact ⟨declaration, member, named, exports⟩
  · rintro ⟨declaration, member, named, exports⟩
    exact ⟨declaration, member, kind, exports, named, rfl⟩

/-- The records that are held when some components have been declared and some names exported. -/
def track (declarations : List Declaration) (exports : List (String × ExportKind)) :
    List ExportRecord :=
  (firstOfEach Declaration.name [] declarations).map fun declaration =>
    declaration.record (lastExport? exports declaration.name)

theorem names_track (declarations : List Declaration) (exports : List (String × ExportKind)) :
    (track declarations exports).map ExportRecord.name =
      (firstOfEach Declaration.name [] declarations).map Declaration.name := by
  rw [track, List.map_map]
  rfl

theorem track_distinct (declarations : List Declaration) (exports : List (String × ExportKind)) :
    ((track declarations exports).map ExportRecord.name).Nodup := by
  rw [names_track]
  exact firstOfEach_nodup _ _ _

theorem promote_eq_map {name : String} {kind : ExportKind} {records : List ExportRecord}
    (distinct : (records.map ExportRecord.name).Nodup) :
    Discovery.promote name kind records = records.map fun record =>
      if record.name = name then record.markExported kind else record := by
  induction records with
  | nil => rfl
  | cons record rest ih =>
    rw [List.map_cons, List.nodup_cons] at distinct
    rw [Discovery.promote, List.map_cons]
    split
    · next here =>
      have others : (rest.map fun record =>
          if record.name = name then record.markExported kind else record) = rest.map id := by
        refine List.map_congr_left fun other member => if_neg fun same => ?_
        exact distinct.1 (here.trans same.symm ▸ List.mem_map_of_mem member)
      rw [others, List.map_id]
    · rw [ih distinct.2]

theorem promote_track (name : String) (kind : ExportKind) (declarations : List Declaration)
    (exports : List (String × ExportKind)) :
    Discovery.promote name kind (track declarations exports) =
      track declarations (exports ++ [(name, kind)]) := by
  rw [promote_eq_map (track_distinct declarations exports), track, track, List.map_map]
  refine List.map_congr_left fun declaration _ => ?_
  rw [Function.comp_apply, lastExport?_append, lastExport?_singleton]
  split <;> simp_all [Declaration.record, ExportRecord.markExported]

theorem foldl_promote_track (declarations : List Declaration)
    (exports references : List (String × ExportKind)) :
    references.foldl (fun records (name, kind) => Discovery.promote name kind records)
      (track declarations exports) = track declarations (exports ++ references) := by
  induction references generalizing exports with
  | nil => rw [List.foldl_nil, List.append_nil]
  | cons reference rest ih =>
    obtain ⟨name, kind⟩ := reference
    rw [List.foldl_cons]
    simp only [promote_track]
    rw [ih, List.append_assoc, List.singleton_append]

/-- What is known when some components have been declared and some names noted. -/
def Discovery.after (declarations : List Declaration) (references : List (String × ExportKind)) :
    Discovery :=
  ⟨track declarations (exportsOf declarations), references⟩

variable {arena : Arena} {declarations : List Declaration}
  {references : List (String × ExportKind)}

/-- A component whose name is known only counts for its export. -/
theorem track_append_known {declaration : Declaration} {exports : List (String × ExportKind)}
    (known : declaration.name ∈ declarations.map Declaration.name) :
    track (declarations ++ [declaration]) exports = track declarations exports := by
  rw [track, track, firstOfEach_append, firstOfEach, if_pos (List.mem_append_left _ known),
    firstOfEach, List.append_nil]

theorem track_append_new {declaration : Declaration} {exports : List (String × ExportKind)}
    (new : declaration.name ∉ declarations.map Declaration.name) :
    track (declarations ++ [declaration]) exports =
      track declarations exports ++
        [declaration.record (lastExport? exports declaration.name)] := by
  have fresh : declaration.name ∉ declarations.map Declaration.name ++ [] := by simpa using new
  rw [track, track, firstOfEach_append, firstOfEach, if_neg fresh, firstOfEach, List.map_append,
    List.map_singleton]

/-- The export of a name that is not declared changes nothing. -/
theorem track_export_new {name : String} {kind : ExportKind} {exports : List (String × ExportKind)}
    (new : name ∉ declarations.map Declaration.name) :
    track declarations (exports ++ [(name, kind)]) = track declarations exports := by
  refine List.map_congr_left fun declaration member => ?_
  have apart : declaration.name ≠ name := fun same =>
    new (same ▸ List.mem_map_of_mem ((firstOfEach_sublist _ _ _).subset member))
  rw [lastExport?_append, lastExport?_singleton, if_neg apart, Option.none_or]

theorem lastExport?_new {name : String} (new : name ∉ declarations.map Declaration.name) :
    lastExport? (exportsOf declarations) name = none := by
  refine lastExport?_eq_none_iff.mpr fun kind member => ?_
  obtain ⟨declaration, listed, named, _⟩ := mem_exportsOf.mp member
  exact new (named ▸ List.mem_map_of_mem listed)

theorem any_name_track {name : String} {exports : List (String × ExportKind)} :
    ((track declarations exports).any fun record => record.name == name) = true ↔
      name ∈ declarations.map Declaration.name := by
  have named : ((track declarations exports).any fun record => record.name == name) = true ↔
      name ∈ (track declarations exports).map ExportRecord.name := by
    simp
  rw [named, names_track, mem_map_firstOfEach]
  simp

theorem addCandidate_after (name : String) (function : Nat) (exportKind : Option ExportKind) :
    (Discovery.after declarations references).addCandidate arena name function exportKind =
      .after (declarations ++ declared arena name function exportKind) references := by
  unfold Discovery.addCandidate declared Discovery.after
  split
  · simp only [any_name_track]
    split
    · next known =>
      rw [track_append_known known, exportsOf_append]
      cases exportKind with
      | none => rw [exportsOf_silent, List.append_nil]
      | some kind => rw [exportsOf_exporting, ← promote_track]
    · next new =>
      rw [track_append_new new, exportsOf_append, lastExport?_append, lastExport?_new new]
      cases exportKind with
      | none =>
        rw [exportsOf_silent, List.append_nil]
        rfl
      | some kind =>
        rw [exportsOf_exporting, track_export_new new, lastExport?_singleton, if_pos rfl]
        rfl
  · rw [List.append_nil]

theorem addBindings_after (bindings : List (Nat × Nat)) (exportKind : Option ExportKind) :
    bindings.foldl (fun (discovery : Discovery) (name, value) =>
        discovery.addCandidate arena (arena.text name) value exportKind)
        (.after declarations references) =
      .after (declarations ++ bindings.flatMap fun (name, value) =>
        declared arena (arena.text name) value exportKind) references := by
  induction bindings generalizing declarations with
  | nil => simp
  | cons binding rest ih =>
    obtain ⟨name, value⟩ := binding
    rw [List.foldl_cons, List.flatMap_cons]
    simp only [addCandidate_after]
    rw [ih, List.append_assoc]

theorem exportNames_after (names : List Nat) (kind : ExportKind) :
    names.foldl (fun (discovery : Discovery) name =>
        discovery.exportByName (arena.text name) kind) (.after declarations references) =
      .after declarations (references ++ names.map fun name => (arena.text name, kind)) := by
  induction names generalizing references with
  | nil => simp
  | cons name rest ih =>
    rw [List.foldl_cons, List.map_cons, List.append_cons]
    exact ih

theorem visitDeclaration_after (declaration : Nat) (exportKind : Option ExportKind) :
    visitDeclaration arena (.after declarations references) declaration exportKind =
      .after (declarations ++ declaredBy arena declaration exportKind) references := by
  unfold visitDeclaration declaredBy
  split
  · cases arena.field? declaration "name" with
    | none => simp
    | some name => exact addCandidate_after _ _ _
  · split
    · exact addBindings_after _ _
    · rw [List.append_nil]

theorem visitDefault_after (path : FilePath) (id : Nat) :
    visitDefault arena path (.after declarations references) id =
      .after (declarations ++ defaultDeclarations arena path id)
        (references ++ defaultReferences arena id) := by
  unfold visitDefault defaultDeclarations defaultReferences defaultTarget?
  cases (arena.field? id "declaration").or (arena.field? id "value") with
  | none => simp
  | some target =>
    by_cases named : arena.kind target = "identifier"
    · simp only [named, if_true, Option.elim_some, List.append_nil]
      rfl
    · simp only [named, if_false, Option.elim_some, List.append_nil, addCandidate_after]

theorem visitExport_after (path : FilePath) (id : Nat) :
    visitExport arena path (.after declarations references) id =
      .after (declarations ++ exportDeclarations arena path id)
        (references ++ exportReferences arena id) := by
  unfold visitExport exportDeclarations exportReferences isDefaultExport
  split
  · exact visitDefault_after path id
  · cases arena.field? id "declaration" with
    | none =>
      cases arena.childOfKind? id "export_clause" with
      | none => simp
      | some clause => simp [exportNames_after]
    | some declaration =>
      cases arena.childOfKind? id "export_clause" with
      | none => simp [visitDeclaration_after]
      | some clause => simp [visitDeclaration_after, exportNames_after]

theorem visit_after (path : FilePath) (id : Nat) :
    visit arena path (.after declarations references) id =
      .after (declarations ++ declarationsAt arena path id)
        (references ++ referencesAt arena id) := by
  unfold visit declarationsAt referencesAt isModuleLevel
  split
  · split
    · exact visitExport_after path id
    · rw [visitDeclaration_after, List.append_nil]
  · rw [List.append_nil, List.append_nil]

/-- The search comes to what its declarations and references say. -/
theorem foldl_visit_after (path : FilePath) (ids : List Nat) :
    ids.foldl (visit arena path) (.after declarations references) =
      .after (declarations ++ ids.flatMap (declarationsAt arena path))
        (references ++ ids.flatMap (referencesAt arena)) := by
  induction ids generalizing declarations references with
  | nil => simp
  | cons id rest ih =>
    rw [List.foldl_cons, visit_after, ih, List.flatMap_cons, List.flatMap_cons,
      List.append_assoc, List.append_assoc]

/-- Of the components that are held, those are exported that some export has reached. -/
theorem filter_exported_record (declarations : List Declaration)
    (exportKind : Declaration → Option ExportKind) :
    ((declarations.map fun declaration =>
        declaration.record (exportKind declaration)).filter ExportRecord.exported) =
      declarations.filterMap fun declaration =>
        (exportKind declaration).map fun kind => declaration.record (some kind) := by
  induction declarations with
  | nil => rfl
  | cons declaration rest ih =>
    rw [List.map_cons, List.filter_cons, List.filterMap_cons, ih]
    cases exportKind declaration <;> rfl

theorem filter_named_track (declarations : List Declaration)
    (exports : List (String × ExportKind)) :
    ((track declarations exports).filter fun record => record.name ∉ [""]) =
      (firstOfEach Declaration.name [""] declarations).map fun declaration =>
        declaration.record (lastExport? exports declaration.name) := by
  rw [track, List.filter_map, firstOfEach_cons_seen]
  congr 1
  refine List.filter_congr fun declaration _ => ?_
  simp [Declaration.record]

theorem finish_after (declarations : List Declaration) (references : List (String × ExportKind)) :
    (Discovery.after declarations references).finish = report declarations references := by
  rw [Discovery.finish, Discovery.after, foldl_promote_track, ExportRecord.dedup,
    firstOfEach_eq_filter, List.filter_comm, filter_named_track, filter_exported_record, report]
  · simp only [lastExport?_append]
  · exact (track_distinct _ _).sublist (List.filter_sublist.map _)

end Track

/-- The records of what is reached from a node are those that its declarations and references
ask for. -/
theorem recordsFrom_eq_report (arena : Arena) (path : FilePath) (start : Nat) :
    recordsFrom arena path start =
      report (declarations arena path start) (references arena start) := by
  have nothing : Discovery.empty = .after [] [] := rfl
  rw [recordsFrom, nothing, foldl_visit_after, finish_after]
  rfl

/-- What some records are to some components that are declared and some names that are exported
elsewhere. -/
structure Reports (declarations : List Declaration) (references : List (String × ExportKind))
    (records : List ExportRecord) : Prop where
  distinct : (records.map ExportRecord.name).Nodup
  /-- A name is reported if it is that of a component and some export has reached it. -/
  reported : ∀ name, name ∈ records.map ExportRecord.name ↔
    name ≠ "" ∧ (∃ declaration ∈ declarations, declaration.name = name) ∧
      ((∃ declaration ∈ declarations, declaration.name = name ∧ declaration.exportKind ≠ none) ∨
        ∃ kind, (name, kind) ∈ references)
  /-- The records come in the order in which their names are declared first. -/
  ordered : (records.map ExportRecord.name).Sublist
    (firstOfEach id [] (declarations.map Declaration.name))
  /-- The first declaration of a name has its props, the last reference to it, or else the last
  declaration that exports it, has its export kind. -/
  settled : ∀ record ∈ records, ∃ declaration kind,
    declarations.find? (fun other => other.name = record.name) = some declaration ∧
    (lastExport? references record.name).or (lastExport? (exportsOf declarations) record.name) =
      some kind ∧
    record = ⟨record.name, .component, true, some kind, some (.props declaration.props)⟩

section Report

variable {declarations : List Declaration} {references : List (String × ExportKind)}

theorem mem_report {record : ExportRecord} :
    record ∈ report declarations references ↔
      ∃ declaration ∈ firstOfEach Declaration.name [""] declarations, ∃ kind,
        (lastExport? references declaration.name).or
          (lastExport? (exportsOf declarations) declaration.name) = some kind ∧
        declaration.record (some kind) = record := by
  simp only [report, List.mem_filterMap, Option.map_eq_some_iff]

/-- Names are reported in the order of the declarations that stand for them. -/
theorem names_report_sublist (declarations : List Declaration)
    (references : List (String × ExportKind)) :
    ((report declarations references).map ExportRecord.name).Sublist
      ((firstOfEach Declaration.name [""] declarations).map Declaration.name) := by
  rw [report]
  generalize firstOfEach Declaration.name [""] declarations = kept
  induction kept with
  | nil => exact .slnil
  | cons declaration rest ih =>
    rw [List.filterMap_cons]
    cases (lastExport? references declaration.name).or
        (lastExport? (exportsOf declarations) declaration.name) with
    | none => exact ih.cons _
    | some kind => exact ih.cons_cons _

theorem mem_names_report {name : String} :
    name ∈ (report declarations references).map ExportRecord.name ↔
      (name ∈ declarations.map Declaration.name ∧ name ∉ [""]) ∧
        ∃ kind, (lastExport? references name).or
          (lastExport? (exportsOf declarations) name) = some kind := by
  rw [← mem_map_firstOfEach, List.mem_map]
  simp only [mem_report, List.mem_map]
  constructor
  · rintro ⟨_, ⟨declaration, kept, kind, exports, rfl⟩, rfl⟩
    exact ⟨⟨declaration, kept, rfl⟩, kind, exports⟩
  · rintro ⟨⟨declaration, kept, rfl⟩, kind, exports⟩
    exact ⟨_, ⟨declaration, kept, kind, exports, rfl⟩, rfl⟩

theorem lastExport?_or_eq_some {first second : List (String × ExportKind)} {name : String} :
    (∃ kind, (lastExport? first name).or (lastExport? second name) = some kind) ↔
      (∃ kind, (name, kind) ∈ second) ∨ ∃ kind, (name, kind) ∈ first := by
  rw [← lastExport?_append, ← Option.ne_none_iff_exists', Ne, lastExport?_eq_none_iff]
  simp only [not_forall, not_not, List.mem_append, exists_or]

theorem reports_report (declarations : List Declaration)
    (references : List (String × ExportKind)) :
    Reports declarations references (report declarations references) where
  distinct := (firstOfEach_nodup _ _ _).sublist (names_report_sublist declarations references)
  reported name := by
    have exporting : (∃ kind, (name, kind) ∈ exportsOf declarations) ↔
        ∃ declaration ∈ declarations, declaration.name = name ∧
          declaration.exportKind ≠ none := by
      simp only [mem_exportsOf, Option.ne_none_iff_exists']
      tauto
    rw [mem_names_report, lastExport?_or_eq_some, exporting, List.mem_map, List.mem_singleton]
    exact and_assoc.trans and_left_comm
  ordered := by
    refine (names_report_sublist declarations references).trans ?_
    rw [firstOfEach_cons_seen, ← map_firstOfEach]
    exact List.filter_sublist.map _
  settled record member := by
    obtain ⟨declaration, kept, kind, exports, rfl⟩ := mem_report.mp member
    exact ⟨declaration, kind, find?_eq_of_mem_firstOfEach _ kept, exports, rfl⟩

end Report

end ExportIndex.Component
