import ExportIndex.Proofs.Arena.Content
import ExportIndex.Proofs.Component.Parallel
import ExportIndex.Proofs.Component.Report
import Mathlib

/-
This file shows that components do not depend on where a module exports them by name. What a
statement declares and which names it exports are matters of its content; lists of exports declare
nothing, and may stand anywhere.
-/

namespace ExportIndex

namespace ParseTree

/-- What a default export exports. -/
def defaultTarget? (tree : ParseTree) : Option ParseTree :=
  (tree.field? "declaration").or (tree.field? "value")

/-- A statement `export { X }` or `export default X`. -/
def exportsByName (tree : ParseTree) : Bool :=
  tree.label.kind == "export_statement" &&
    if tree.hasChild "default" then
      tree.defaultTarget?.any fun target => target.label.kind == "identifier"
    else tree.hasChild "export_clause"

/-- Whether a module stands within a tree. No grammar puts one into a statement. -/
def nestsModule (tree : ParseTree) : Bool :=
  tree.labels.any fun label => label.kind == "program"

/-- A statement may declare a component unless all that it does is to export by name. -/
def mayDeclare (tree : ParseTree) : Bool :=
  !tree.exportsByName || (!tree.hasChild "default" && (tree.field? "declaration").isSome) ||
    tree.nestsModule

/-- Whether a statement may export a name without declaring it. -/
def mayRefer (tree : ParseTree) : Bool := tree.exportsByName || tree.nestsModule

end ParseTree

namespace Component

open Arena

section Alike

variable {first second : Arena} {bound id twin : Nat}

theorem isComponent_eq (alike : first.Alike second bound id twin) :
    isComponent first id = isComponent second twin := by
  obtain ⟨size, alike, inFirst, inSecond⟩ := alike.within
  exact isComponent_parallel (parallel_alike first second) alike (Nat.le_succ_of_le inFirst)
    (Nat.le_succ_of_le inSecond)

theorem props_eq (alike : first.Alike second bound id twin) :
    props first id = props second twin :=
  props_parallel (parallel_alike first second) alike

theorem declared_eq (alike : first.Alike second bound id twin) (name : String)
    (exportKind : Option ExportKind) :
    declared first name id exportKind = declared second name twin exportKind := by
  rw [declared, declared, isComponent_eq alike, props_eq alike]

theorem boundValue?_alike (alike : first.Alike second bound id twin) :
    Option.Rel (fun here there => first.Alike second bound here.1 there.1 ∧
        first.Alike second bound here.2 there.2)
      (boundValue? first id) (boundValue? second twin) := by
  have names : Option.Rel (first.Alike second bound)
      ((first.field? id "name").filter fun name => first.kind name == "identifier")
      ((second.field? twin "name").filter fun name => second.kind name == "identifier") :=
    rel_filter (alike.succ.field? "name") fun _ _ name => by rw [name.kind_eq]
  exact rel_bind names fun _ _ name =>
    rel_bind (alike.succ.field? "value") fun _ _ value => .some ⟨name, value⟩

theorem declaredBy_eq (alike : first.Alike second bound id twin)
    (exportKind : Option ExportKind) :
    declaredBy first id exportKind = declaredBy second twin exportKind := by
  unfold declaredBy
  rw [alike.kind_eq]
  split
  · exact elim_eq_of_rel (alike.succ.field? "name") fun _ _ name => by
      rw [name.text_eq, declared_eq alike]
  · split
    · refine flatMap_eq_of_forall₂ (List.rel_filterMap
        (fun _ _ declarator => boundValue?_alike declarator) alike.succ.namedChildren)
        fun (name, value) (other, mate) ⟨names, values⟩ => ?_
      simp only at names values
      simp only [names.text_eq, declared_eq values]
    · rfl

theorem defaultTarget?_alike (alike : first.Alike second bound id twin) :
    Option.Rel (first.Alike second bound) (defaultTarget? first id)
      (defaultTarget? second twin) :=
  rel_or (alike.succ.field? "declaration") (alike.succ.field? "value")

theorem isDefaultExport_eq (alike : first.Alike second bound id twin) :
    isDefaultExport first id = isDefaultExport second twin :=
  isSome_eq_of_rel (alike.succ.childOfKind? "default")

theorem exportDeclarations_eq (alike : first.Alike second bound id twin) (path : FilePath) :
    exportDeclarations first path id = exportDeclarations second path twin := by
  unfold exportDeclarations defaultDeclarations
  rw [isDefaultExport_eq alike]
  split
  · refine elim_eq_of_rel (defaultTarget?_alike alike) fun target other related => ?_
    have names := map_eq_of_rel (related.succ.field? "name") fun _ _ name => name.text_eq
    rw [related.kind_eq, names, declared_eq related]
  · exact elim_eq_of_rel (alike.succ.field? "declaration") fun _ _ declaration =>
      declaredBy_eq declaration _

theorem exportReferences_eq (alike : first.Alike second bound id twin) :
    exportReferences first id = exportReferences second twin := by
  unfold exportReferences defaultReferences
  rw [isDefaultExport_eq alike]
  split
  · refine elim_eq_of_rel (defaultTarget?_alike alike) fun target other related => ?_
    rw [related.kind_eq, related.text_eq]
  · refine elim_eq_of_rel (alike.succ.childOfKind? "export_clause") fun clause other related => ?_
    have names := List.rel_filterMap (fun _ _ specifier => specifier.succ.field? "name")
      related.succ.namedChildren
    rw [List.map_eq_flatMap, List.map_eq_flatMap]
    exact flatMap_eq_of_forall₂ names fun _ _ name => by rw [name.text_eq]

theorem isModuleLevel_eq (same : SamePlace first second id twin) :
    isModuleLevel first id = isModuleLevel second twin :=
  same.below_eq "program"

theorem declarationsAt_eq (same : SamePlace first second id twin) (path : FilePath) :
    declarationsAt first path id = declarationsAt second path twin := by
  obtain ⟨bound, alike⟩ := same.1
  rw [declarationsAt, declarationsAt, isModuleLevel_eq same, alike.kind_eq,
    exportDeclarations_eq alike, declaredBy_eq alike]

theorem referencesAt_eq (same : SamePlace first second id twin) :
    referencesAt first id = referencesAt second twin := by
  obtain ⟨bound, alike⟩ := same.1
  rw [referencesAt, referencesAt, isModuleLevel_eq same, alike.kind_eq,
    exportReferences_eq alike]

end Alike

section Silent

variable {arena : Arena}

mutual

/-- Nothing below a statement is at the level of a module unless a module is nested in it. -/
theorem inner_tree {id : Nat} {parent : Option Nat}
    (root : (parent.any fun above => arena.kind above == "program") = false) :
    (tree : ParseTree) → arena.Shows id parent tree → tree.nestsModule = false →
      ∀ inner ∈ List.range' id tree.size, isModuleLevel arena inner = false
  | .node label children, shown, flat, inner, member => by
    rw [ParseTree.nestsModule, ParseTree.labels, List.any_cons, Bool.or_eq_false_iff] at flat
    rw [ParseTree.size, List.range'_succ] at member
    rcases List.mem_cons.mp member with rfl | below
    · rw [isModuleLevel, parent?, shown.node?_eq]
      exact root
    · refine inner_children ?_ children shown.below flat.2 inner below
      rw [shown.kind_eq]
      exact flat.1

theorem inner_children {next above : Nat} (root : (arena.kind above == "program") = false) :
    (children : List (Option String × ParseTree)) →
      arena.Holds next (nodesAmong next above children) →
      ((ParseTree.labelsAmong children).any fun label => label.kind == "program") = false →
        ∀ inner ∈ List.range' next (ParseTree.sizeOfChildren children),
          isModuleLevel arena inner = false
  | [], _, _, _, member => absurd member List.not_mem_nil
  | (_, child) :: rest, holds, flat, inner, member => by
    rw [ParseTree.labelsAmong, List.any_append, Bool.or_eq_false_iff] at flat
    rw [nodesAmong, holds_append, length_nodesFrom] at holds
    rw [ParseTree.sizeOfChildren, ← List.range'_append_1] at member
    rcases List.mem_append.mp member with here | behind
    · have roots : ((some above).any fun above => arena.kind above == "program") = false := root
      exact inner_tree roots child holds.1 flat.1 inner here
    · exact inner_children root rest holds.2 flat.2 inner behind

end

variable {id parent : Nat} {tree : ParseTree} (shown : arena.Shows id (some parent) tree)

include shown

/-- A default export is a name where its tree says so. -/
theorem any_defaultTarget? :
    ((defaultTarget? arena id).any fun target => arena.kind target == "identifier") =
      tree.defaultTarget?.any fun target => target.label.kind == "identifier" :=
  any_eq_of_rel (rel_or (shown.field? "declaration") (shown.field? "value"))
    fun _ _ target => by rw [target.kind_eq]

theorem isDefaultExport_eq_hasChild : isDefaultExport arena id = tree.hasChild "default" :=
  shown.childOfKind?_isSome "default"

/-- A statement that only exports by name declares nothing. -/
theorem declarationsAt_silent (path : FilePath) (silent : tree.mayDeclare = false) :
    declarationsAt arena path id = [] := by
  simp only [ParseTree.mayDeclare, ParseTree.exportsByName, Bool.or_eq_false_iff,
    Bool.not_eq_false', Bool.and_eq_true, beq_iff_eq] at silent
  obtain ⟨⟨⟨kind, exports⟩, undeclared⟩, _⟩ := silent
  rw [declarationsAt, shown.kind_eq, if_pos kind, exportDeclarations,
    isDefaultExport_eq_hasChild shown]
  cases byDefault : tree.hasChild "default" with
  | true =>
    rw [byDefault, if_pos rfl, ← any_defaultTarget? shown] at exports
    unfold defaultDeclarations
    cases isTarget : defaultTarget? arena id with
    | none => simp
    | some target =>
      rw [isTarget, Option.any_some, beq_iff_eq] at exports
      simp [exports]
  | false =>
    rw [byDefault, Bool.not_false, Bool.true_and, Option.isSome_eq_false_iff,
      Option.isNone_iff_eq_none] at undeclared
    simp [shown.field?_of_none undeclared]

/-- A statement that does not export by name gives no names. -/
theorem referencesAt_silent (silent : tree.mayRefer = false) :
    referencesAt arena id = [] := by
  obtain ⟨exports, _⟩ := Bool.or_eq_false_iff.mp silent
  rw [referencesAt, shown.kind_eq, exportReferences, isDefaultExport_eq_hasChild shown]
  by_cases kind : tree.label.kind = "export_statement"
  · rw [ParseTree.exportsByName, kind, beq_self_eq_true, Bool.true_and] at exports
    cases byDefault : tree.hasChild "default" with
    | true =>
      rw [byDefault, if_pos rfl, ← any_defaultTarget? shown] at exports
      unfold defaultReferences
      cases isTarget : defaultTarget? arena id with
      | none => simp
      | some target =>
        rw [isTarget, Option.any_some, beq_eq_false_iff_ne] at exports
        simp [exports]
    | false =>
      rw [byDefault, if_neg Bool.false_ne_true] at exports
      have absent : arena.childOfKind? id "export_clause" = none := by
        rw [← Option.isNone_iff_eq_none, ← Option.isSome_eq_false_iff,
          shown.childOfKind?_isSome, exports]
      simp [absent]
  · simp [kind]

end Silent

/-- A way to gather things from the nodes of an arena, such that only statements of modules give
anything, and what they give is up to their content. -/
structure Gathering (A : Type) where
  /-- What a node gives. -/
  gather : Arena → Nat → List A
  /-- Whether a statement may give anything. -/
  keep : ParseTree → Bool
  same : ∀ {first second : Arena} {id twin : Nat}, SamePlace first second id twin →
    gather first id = gather second twin
  inner : ∀ {arena : Arena} {id : Nat}, isModuleLevel arena id = false → gather arena id = []
  silent : ∀ {arena : Arena} {id parent : Nat} {tree : ParseTree},
    arena.Shows id (some parent) tree → keep tree = false → gather arena id = []
  flat : ∀ {tree : ParseTree}, keep tree = false → tree.nestsModule = false

def gatherDeclarations (path : FilePath) : Gathering Declaration where
  gather arena := declarationsAt arena path
  keep := ParseTree.mayDeclare
  same same := declarationsAt_eq same path
  inner inner := by simp [declarationsAt, inner]
  silent shown := declarationsAt_silent shown path
  flat keep := (Bool.or_eq_false_iff.mp keep).2

def gatherReferences : Gathering (String × ExportKind) where
  gather := referencesAt
  keep := ParseTree.mayRefer
  same := referencesAt_eq
  inner inner := by simp [referencesAt, inner]
  silent := referencesAt_silent
  flat keep := (Bool.or_eq_false_iff.mp keep).2

namespace Gathering

variable {A : Type} (gathering : Gathering A)

/-- A statement that gives nothing has nothing below it that does. -/
theorem statement_silent {arena : Arena} {id parent : Nat} {tree : ParseTree}
    (shown : arena.Shows id (some parent) tree) (silent : gathering.keep tree = false) :
    (List.range' id tree.size).flatMap (gathering.gather arena) = [] := by
  have root := gathering.silent shown silent
  have flat := gathering.flat silent
  cases tree with
  | node label children =>
    rw [ParseTree.nestsModule, ParseTree.labels, List.any_cons, Bool.or_eq_false_iff] at flat
    have apart : (arena.kind id == "program") = false := shown.kind_eq ▸ flat.1
    have below := inner_children apart children shown.below flat.2
    rw [ParseTree.size, List.range'_succ, List.flatMap_cons, root, List.nil_append,
      List.flatMap_eq_nil_iff]
    exact fun node member => gathering.inner (below node member)

/-- The root of a module gives nothing itself. -/
theorem flatMap_walk (source : String) (root : Label)
    (statements : List (Option String × ParseTree)) :
    ((ofTree source (.node root statements)).walk 0).flatMap
        (gathering.gather (ofTree source (.node root statements))) =
      (List.range' 1 (ParseTree.sizeOfChildren statements)).flatMap
        (gathering.gather (ofTree source (.node root statements))) := by
  have top : isModuleLevel (ofTree source (.node root statements)) 0 = false := by
    rw [isModuleLevel, parent?, (shows_ofTree source (.node root statements)).node?_eq]
    rfl
  rw [walk_ofTree, List.range_eq_range', ParseTree.size, List.range'_succ, List.flatMap_cons,
    gathering.inner top, List.nil_append]

/-- What is gathered from a module does not depend on where the statements are that give
nothing. -/
theorem flatMap_walk_rearranged {source other : String} {root label : Label}
    {statements others : List (Option String × ParseTree)} (isModule : root.kind = label.kind)
    (rearranged :
      ((statements.map Prod.snd).filter gathering.keep).map (ParseTree.content source.toList) =
        ((others.map Prod.snd).filter gathering.keep).map (ParseTree.content other.toList)) :
    ((ofTree source (.node root statements)).walk 0).flatMap
        (gathering.gather (ofTree source (.node root statements))) =
      ((ofTree other (.node label others)).walk 0).flatMap
        (gathering.gather (ofTree other (.node label others))) := by
  have shown := shows_ofTree source (.node root statements)
  have shownOther := shows_ofTree other (.node label others)
  rw [gathering.flatMap_walk, gathering.flatMap_walk]
  refine flatMap_rearranged gathering.keep ?_ shown.below shownOther.below
    (fun _ _ => gathering.same) (fun _ _ => gathering.statement_silent)
    (fun _ _ => gathering.statement_silent) ?_
  · rw [shown.kind_eq, shownOther.kind_eq]
    exact isModule
  · rw [characters_ofTree, characters_ofTree]
    exact rearranged

end Gathering

/-- Two texts have the statements of a module in different places. What may declare a component
has kept its order, and so has what may export by name. -/
structure Rearranged (source other : String)
    (statements others : List (Option String × ParseTree)) : Prop where
  declaring :
    ((statements.map Prod.snd).filter ParseTree.mayDeclare).map (ParseTree.content source.toList) =
      ((others.map Prod.snd).filter ParseTree.mayDeclare).map (ParseTree.content other.toList)
  referring :
    ((statements.map Prod.snd).filter ParseTree.mayRefer).map (ParseTree.content source.toList) =
      ((others.map Prod.snd).filter ParseTree.mayRefer).map (ParseTree.content other.toList)

/-- The components of a module follow from two sequences, those that it declares and the names that
it exports elsewhere, each in the order of the source. So lists of exports and defaults by name may
stand anywhere, as long as they keep their own order. -/
theorem components_follow_sequences (path : FilePath) :
    (∀ arena start,
      recordsFrom arena path start =
        report (declarations arena path start) (references arena start) ∧
      Reports (declarations arena path start) (references arena start)
        (recordsFrom arena path start)) ∧
    ∀ source other root label statements others, root.kind = "program" → label.kind = "program" →
      Rearranged source other statements others →
        recordsFrom (ofTree source (.node root statements)) path 0 =
          recordsFrom (ofTree other (.node label others)) path 0 := by
  have reported (arena : Arena) (start : Nat) := recordsFrom_eq_report arena path start
  refine ⟨fun arena start => ⟨reported arena start, ?_⟩, ?_⟩
  · rw [reported]
    exact reports_report _ _
  · intro source other root label statements others isModule isOther rearranged
    have kinds : root.kind = label.kind := isModule.trans isOther.symm
    have declared : declarations (ofTree source (.node root statements)) path 0 =
        declarations (ofTree other (.node label others)) path 0 :=
      (gatherDeclarations path).flatMap_walk_rearranged kinds rearranged.declaring
    have referred : references (ofTree source (.node root statements)) 0 =
        references (ofTree other (.node label others)) 0 :=
      gatherReferences.flatMap_walk_rearranged kinds rearranged.referring
    rw [reported, reported, declared, referred]

/-- The statement `const A = () => <i/>;` from an offset on. -/
def bindingAt (start : Nat) : ParseTree :=
  .notion "lexical_declaration" start (start + 21) [
    (some "kind", .token "const" start),
    (none, .notion "variable_declarator" (start + 6) (start + 20) [
      (some "name", .notion "identifier" (start + 6) (start + 7) []),
      (none, .token "=" (start + 8)),
      (some "value", .notion "arrow_function" (start + 10) (start + 20) [
        (some "parameters", .notion "formal_parameters" (start + 10) (start + 12) [
          (none, .token "(" (start + 10)),
          (none, .token ")" (start + 11))]),
        (none, .token "=>" (start + 13)),
        (some "body", .notion "jsx_self_closing_element" (start + 16) (start + 20) [
          (none, .token "<" (start + 16)),
          (some "name", .notion "identifier" (start + 17) (start + 18) []),
          (none, .token "/>" (start + 18))])])]),
    (none, .token ";" (start + 20))]

/-- The statement `export { A };` from an offset on. -/
def listAt (start : Nat) : ParseTree :=
  .notion "export_statement" start (start + 13) [
    (none, .token "export" start),
    (none, .notion "export_clause" (start + 7) (start + 12) [
      (none, .token "\x7b" (start + 7)),
      (none, .notion "export_specifier" (start + 9) (start + 10) [
        (some "name", .notion "identifier" (start + 9) (start + 10) [])]),
      (none, .token "\x7d" (start + 11))]),
    (none, .token ";" (start + 12))]

def listBehind : Arena :=
  .ofTree "const A = () => <i/>; export { A };"
    (.notion "program" 0 35 [(none, bindingAt 0), (none, listAt 22)])

def listBefore : Arena :=
  .ofTree "export { A }; const A = () => <i/>;"
    (.notion "program" 0 35 [(none, listAt 0), (none, bindingAt 14)])

theorem rearranged_list :
    Rearranged "const A = () => <i/>; export { A };" "export { A }; const A = () => <i/>;"
      [(none, bindingAt 0), (none, listAt 22)] [(none, listAt 0), (none, bindingAt 14)] where
  declaring := by decide +kernel
  referring := by decide +kernel

/-- A list of exports that comes before the declaration gives the same as one behind it. -/
theorem components_follow_sequences_of_list :
    recordsFrom listBehind ⟨"A.jsx"⟩ 0 = [(.named "A" .component : ExportRecord).withMetadata
      (.props [])] ∧
      recordsFrom listBehind ⟨"A.jsx"⟩ 0 = recordsFrom listBefore ⟨"A.jsx"⟩ 0 := by
  refine ⟨?_, (components_follow_sequences ⟨"A.jsx"⟩).2 _ _ _ _ _ _ rfl rfl rearranged_list⟩
  rw [recordsFrom, listBehind, walk_ofTree]
  decide +kernel

end Component

end ExportIndex
