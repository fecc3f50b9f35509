import ExportIndex.Proofs.Arena.Joined
import ExportIndex.Proofs.Extraction.Alike
import ExportIndex.Proofs.Python.Alike
import ExportIndex.Python.Exports
import Mathlib

/-
This file shows that the exports of modules that are put behind each other are those of the
modules, merged: no statement depends on the ones before it.
-/

namespace ExportIndex

open Arena ExportRecord

variable {whole : Module} {parts : List Module}

/-- Records that a walk finds, one for each name, are merged from those that it finds in parts. -/
theorem Joins.dedup_walk (joins : Joins whole parts) {gather : Arena → Nat → List ExportRecord}
    (same : ∀ {first second : Arena} {id twin : Nat}, SamePlace first second id twin →
      gather first id = gather second twin)
    (silent : ∀ {arena : Arena}, IsRootKind (arena.kind 0) → gather arena 0 = []) :
    dedup ((whole.arena.walk 0).flatMap (gather whole.arena)) =
      merge (parts.map fun part => dedup ((part.arena.walk 0).flatMap (gather part.arena))) := by
  have merged := merge_map_dedup
    (parts.map fun part => (part.arena.walk 0).flatMap (gather part.arena))
  rw [List.map_map, ← List.flatMap_def, ← joins.flatMap_walk same silent] at merged
  exact merged.symm

/-- The records of an untyped module are those of its parts, merged. -/
theorem JavaScript.recordsFrom_joined (joins : Joins whole parts) (path : FilePath) :
    recordsFrom whole.arena path 0 =
      merge (parts.map fun part => recordsFrom part.arena path 0) := by
  have same {first second : Arena} {id twin : Nat} (place : SamePlace first second id twin) :
      contribution first path id = contribution second path twin := by
    obtain ⟨bound, alike⟩ := place.1
    exact contribution_alike alike path
  have silent {arena : Arena} (root : IsRootKind (arena.kind 0)) :
      contribution arena path 0 = [] := by
    rcases root with kind | kind <;> simp [contribution, kind]
  simp only [recordsFrom_eq_dedup]
  exact joins.dedup_walk same silent

/-- The records of a typed module are those of its parts, merged. -/
theorem TypeScript.recordsFrom_joined (joins : Joins whole parts) (path : FilePath) :
    recordsFrom whole.arena path 0 =
      merge (parts.map fun part => recordsFrom part.arena path 0) := by
  have same {first second : Arena} {id twin : Nat} (place : SamePlace first second id twin) :
      contribution first path id = contribution second path twin :=
    contribution_samePlace place path
  have silent {arena : Arena} (root : IsRootKind (arena.kind 0)) :
      contribution arena path 0 = [] := by
    rcases root with kind | kind <;> simp [contribution, kind]
  simp only [recordsFrom_eq_dedup]
  exact joins.dedup_walk same silent

namespace Python

/-- The names that the statements of a module define, private ones included. -/
def definedIn (path : FilePath) (part : Module) : Except ParseFailure (List String) :=
  topLevel (fun _ => part.tree) path part.source

/-- The names that a node defines if it is a statement. -/
def namesAt (arena : Arena) (id : Nat) : List String :=
  if arena.isNamed id then (defined arena (arena.size + 1) id).map arena.text else []

/-- The kind of a node if it is a statement of an earlier version of the language. -/
def formerAt (arena : Arena) (id : Nat) : List String :=
  if formerKinds.contains (arena.kind id) then [arena.kind id] else []

theorem formerStatement?_eq_none_iff (arena : Arena) :
    formerStatement? arena = none ↔ (arena.walk 0).flatMap (formerAt arena) = [] := by
  simp [formerStatement?, formerAt, List.find?_eq_none, List.flatMap_eq_nil_iff]

theorem flatMap_namesAt (arena : Arena) :
    (arena.children 0).flatMap (namesAt arena) =
      ((arena.namedChildren 0).flatMap (defined arena (arena.size + 1))).map arena.text := by
  have unnamed : ∀ id ∈ arena.children 0, arena.isNamed id = false → namesAt arena id = [] := by
    intro id _ literal
    rw [namesAt, literal, if_neg Bool.false_ne_true]
  rw [flatMap_eq_flatMap_filter arena.isNamed _ _ unnamed, List.map_flatMap]
  exact List.flatMap_congr fun id member => if_pos (List.mem_filter.mp member).2

/-- A module defines names if nothing in it is in error or out of date. -/
theorem definedIn_eq_ok_iff {path : FilePath} {part : Module} {names : List String} :
    definedIn path part = .ok names ↔
      part.ErrorFree ∧ (part.arena.walk 0).flatMap (formerAt part.arena) = [] ∧
        (part.arena.children 0).flatMap (namesAt part.arena) = names := by
  have free : part.ErrorFree ↔ part.arena.checked path = .ok () :=
    ((checked_eq_ok_iff _ _).trans (firstError?_eq_none_iff_labels part.source part.tree)).symm
  have same : Arena.ofTree part.source part.tree = part.arena := rfl
  rw [free, ← formerStatement?_eq_none_iff, flatMap_namesAt, definedIn, topLevel, same]
  cases part.arena.checked path with
  | error failure => simp [bind, Except.bind]
  | ok _ => cases formerStatement? part.arena <;> simp [bind, Except.bind, throw, pure, Except.pure]

theorem definedIn_joined (joins : Joins whole parts) {path : FilePath}
    {names : Module → List String} (each : ∀ part ∈ parts, definedIn path part = .ok (names part)) :
    definedIn path whole = .ok (parts.flatMap names) := by
  have sameNames {first second : Arena} {id twin : Nat} (place : SamePlace first second id twin) :
      namesAt first id = namesAt second twin := by
    obtain ⟨bound, alike⟩ := place.1
    rw [namesAt, namesAt, alike.isNamed_eq, defined_alike alike]
  have sameFormer {first second : Arena} {id twin : Nat} (place : SamePlace first second id twin) :
      formerAt first id = formerAt second twin := by
    obtain ⟨bound, alike⟩ := place.1
    rw [formerAt, formerAt, alike.kind_eq]
  have silent {arena : Arena} (root : IsRootKind (arena.kind 0)) : formerAt arena 0 = [] := by
    rcases root with kind | kind <;> simp [formerAt, formerKinds, kind]
  rw [definedIn_eq_ok_iff, joins.flatMap_walk sameFormer silent,
    (joins.flatMap_below sameNames).2, List.flatMap_eq_nil_iff]
  refine ⟨joins.errorFree fun part member => (definedIn_eq_ok_iff.mp (each part member)).1,
    fun part member => (definedIn_eq_ok_iff.mp (each part member)).2.1, ?_⟩
  exact List.flatMap_congr fun part member => (definedIn_eq_ok_iff.mp (each part member)).2.2

theorem filter_publicNames (names : List String) :
    ((publicNames names).filter fun name => !isPrivate name) = publicNames names := by
  rw [List.filter_eq_self]
  intro name member
  have kept : name ∈ names.filter fun name => !isPrivate name :=
    (firstOfEach_sublist id [""] _).subset member
  exact (List.mem_filter.mp kept).2

/-- It does not matter whether private and repeated names have been left out of parts before. -/
theorem publicNames_flatMap {A : Type} (names : A → List String) (items : List A) :
    publicNames (items.flatMap fun item => publicNames (names item)) =
      publicNames (items.flatMap names) := by
  have chosen : firstOfEach id [""] ((items.map fun item =>
        (names item).filter fun name => !isPrivate name).map (firstOfEach id [""])).flatten =
      firstOfEach id [""] (items.map fun item =>
        (names item).filter fun name => !isPrivate name).flatten :=
    firstOfEach_flatten id _ fun _ member => member
  rw [List.map_map, ← List.flatMap_def, ← List.flatMap_def] at chosen
  rw [publicNames, publicNames, List.filter_flatMap, List.filter_flatMap]
  simp only [filter_publicNames]
  exact chosen

end Python

/-- The exports of a module are merged from those of its parts. -/
structure Merged (path : FilePath) (whole : Module) (parts : List Module) : Prop where
  untyped : JavaScript.recordsFrom whole.arena path 0 =
    merge (parts.map fun part => JavaScript.recordsFrom part.arena path 0)
  typed : TypeScript.recordsFrom whole.arena path 0 =
    merge (parts.map fun part => TypeScript.recordsFrom part.arena path 0)
  names : ∀ names : Module → List String,
    (∀ part ∈ parts, Python.definedIn path part = .ok (names part)) →
      Python.definedIn path whole = .ok (parts.flatMap names) ∧
        Python.publicNames (parts.flatMap names) =
          Python.publicNames (parts.flatMap fun part => Python.publicNames (names part))

/-- Some parts have the same exports with and without one of them that exports nothing itself. -/
structure Indifferent (path : FilePath) (whole shorter before silent behind : Module) : Prop where
  untyped : JavaScript.recordsFrom silent.arena path 0 = [] →
    JavaScript.recordsFrom whole.arena path 0 = JavaScript.recordsFrom shorter.arena path 0
  typed : TypeScript.recordsFrom silent.arena path 0 = [] →
    TypeScript.recordsFrom whole.arena path 0 = TypeScript.recordsFrom shorter.arena path 0
  names : ∀ names : Module → List String,
    (∀ part ∈ [before, silent, behind], Python.definedIn path part = .ok (names part)) →
      Python.publicNames (names silent) = [] →
        ∃ own others, Python.definedIn path whole = .ok own ∧
          Python.definedIn path shorter = .ok others ∧
          Python.publicNames own = Python.publicNames others

theorem merged_of_joins (joins : Joins whole parts) (path : FilePath) :
    Merged path whole parts where
  untyped := JavaScript.recordsFrom_joined joins path
  typed := TypeScript.recordsFrom_joined joins path
  names names each :=
    ⟨Python.definedIn_joined joins each, (Python.publicNames_flatMap names parts).symm⟩

theorem indifferent_of_joins {whole shorter before silent behind : Module} {path : FilePath}
    (merged : Merged path whole [before, silent, behind])
    (others : Merged path shorter [before, behind]) :
    Indifferent path whole shorter before silent behind where
  untyped nothing := by
    rw [merged.untyped, others.untyped]
    simp [merge, nothing]
  typed nothing := by
    rw [merged.typed, others.typed]
    simp [merge, nothing]
  names names each nothing := by
    have fewer : ∀ part ∈ [before, behind], Python.definedIn path part = .ok (names part) := by
      intro part member
      refine each part ?_
      simp only [List.mem_cons, List.not_mem_nil, or_false] at member ⊢
      tauto
    obtain ⟨defined, kept⟩ := merged.names names each
    obtain ⟨definedOthers, keptOthers⟩ := others.names names fewer
    refine ⟨_, _, defined, definedOthers, ?_⟩
    rw [kept, keptOthers]
    simp [nothing]

/-- The exports of modules that are put behind each other are merged from those of the modules. So
what exports nothing itself may be put in anywhere, or left out. -/
theorem joined_exports_merge (path : FilePath) :
    (∀ whole parts, Joins whole parts → Merged path whole parts) ∧
      ∀ whole shorter before silent behind, Joins whole [before, silent, behind] →
        Joins shorter [before, behind] → Indifferent path whole shorter before silent behind :=
  ⟨fun _ _ joins => merged_of_joins joins path,
    fun _ _ _ _ _ joins others =>
      indifferent_of_joins (merged_of_joins joins path) (merged_of_joins others path)⟩

/-- A text of a single line with one statement. -/
def oneLine (source kind : String) (statement : ParseTree) : Module :=
  ⟨source, ⟨kind, true, 0, source.utf8ByteSize, 0, 0, false, false⟩, [(none, statement)]⟩

def declaringLine : Module := oneLine "export const a = 1;\n" "program" <|
  .notion "export_statement" 0 19 [
    (none, .token "export" 0),
    (some "declaration", .notion "lexical_declaration" 7 19 [
      (some "kind", .token "const" 7),
      (none, .notion "variable_declarator" 13 18 [
        (some "name", .notion "identifier" 13 14 []),
        (none, .token "=" 15),
        (some "value", .notion "number" 17 18 [])]),
      (none, .token ";" 18)])]

def listingLine : Module := oneLine "export \x7b a, b \x7d;\n" "program" <|
  .notion "export_statement" 0 16 [
    (none, .token "export" 0),
    (none, .notion "export_clause" 7 15 [
      (none, .token "\x7b" 7),
      (none, .notion "export_specifier" 9 10 [(some "name", .notion "identifier" 9 10 [])]),
      (none, .token "," 10),
      (none, .notion "export_specifier" 12 13 [(some "name", .notion "identifier" 12 13 [])]),
      (none, .token "\x7d" 14)]),
    (none, .token ";" 15)]

def idleLine : Module := oneLine "a;\n" "program" <|
  .notion "expression_statement" 0 2 [
    (none, .notion "identifier" 0 1 []),
    (none, .token ";" 1)]

/-- The line `a = 1` with a name of some length. -/
def assigningLine (name : String) : Module := oneLine (name ++ " = 1\n") "module" <|
  .notion "expression_statement" 0 (name.length + 4) [
    (none, .notion "assignment" 0 (name.length + 4) [
      (some "left", .notion "identifier" 0 name.length []),
      (none, .token "=" (name.length + 1)),
      (some "right", .notion "integer" (name.length + 3) (name.length + 4) [])])]

def firstWord (part : Module) : String := .ofList (part.source.toList.takeWhile (· ≠ ' '))

/-- The exports of two lines behind each other, also with a line between them that has none, and
the names of two lines of the other language. -/
theorem joined_exports_merge_of_lines :
    JavaScript.recordsFrom (declaringLine.append listingLine).arena ⟨"m.js"⟩ 0 =
        [.named "a" .variable, .named "b" .reExport] ∧
      JavaScript.recordsFrom ((declaringLine.append idleLine).append listingLine).arena
          ⟨"m.js"⟩ 0 =
        JavaScript.recordsFrom (declaringLine.append listingLine).arena ⟨"m.js"⟩ 0 ∧
      Python.definedIn ⟨"m.py"⟩ ((assigningLine "a").append (assigningLine "_b")) =
        .ok ["a", "_b"] := by
  have declares : Joins declaringLine [declaringLine] := .single (.inl rfl)
  have joins : Joins (declaringLine.append listingLine) [declaringLine, listingLine] :=
    declares.append rfl (by decide +kernel)
  have idles : Joins (declaringLine.append idleLine) [declaringLine, idleLine] :=
    declares.append rfl (by decide +kernel)
  have longer : Joins ((declaringLine.append idleLine).append listingLine)
      [declaringLine, idleLine, listingLine] := idles.append rfl (by decide +kernel)
  have assigns : Joins (assigningLine "a") [assigningLine "a"] := .single (.inr rfl)
  have assignments : Joins ((assigningLine "a").append (assigningLine "_b"))
      [assigningLine "a", assigningLine "_b"] := assigns.append rfl (by decide +kernel)
  refine ⟨?_, ?_, ?_⟩
  · have merged := ((joined_exports_merge ⟨"m.js"⟩).1 _ _ joins).untyped
    rw [merged, List.map_cons, List.map_singleton, JavaScript.recordsFrom, JavaScript.recordsFrom,
      declaringLine, listingLine, oneLine, oneLine, Module.arena, Module.arena, Module.tree,
      Module.tree, walk_ofTree, walk_ofTree]
    decide +kernel
  · refine ((joined_exports_merge ⟨"m.js"⟩).2 _ _ _ _ _ longer joins).untyped ?_
    rw [JavaScript.recordsFrom, idleLine, oneLine, Module.arena, Module.tree, walk_ofTree]
    decide +kernel
  · have each : ∀ part ∈ [assigningLine "a", assigningLine "_b"],
        Python.definedIn ⟨"m.py"⟩ part = .ok [firstWord part] := by
      intro part member
      simp only [List.mem_cons, List.not_mem_nil, or_false] at member
      rcases member with rfl | rfl
      all_goals
        rw [Python.definedIn_eq_ok_iff, Module.walk_root, Module.ErrorFree]
        decide +kernel
    have merged := ((joined_exports_merge ⟨"m.py"⟩).1 _ _ assignments).names _ each
    exact merged.1.trans (congrArg Except.ok (by decide +kernel))

end ExportIndex
