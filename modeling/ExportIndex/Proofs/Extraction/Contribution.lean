import ExportIndex.JavaScript.Exports
import ExportIndex.Proofs.Record.Distinct
import ExportIndex.TypeScript.Exports
import Mathlib

/-
This file says what each node that a walk visits contributes to the exports of a source. The
exports are the contributions in the order of the visits, with one record for each name.
-/

namespace ExportIndex

open ExportRecord

namespace JavaScript

namespace Collection

theorem addAll_append (collection : Collection) (first second : List ExportRecord) :
    collection.addAll (first ++ second) = (collection.addAll first).addAll second :=
  List.foldl_append

/-- A collection takes in the records whose names are new to it, each name once. -/
theorem records_addAll (collection : Collection) (records : List ExportRecord) :
    (collection.addAll records).records = collection.records ++
      firstOfEach ExportRecord.name ("" :: collection.records.map ExportRecord.name) records := by
  induction records generalizing collection with
  | nil => simp [addAll, firstOfEach]
  | cons record rest ih =>
    have next : collection.addAll (record :: rest) = (collection.add record).addAll rest := rfl
    have taken : record.name ∈ "" :: collection.records.map ExportRecord.name ↔
        (record.name = "" || collection.hasName record.name) = true := by
      simp [hasName]
    rw [next, ih, firstOfEach, add]
    by_cases refused : (record.name = "" || collection.hasName record.name) = true
    · rw [if_pos refused, if_pos (taken.mpr refused)]
    · rw [if_neg refused, if_neg (refused ∘ taken.mp), List.append_assoc, List.singleton_append]
      congr 2
      apply firstOfEach_congr
      intro name
      simp only [List.map_append, List.map_cons, List.map_nil, List.mem_cons, List.mem_append]
      tauto

/-- What an empty collection takes in is what is left without repeated names. -/
theorem records_addAll_empty (records : List ExportRecord) :
    (empty.addAll records).records = dedup records :=
  records_addAll empty records

theorem foldl_addAll {A : Type} (records : A → List ExportRecord) (items : List A)
    (collection : Collection) :
    items.foldl (fun found item => found.addAll (records item)) collection =
      collection.addAll (items.flatMap records) := by
  induction items generalizing collection with
  | nil => rfl
  | cons item rest ih => rw [List.foldl_cons, ih, List.flatMap_cons, addAll_append]

end Collection

/-- An assignment to a property exports members, whose kinds are not known. -/
theorem propertyRecords_named (arena : Arena) (id object property : Nat) :
    ∀ record ∈ propertyRecords arena id object property,
      ∃ name, record = .named name .unknown := by
  intro record member
  rw [propertyRecords] at member
  split at member
  · split at member
    · obtain ⟨name, _, rfl⟩ := List.mem_map.mp member
      exact ⟨name, rfl⟩
    · cases member
  · split at member
    · exact ⟨_, List.mem_singleton.mp member⟩
    · cases member

theorem assignmentRecords_named (arena : Arena) (id : Nat) :
    ∀ record ∈ assignmentRecords arena id, ∃ name, record = .named name .unknown := by
  intro record member
  rw [assignmentRecords] at member
  split at member
  · cases member
  · split at member
    · split at member
      · exact propertyRecords_named arena id _ _ record member
      · cases member
    · cases member

/-- The records of an export statement. -/
def statementRecords (arena : Arena) (path : FilePath) (id : Nat) : List ExportRecord :=
  if (arena.childOfKind? id "default").isSome then [defaultRecord arena path id]
  else
    ((arena.field? id "declaration").map (declarationRecords arena)).getD [] ++
      ((arena.childOfKind? id "export_clause").map (clauseRecords arena)).getD []

/-- The records that a node gives. -/
def contribution (arena : Arena) (path : FilePath) (id : Nat) : List ExportRecord :=
  match arena.kind id with
  | "export_statement" => statementRecords arena path id
  | "assignment_expression" => assignmentRecords arena id
  | _ => []

theorem visitExport_eq_addAll (arena : Arena) (path : FilePath) (collection : Collection)
    (id : Nat) :
    visitExport arena path collection id = collection.addAll (statementRecords arena path id) := by
  rw [visitExport, statementRecords]
  split
  · rfl
  · rw [Collection.addAll_append]

theorem visit_eq_addAll (arena : Arena) (path : FilePath) (collection : Collection) (id : Nat) :
    visit arena path collection id = collection.addAll (contribution arena path id) := by
  unfold visit contribution
  by_cases exporting : arena.kind id = "export_statement"
  · simp only [exporting]
    exact visitExport_eq_addAll arena path collection id
  · by_cases assigning : arena.kind id = "assignment_expression"
    · simp only [assigning]
    · simp [Collection.addAll]

/-- The exports of an untyped source are the contributions of its nodes, one for each name. -/
theorem recordsFrom_eq_dedup (arena : Arena) (path : FilePath) (start : Nat) :
    recordsFrom arena path start =
      dedup ((arena.walk start).flatMap (contribution arena path)) := by
  have visits : visit arena path =
      fun collection id => collection.addAll (contribution arena path id) := by
    funext collection id
    exact visit_eq_addAll arena path collection id
  rw [recordsFrom, visits, Collection.foldl_addAll, Collection.records_addAll_empty]

end JavaScript

namespace TypeScript

/-- The records that a node gives. -/
def contribution (arena : Arena) (path : FilePath) (id : Nat) : List ExportRecord :=
  if arena.kind id = "export_statement" && isTopLevel arena id then
    if (arena.childOfKind? id "default").isSome then [defaultRecord arena path id]
    else namedRecords arena id
  else []

theorem visit_eq_append (arena : Arena) (path : FilePath) (records : List ExportRecord)
    (id : Nat) : visit arena path records id = records ++ contribution arena path id := by
  rw [visit, contribution]
  split
  · split <;> rfl
  · rw [List.append_nil]

/-- The exports of a typed source are the contributions of its nodes, one for each name. -/
theorem recordsFrom_eq_dedup (arena : Arena) (path : FilePath) (start : Nat) :
    recordsFrom arena path start =
      dedup ((arena.walk start).flatMap (contribution arena path)) := by
  have visits : visit arena path = fun records id => records ++ contribution arena path id := by
    funext records id
    exact visit_eq_append arena path records id
  have collected (ids : List Nat) (records : List ExportRecord) :
      ids.foldl (fun records id => records ++ contribution arena path id) records =
        records ++ ids.flatMap (contribution arena path) := by
    induction ids generalizing records with
    | nil => simp
    | cons id rest ih => rw [List.foldl_cons, ih, List.flatMap_cons, List.append_assoc]
  rw [recordsFrom, visits, collected, List.nil_append]

end TypeScript

end ExportIndex
