import ExportIndex.Proofs.Extraction.Contribution
import ExportIndex.Proofs.TypeScript.Depth
import Mathlib

/-
This file shows that what a statement contributes to the exports of a module is a matter of its
content, so that it does not depend on the arena in which the statement stands.
-/

namespace ExportIndex

open Arena

variable {first second : Arena} {bound id twin : Nat}

namespace JavaScript

theorem specifierName?_alike (alike : first.Alike second bound id twin) :
    Option.Rel (first.Alike second bound) (specifierName? first id)
      (specifierName? second twin) := by
  unfold specifierName?
  rw [alike.kind_eq]
  split
  · exact rel_filter (rel_or (alike.succ.field? "alias") (alike.succ.field? "name"))
      fun _ _ name => by rw [name.kind_eq]
  · exact .none

theorem clauseRecords_alike (alike : first.Alike second bound id twin) :
    clauseRecords first id = clauseRecords second twin := by
  rw [clauseRecords, clauseRecords, List.map_filterMap, List.map_filterMap]
  exact filterMap_eq_of_forall₂ alike.succ.namedChildren fun _ _ specifier =>
    map_eq_of_rel (specifierName?_alike specifier) fun _ _ name => by rw [name.text_eq]

theorem declaratorName?_alike (alike : first.Alike second bound id twin) :
    Option.Rel (first.Alike second bound) (declaratorName? first id)
      (declaratorName? second twin) := by
  unfold declaratorName?
  rw [alike.kind_eq]
  split
  · exact rel_filter (alike.succ.field? "name") fun _ _ name => by rw [name.kind_eq]
  · exact .none

theorem declarationRecords_alike (alike : first.Alike second bound id twin) :
    declarationRecords first id = declarationRecords second twin := by
  unfold declarationRecords
  rw [alike.kind_eq]
  split
  · rw [List.map_filterMap, List.map_filterMap]
    exact filterMap_eq_of_forall₂ alike.succ.namedChildren fun _ _ declarator =>
      map_eq_of_rel (declaratorName?_alike declarator) fun _ _ name => by rw [name.text_eq]
  · have names := alike.succ.field? "name"
    generalize first.field? id "name" = name, second.field? twin "name" = other at names
    cases names with
    | none => cases callableKind? (second.kind twin) <;> rfl
    | some name =>
      cases callableKind? (second.kind twin) with
      | none => rfl
      | some kind => simp only [name.text_eq]

theorem defaultTarget?_alike (alike : first.Alike second bound id twin) :
    Option.Rel (first.Alike second bound) (defaultTarget? first id)
      (defaultTarget? second twin) :=
  rel_or (alike.succ.field? "declaration") (alike.succ.field? "value")

theorem defaultRecord_alike (alike : first.Alike second bound id twin) (path : FilePath) :
    defaultRecord first path id = defaultRecord second path twin := by
  unfold defaultRecord
  refine congrArg (Option.getD · _) (bind_eq_of_rel (defaultTarget?_alike alike) ?_)
  intro target other same
  rw [same.kind_eq]
  refine bind_eq_of_rel (rel_eq_refl _) fun kind _ isKind => ?_
  subst isKind
  exact bind_eq_of_rel (same.succ.field? "name") fun _ _ name => by rw [name.text_eq]

theorem memberKey?_alike (alike : first.Alike second bound id twin) :
    memberKey? first id = memberKey? second twin := by
  have plain (key other : Nat) (same : first.Alike second bound key other) :
      (if ["property_identifier", "shorthand_property_identifier"].contains (first.kind key) then
        some (first.text key) else none) =
      if ["property_identifier", "shorthand_property_identifier"].contains (second.kind other) then
        some (second.text other) else none := by
    rw [same.kind_eq, same.text_eq]
  unfold memberKey?
  rw [alike.kind_eq]
  split
  · exact plain id twin alike
  · exact bind_eq_of_rel (alike.succ.field? "key") plain
  · exact bind_eq_of_rel (alike.succ.field? "name") plain
  · rfl

theorem propertyRecords_alike {object mate property other : Nat}
    (alike : first.Alike second bound id twin) (objects : first.Alike second bound object mate)
    (properties : first.Alike second bound property other) :
    propertyRecords first id object property = propertyRecords second twin mate other := by
  have values : Option.Rel (first.Alike second bound)
      ((first.field? id "right").filter fun right => first.kind right == "object")
      ((second.field? twin "right").filter fun right => second.kind right == "object") :=
    rel_filter (alike.succ.field? "right") fun _ _ right => by rw [right.kind_eq]
  unfold propertyRecords
  rw [objects.text_eq, properties.text_eq, properties.kind_eq]
  split
  · generalize (first.field? id "right").filter _ = here at values
    generalize (second.field? twin "right").filter _ = there at values
    cases values with
    | none => rfl
    | some right =>
      exact congrArg _ (filterMap_eq_of_forall₂ right.succ.namedChildren
        fun _ _ member => memberKey?_alike member)
  · rfl

theorem assignmentRecords_alike (alike : first.Alike second bound id twin) :
    assignmentRecords first id = assignmentRecords second twin := by
  have targets : Option.Rel (first.Alike second bound)
      ((first.field? id "left").filter fun left => first.kind left == "member_expression")
      ((second.field? twin "left").filter fun left => second.kind left == "member_expression") :=
    rel_filter (alike.succ.field? "left") fun _ _ left => by rw [left.kind_eq]
  unfold assignmentRecords
  generalize (first.field? id "left").filter _ = here at targets
  generalize (second.field? twin "left").filter _ = there at targets
  cases targets with
  | none => rfl
  | @some left other same =>
    have objects := same.succ.field? "object"
    have properties := same.succ.field? "property"
    dsimp only
    generalize first.field? left "object" = object, second.field? other "object" = mate at objects
    generalize first.field? left "property" = property, second.field? other "property" = own
      at properties
    cases objects with
    | none => rfl
    | some objects =>
      cases properties with
      | none => rfl
      | some properties =>
        simp only [objects.kind_eq, propertyRecords_alike alike objects properties]

theorem statementRecords_alike (alike : first.Alike second bound id twin) (path : FilePath) :
    statementRecords first path id = statementRecords second path twin := by
  have declared := map_eq_of_rel (alike.succ.field? "declaration")
    fun _ _ declaration => declarationRecords_alike declaration
  have listed := map_eq_of_rel (alike.succ.childOfKind? "export_clause")
    fun _ _ clause => clauseRecords_alike clause
  rw [statementRecords, statementRecords, isSome_eq_of_rel (alike.succ.childOfKind? "default"),
    defaultRecord_alike alike, declared, listed]

theorem contribution_alike (alike : first.Alike second bound id twin) (path : FilePath) :
    contribution first path id = contribution second path twin := by
  unfold contribution
  rw [alike.kind_eq]
  split
  · exact statementRecords_alike alike path
  · exact assignmentRecords_alike alike
  · rfl

end JavaScript

namespace TypeScript

theorem stringValue?_alike (alike : first.Alike second bound id twin) :
    stringValue? first id = stringValue? second twin :=
  stringValue?_parallel (parallel_alike first second) alike

theorem firstNamed?_alike (alike : first.Alike second (bound + 1) id twin) :
    Option.Rel (first.Alike second bound) (firstNamed? first id) (firstNamed? second twin) :=
  firstNamed?_parallel (parallel_alike first second) alike

/-- The types of trees that are alike have the same text, as far as they have so many nodes. Types,
members of unions and members of tuples go down to each other: from a node the search for members
of a union is one step away, and so is its type from a member of a tuple. -/
structure SameTypes (first second : Arena) (bound : Nat) : Prop where
  type : ∀ {id twin depth limit : Nat}, first.Alike second bound id twin →
    3 * bound ≤ depth → 3 * bound ≤ limit → resolveAt first depth id = resolveAt second limit twin
  members : ∀ {id twin depth limit : Nat} (kind : String), first.Alike second bound id twin →
    3 * bound ≤ depth + 1 → 3 * bound ≤ limit + 1 →
      membersAt first kind depth id = membersAt second kind limit twin
  tuple : ∀ {id twin depth limit : Nat}, first.Alike second bound id twin →
    3 * bound + 1 ≤ depth → 3 * bound + 1 ≤ limit →
      tupleMemberAt first depth id = tupleMemberAt second limit twin

/-- Any depth that is three times as large as a tree is enough to write its type. -/
theorem sameTypes (first second : Arena) (bound : Nat) : SameTypes first second bound :=
  have agree := typesAgree (parallel_alike first second) bound
  ⟨agree.type, agree.members, agree.tuple⟩

theorem resolve_alike (alike : first.Alike second bound id twin) :
    resolve first id = resolve second twin := by
  obtain ⟨size, alike, inFirst, inSecond⟩ := alike.within
  exact (sameTypes first second size).type alike (by omega) (by omega)

theorem propertyKey?_alike (alike : first.Alike second bound id twin) :
    propertyKey? first id = propertyKey? second twin := by
  rw [propertyKey?, propertyKey?, alike.kind_eq, alike.text_eq, stringValue?_alike alike]

theorem property?_alike (alike : first.Alike second bound id twin) :
    property? first id = property? second twin := by
  have types := map_eq_of_rel (alike.succ.field? "type") fun _ _ type => resolve_alike type
  unfold property?
  rw [types, isSome_eq_of_rel (alike.succ.childOfKind? "?")]
  exact bind_eq_of_rel (alike.succ.field? "name") fun _ _ name => by
    rw [propertyKey?_alike name]

theorem properties_alike (alike : first.Alike second bound id twin) :
    properties first id = properties second twin :=
  filterMap_eq_of_forall₂ alike.succ.namedChildren fun _ _ member => by
    rw [member.kind_eq, property?_alike member]

theorem declaratorRecord?_alike (alike : first.Alike second bound id twin) :
    declaratorRecord? first id = declaratorRecord? second twin := by
  unfold declaratorRecord?
  rw [alike.kind_eq]
  split
  · exact map_eq_of_rel
      (rel_filter (alike.succ.field? "name") fun _ _ name => by rw [name.kind_eq])
      fun _ _ name => by rw [name.text_eq]
  · rfl

theorem declarationRecords_alike (alike : first.Alike second bound id twin) :
    declarationRecords first (first.size + 1) id =
      declarationRecords second (second.size + 1) twin := by
  refine alike.descend_size (motive := fun depth limit id twin =>
    declarationRecords first depth id = declarationRecords second limit twin) ?_
  intro bound id twin depth limit alike below
  have names := map_eq_of_rel (alike.field? "name") fun _ _ name => name.text_eq
  have bodies := map_eq_of_rel (alike.field? "body") fun _ _ body => properties_alike body
  have values := map_eq_of_rel (alike.field? "value") fun _ _ value => resolve_alike value
  have declarators := filterMap_eq_of_forall₂ alike.namedChildren
    fun _ _ declarator => declaratorRecord?_alike declarator
  have inner := firstNamed?_alike alike
  unfold declarationRecords
  rw [alike.kind_eq]
  simp only [names, bodies, values, declarators]
  split
  · generalize firstNamed? first id = here, firstNamed? second twin = there at inner
    cases inner with
    | none => rfl
    | some inner => exact below inner
  · rfl

theorem specifierRecord?_alike (alike : first.Alike second bound id twin) :
    specifierRecord? first id = specifierRecord? second twin := by
  unfold specifierRecord?
  rw [alike.kind_eq]
  split
  · exact map_eq_of_rel (rel_filter (rel_or (alike.succ.field? "alias") (alike.succ.field? "name"))
      fun _ _ name => by rw [name.kind_eq]) fun _ _ name => by rw [name.text_eq]
  · rfl

theorem namespaceRecord?_alike (alike : first.Alike second bound id twin) :
    namespaceRecord? first id = namespaceRecord? second twin :=
  map_eq_of_rel (rel_find? alike.succ.namedChildren fun _ _ name => by rw [name.kind_eq])
    fun _ _ name => by rw [name.text_eq]

theorem namedRecords_alike (alike : first.Alike second bound id twin) :
    namedRecords first id = namedRecords second twin := by
  have declared := map_eq_of_rel (alike.succ.field? "declaration") fun _ _ declaration =>
    declarationRecords_alike declaration
  have listed := map_eq_of_rel (alike.succ.childOfKind? "export_clause") fun _ _ clause =>
    filterMap_eq_of_forall₂ clause.succ.namedChildren fun _ _ specifier =>
      specifierRecord?_alike specifier
  have whole := bind_eq_of_rel (alike.succ.childOfKind? "namespace_export") fun _ _ clause =>
    namespaceRecord?_alike clause
  rw [namedRecords, namedRecords, declared, listed, whole]

theorem defaultRecord_alike (alike : first.Alike second bound id twin) (path : FilePath) :
    defaultRecord first path id = defaultRecord second path twin := by
  unfold defaultRecord
  refine congrArg (Option.getD · _) (bind_eq_of_rel
    (rel_or (alike.succ.field? "declaration") (alike.succ.field? "value")) ?_)
  intro target other same
  have names := map_eq_of_rel (same.succ.field? "name") fun _ _ name => name.text_eq
  rw [same.kind_eq, names]

theorem contribution_samePlace (same : SamePlace first second id twin) (path : FilePath) :
    contribution first path id = contribution second path twin := by
  obtain ⟨bound, alike⟩ := same.1
  have level : isTopLevel first id = isTopLevel second twin := same.below_eq "program"
  rw [contribution, contribution, alike.kind_eq, level,
    isSome_eq_of_rel (alike.succ.childOfKind? "default"), defaultRecord_alike alike,
    namedRecords_alike alike]

end TypeScript

end ExportIndex
