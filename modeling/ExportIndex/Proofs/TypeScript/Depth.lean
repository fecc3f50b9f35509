import ExportIndex.Proofs.Arena.Parallel
import ExportIndex.TypeScript.TypeText
import Mathlib

/-
This file shows that the text of a type does not depend on the depth to which the type may nest, as
soon as the depth is large enough, and that parallel nodes have types of the same text.
-/

namespace ExportIndex.TypeScript

open Arena

/-- Nodes that are related within a bound have the same types at all depths that the bound allows.
Types, members of unions and members of tuples go down to each other: from a node the search for
members of a union is one step away, and so is its type from a member of a tuple. -/
structure TypesAgree (first second : Arena) (related : Nat → Nat → Nat → Prop) (bound : Nat) :
    Prop where
  type : ∀ {id twin depth limit : Nat}, related bound id twin →
    3 * bound ≤ depth → 3 * bound ≤ limit → resolveAt first depth id = resolveAt second limit twin
  members : ∀ {id twin depth limit : Nat} (kind : String), related bound id twin →
    3 * bound ≤ depth + 1 → 3 * bound ≤ limit + 1 →
      membersAt first kind depth id = membersAt second kind limit twin
  tuple : ∀ {id twin depth limit : Nat}, related bound id twin →
    3 * bound + 1 ≤ depth → 3 * bound + 1 ≤ limit →
      tupleMemberAt first depth id = tupleMemberAt second limit twin

section Parallel

variable {first second : Arena} {related : Nat → Nat → Nat → Prop} {bound id twin depth limit : Nat}
  (parallel : Parallel first second related)

include parallel

theorem stringValue?_parallel (alike : related bound id twin) :
    stringValue? first id = stringValue? second twin := by
  rw [stringValue?, stringValue?, parallel.text_eq alike]

theorem firstNamed?_parallel (alike : related (bound + 1) id twin) :
    Option.Rel (related bound) (firstNamed? first id) (firstNamed? second twin) :=
  rel_head? (parallel.namedChildren alike)

theorem literalText_parallel (alike : related bound id twin) :
    literalText first id = literalText second twin := by
  rw [literalText, literalText, parallel.kind_eq alike, parallel.text_eq alike,
    stringValue?_parallel parallel alike]

theorem isMapped_parallel (alike : related bound id twin) :
    isMapped first id = isMapped second twin :=
  any_eq_of_forall₂ (parallel.namedChildren (parallel.succ alike)) fun _ _ member => by
    rw [parallel.kind_eq member,
      isSome_eq_of_rel (parallel.childOfKind? (parallel.succ member) "mapped_type_clause")]

theorem optionalMark_parallel (alike : related bound id twin) :
    optionalMark first id = optionalMark second twin := by
  rw [optionalMark, optionalMark,
    isSome_eq_of_rel (parallel.childOfKind? (parallel.succ alike) "?")]

theorem membersAt_parallel (below : TypesAgree first second related bound)
    (alike : related (bound + 1) id twin) (kind : String)
    (enough : 3 * bound ≤ depth) (other : 3 * bound ≤ limit) :
    membersAt first kind (depth + 1) id = membersAt second kind (limit + 1) twin := by
  rw [membersAt, membersAt]
  refine flatMap_eq_of_forall₂ (parallel.namedChildren alike) fun member mate same => ?_
  have inner : membersAt first kind depth member = membersAt second kind limit mate :=
    below.members kind same (Nat.le_succ_of_le enough) (Nat.le_succ_of_le other)
  rw [parallel.kind_eq same, inner, below.type same enough other]

theorem tupleMemberAt_parallel (below : TypesAgree first second related bound)
    (type : resolveAt first depth id = resolveAt second limit twin)
    (alike : related (bound + 1) id twin)
    (enough : 3 * bound ≤ depth) (other : 3 * bound ≤ limit) :
    tupleMemberAt first (depth + 1) id = tupleMemberAt second (limit + 1) twin := by
  have labels := rel_or (parallel.field? alike "name") (parallel.field? alike "pattern")
  have types := parallel.field? alike "type"
  unfold tupleMemberAt
  rw [parallel.kind_eq alike, type]
  split
  · generalize (first.field? id "name").or (first.field? id "pattern") = label at labels
    generalize (second.field? twin "name").or (second.field? twin "pattern") = mate at labels
    generalize first.field? id "type" = here, second.field? twin "type" = there at types
    cases labels with
    | none =>
      cases types with
      | none => rfl
      | some type => exact below.type type enough other
    | some label =>
      cases types with
      | none => simp only [parallel.text_eq label]
      | some type => simp only [parallel.text_eq label, below.type type enough other]
  · rfl

theorem propertyText?_parallel (below : TypesAgree first second related bound)
    (alike : related bound id twin)
    (enough : 3 * bound ≤ depth) (other : 3 * bound ≤ limit) :
    propertyText? first (resolveAt first depth) id =
      propertyText? second (resolveAt second limit) twin := by
  have types := parallel.field? (parallel.succ alike) "type"
  unfold propertyText?
  rw [parallel.kind_eq alike]
  split
  · refine map_eq_of_rel (parallel.field? (parallel.succ alike) "name") fun _ _ name => ?_
    generalize first.field? id "type" = here, second.field? twin "type" = there at types
    rw [parallel.text_eq name, optionalMark_parallel parallel alike]
    cases types with
    | none => rfl
    | some type => simp only [below.type type enough other]
  · rfl

theorem firstType_parallel (below : TypesAgree first second related bound)
    (alike : related (bound + 1) id twin)
    (enough : 3 * bound ≤ depth) (other : 3 * bound ≤ limit) :
    (match firstNamed? first id with
      | some inner => resolveAt first depth inner
      | none => unknownType) =
    match firstNamed? second twin with
      | some inner => resolveAt second limit inner
      | none => unknownType := by
  have inner := firstNamed?_parallel parallel alike
  generalize firstNamed? first id = here, firstNamed? second twin = there at inner
  cases inner with
  | none => rfl
  | some type => exact below.type type enough other

theorem argumentTypes_parallel (below : TypesAgree first second related bound)
    (alike : related (bound + 1) id twin)
    (enough : 3 * bound ≤ depth) (other : 3 * bound ≤ limit) :
    (((first.field? id "type_arguments").map first.namedChildren).getD []).map
        (resolveAt first depth) =
      (((second.field? twin "type_arguments").map second.namedChildren).getD []).map
        (resolveAt second limit) := by
  have lists := parallel.field? alike "type_arguments"
  generalize first.field? id "type_arguments" = here at lists
  generalize second.field? twin "type_arguments" = there at lists
  cases lists with
  | none => rfl
  | some list =>
    exact map_eq_of_forall₂ (parallel.namedChildren (parallel.succ list)) fun _ _ type =>
      below.type type enough other

theorem resolveAt_parallel (below : TypesAgree first second related bound)
    (members : ∀ kind, membersAt first kind depth id = membersAt second kind limit twin)
    (alike : related (bound + 1) id twin)
    (enough : 3 * bound + 1 ≤ depth) (other : 3 * bound + 1 ≤ limit) :
    resolveAt first (depth + 1) id = resolveAt second (limit + 1) twin := by
  have enough' : 3 * bound ≤ depth := Nat.le_of_succ_le enough
  have other' : 3 * bound ≤ limit := Nat.le_of_succ_le other
  have inner := firstType_parallel parallel below alike enough' other'
  unfold resolveAt
  rw [parallel.kind_eq alike]
  split
  · exact inner
  · exact inner
  · exact inner
  · rw [parallel.text_eq alike]
  · exact parallel.text_eq alike
  · exact parallel.text_eq alike
  · exact parallel.text_eq alike
  · have names := map_eq_of_rel (parallel.field? alike "name") fun _ _ name => parallel.text_eq name
    have types := argumentTypes_parallel parallel below alike enough' other'
    simp only [names, types]
  · exact congrArg (· ++ "[]") inner
  · rw [members]
  · rw [members]
  · rw [map_eq_of_rel (firstNamed?_parallel parallel alike) fun _ _ literal =>
      literalText_parallel parallel literal, parallel.text_eq alike]
  · have properties := filterMap_eq_of_forall₂ (parallel.namedChildren alike) fun _ _ member =>
      propertyText?_parallel parallel below member enough' other'
    rw [objectShape, objectShape, isMapped_parallel parallel alike]
    split
    · rfl
    · exact congrArg objectText properties
  · rfl
  · rfl
  · rw [map_eq_of_forall₂ (parallel.namedChildren alike) fun _ _ member =>
      below.tuple member enough other]
  · exact congrArg (· ++ "?") inner
  · rfl
  · rfl

/-- Any depth that is three times as large as the bound is enough to write a type. -/
theorem typesAgree (bound : Nat) :
    TypesAgree first second related bound := by
  induction bound with
  | zero =>
    have none {id twin : Nat} (alike : related 0 id twin) : False :=
      absurd (parallel.bound_pos alike) (Nat.lt_irrefl 0)
    exact ⟨fun alike => (none alike).elim, fun _ alike => (none alike).elim,
      fun alike => (none alike).elim⟩
  | succ bound below =>
    have members {id twin depth limit : Nat} (kind : String)
        (alike : related (bound + 1) id twin) (enough : 3 * (bound + 1) ≤ depth + 1)
        (other : 3 * (bound + 1) ≤ limit + 1) :
        membersAt first kind depth id = membersAt second kind limit twin := by
      obtain ⟨depth, rfl⟩ : ∃ less, depth = less + 1 := ⟨depth - 1, by omega⟩
      obtain ⟨limit, rfl⟩ : ∃ less, limit = less + 1 := ⟨limit - 1, by omega⟩
      exact membersAt_parallel parallel below alike kind (by omega) (by omega)
    have type {id twin depth limit : Nat} (alike : related (bound + 1) id twin)
        (enough : 3 * (bound + 1) ≤ depth) (other : 3 * (bound + 1) ≤ limit) :
        resolveAt first depth id = resolveAt second limit twin := by
      obtain ⟨depth, rfl⟩ : ∃ less, depth = less + 1 := ⟨depth - 1, by omega⟩
      obtain ⟨limit, rfl⟩ : ∃ less, limit = less + 1 := ⟨limit - 1, by omega⟩
      exact resolveAt_parallel parallel below (fun kind => members kind alike enough other) alike
        (by omega) (by omega)
    refine ⟨type, members, fun {id twin depth limit} alike enough other => ?_⟩
    obtain ⟨depth, rfl⟩ : ∃ less, depth = less + 1 := ⟨depth - 1, by omega⟩
    obtain ⟨limit, rfl⟩ : ∃ less, limit = less + 1 := ⟨limit - 1, by omega⟩
    exact tupleMemberAt_parallel parallel below (type alike (by omega) (by omega)) alike
      (by omega) (by omega)

end Parallel

end ExportIndex.TypeScript
