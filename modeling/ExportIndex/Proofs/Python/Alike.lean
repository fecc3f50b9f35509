import ExportIndex.Proofs.Arena.Content
import ExportIndex.Python.TopLevel
import Mathlib

/-
This file shows that the names that a statement defines are a matter of its content.
-/

namespace ExportIndex.Python

open Arena

variable {first second : Arena} {bound id twin : Nat}

theorem plainName?_alike (alike : first.Alike second bound id twin) :
    (plainName? first (first.size + 1) id).map first.text =
      (plainName? second (second.size + 1) twin).map second.text := by
  refine alike.descend_size (motive := fun depth limit id twin =>
    (plainName? first depth id).map first.text =
      (plainName? second limit twin).map second.text) ?_
  intro bound id twin depth limit alike below
  have text : (some id).map first.text = (some twin).map second.text :=
    congrArg some alike.text_eq
  have only := alike.namedChildren
  unfold plainName?
  rw [alike.kind_eq, isSome_eq_of_rel (alike.childOfKind? ",")]
  generalize first.namedChildren id = children at only ⊢
  generalize second.namedChildren twin = others at only ⊢
  split
  · exact text
  · exact text
  -- Parentheses pass on what stands in them, unless a comma makes a tuple.
  iterate 3
    split
    · rfl
    · cases only with
      | nil => rfl
      | cons here rest =>
        cases rest with
        | nil => exact below here
        | cons _ _ => rfl
  · rfl

theorem assigned_alike (alike : first.Alike second bound id twin) :
    (assigned first (first.size + 1) id).map first.text =
      (assigned second (second.size + 1) twin).map second.text := by
  refine alike.descend_size (motive := fun depth limit id twin =>
    (assigned first depth id).map first.text = (assigned second limit twin).map second.text) ?_
  intro bound id twin depth limit alike below
  have left : ((first.field? id "left").bind (plainName? first (first.size + 1))).map first.text =
      ((second.field? twin "left").bind (plainName? second (second.size + 1))).map second.text := by
    rw [Option.map_bind, Option.map_bind]
    exact bind_eq_of_rel (alike.field? "left") fun _ _ target => plainName?_alike target
  have right : Option.Rel (first.Alike second bound)
      ((first.field? id "right").filter fun right => first.kind right == "assignment")
      ((second.field? twin "right").filter fun right => second.kind right == "assignment") :=
    rel_filter (alike.field? "right") fun _ _ value => by rw [value.kind_eq]
  unfold assigned
  rw [isSome_eq_of_rel (alike.field? "type")]
  split
  · rfl
  · simp only [List.map_append, ← Option.toList_map, left]
    generalize (first.field? id "right").filter _ = here at right
    generalize (second.field? twin "right").filter _ = there at right
    cases right with
    | none => rfl
    | some value => exact congrArg _ (below value)

theorem defined_alike (alike : first.Alike second bound id twin) :
    (defined first (first.size + 1) id).map first.text =
      (defined second (second.size + 1) twin).map second.text := by
  refine alike.descend_size (motive := fun depth limit id twin =>
    (defined first depth id).map first.text = (defined second limit twin).map second.text) ?_
  intro bound id twin depth limit alike below
  have name := map_eq_of_rel (alike.field? "name") fun _ _ name => name.text_eq
  have definition := alike.field? "definition"
  unfold defined
  rw [alike.kind_eq]
  split
  · rw [← Option.toList_map, ← Option.toList_map, name]
  · rw [← Option.toList_map, ← Option.toList_map, name]
  · generalize first.field? id "definition" = here at definition
    generalize second.field? twin "definition" = there at definition
    cases definition with
    | none => rfl
    | some definition => exact below definition
  · rw [List.map_flatMap, List.map_flatMap]
    refine flatMap_eq_of_forall₂ (List.rel_filter (fun _ _ child => ?_) alike.namedChildren)
      fun _ _ assignment => assigned_alike assignment
    simp only [child.kind_eq]
  · rfl

end ExportIndex.Python
