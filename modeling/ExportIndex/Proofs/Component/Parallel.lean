import ExportIndex.Component.Template
import ExportIndex.Proofs.Arena.Parallel
import Mathlib

/-
This file shows that parallel nodes render the same and take the same props. The search for an
element comes to the same at all depths that reach the bottom.
-/

namespace ExportIndex.Component

open Arena

variable {first second : Arena} {related : Nat → Nat → Nat → Prop} {bound id twin depth limit : Nat}
  (parallel : Parallel first second related)

include parallel

theorem fields_parallel (alike : related (bound + 1) id twin) (names : List String) :
    List.Forall₂ (related bound) (names.filterMap (first.field? id))
      (names.filterMap (second.field? twin)) := by
  refine List.rel_filterMap (R := Eq) (fun name other same => ?_) (List.forall₂_refl names)
  subst same
  exact parallel.field? alike name

theorem branches_parallel (alike : related (bound + 1) id twin) :
    List.Forall₂ (related bound) (branches first id) (branches second twin) := by
  unfold branches
  rw [parallel.kind_eq alike]
  split
  · exact forall₂_toList (rel_head? (parallel.namedChildren alike))
  · exact forall₂_toList (rel_head? (parallel.namedChildren alike))
  · exact parallel.namedChildren alike
  · exact fields_parallel parallel alike _
  · have operators := any_eq_of_rel (parallel.field? alike "operator")
      fun operator other same => congrArg ["&&", "||", "??"].contains (parallel.text_eq same)
    simp only [operators]
    split
    · exact fields_parallel parallel alike _
    · exact .nil
  · exact .nil

/-- Any depth that is as large as the bound is enough to find an element. -/
theorem rendersAt_parallel (alike : related bound id twin) (reaches : bound ≤ depth)
    (enough : bound ≤ limit) : rendersAt first depth id = rendersAt second limit twin := by
  refine descend_of_related related
    (motive := fun depth limit id twin => rendersAt first depth id = rendersAt second limit twin)
    parallel.bound_pos ?_ alike reaches enough
  intro bound id twin depth limit alike below
  rw [rendersAt, rendersAt, parallel.kind_eq alike]
  congr 1
  exact any_eq_of_forall₂ (branches_parallel parallel alike) fun branch other same => below same

theorem renders_parallel (alike : related bound id twin) (inFirst : bound ≤ first.size + 1)
    (inSecond : bound ≤ second.size + 1) : renders first id = renders second twin :=
  rendersAt_parallel parallel alike inFirst inSecond

theorem isComponent_parallel (alike : related bound id twin) (inFirst : bound ≤ first.size + 1)
    (inSecond : bound ≤ second.size + 1) : isComponent first id = isComponent second twin := by
  have bodies := any_eq_of_rel (parallel.field? (parallel.succ alike) "body") fun _ _ body =>
    renders_parallel parallel body inFirst inSecond
  rw [isComponent, isComponent, parallel.kind_eq alike, bodies]

theorem firstParameter?_parallel (alike : related bound id twin) :
    Option.Rel (related bound) (firstParameter? first id) (firstParameter? second twin) :=
  rel_or (parallel.field? (parallel.succ alike) "parameter") <|
    rel_bind (parallel.field? (parallel.succ alike) "parameters") fun _ _ parameters =>
      rel_find? (parallel.namedChildren (parallel.succ parameters)) fun _ _ parameter => by
        rw [parallel.kind_eq parameter]

theorem patternOf?_parallel (alike : related bound id twin) :
    Option.Rel (related bound) (patternOf? first id) (patternOf? second twin) := by
  unfold patternOf?
  rw [parallel.kind_eq alike]
  split
  · exact parallel.field? (parallel.succ alike) "pattern"
  · exact .some alike

theorem propKey?_parallel (alike : related bound id twin) :
    Option.Rel (related bound) (propKey? first id) (propKey? second twin) := by
  unfold propKey?
  rw [parallel.kind_eq alike]
  split
  · exact .some alike
  · exact parallel.field? (parallel.succ alike) "key"
  · exact parallel.field? (parallel.succ alike) "left"
  · exact .none

theorem props_parallel (alike : related bound id twin) : props first id = props second twin := by
  have pattern := rel_bind (firstParameter?_parallel parallel alike) fun _ _ =>
    patternOf?_parallel parallel
  unfold props
  generalize (firstParameter? first id).bind (patternOf? first) = here at pattern
  generalize (firstParameter? second twin).bind (patternOf? second) = there at pattern
  cases pattern with
  | none => rfl
  | some same =>
    simp only [parallel.kind_eq same]
    split
    · exact filterMap_eq_of_forall₂ (parallel.namedChildren (parallel.succ same))
        fun _ _ member => map_eq_of_rel (propKey?_parallel parallel member) fun _ _ key => by
          rw [parallel.text_eq key]
    · rfl

end ExportIndex.Component
