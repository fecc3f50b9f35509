import ExportIndex.Proofs.Arena.Below
import ExportIndex.Proofs.Component.Parallel
import ExportIndex.Proofs.TypeScript.Depth
import Mathlib

/-
This file shows that what is found of a node depends on the nodes that it reaches and on the text.
An arena that grows elsewhere, or in which the node gets further parents, gives the same results.
-/

namespace ExportIndex

open Arena

variable {first second : Arena} {start : Nat}

/-- Two arenas give the same results for a node: what a walk from it visits, the text of its type,
whether it renders an element and is a component, and its props. -/
structure SameResults (first second : Arena) (start : Nat) : Prop where
  walk : second.walk start = first.walk start
  type : TypeScript.resolve second start = TypeScript.resolve first start
  renders : Component.renders second start = Component.renders first start
  isComponent : Component.isComponent second start = Component.isComponent first start
  props : Component.props second start = Component.props first start

namespace Arena.SameBelow

variable (same : SameBelow first second start)

include same

/-- As many nodes as a node has below it are there in both arenas. -/
theorem height_lt_size (linked : first.Linked) (founded : first.Founded start)
    (inRange : start < first.size) :
    first.height start < first.size ∧ first.height start < second.size := by
  have finite : (first.below start).Finite :=
    (Set.finite_Iio _).subset (below_subset linked start)
  have counted (size : Nat) (inside : ∀ id, first.Reaches start id → id < size) :
      first.height start < size := by
    have all : insert start (first.below start) ⊆ Set.Iio size := by
      rintro id (rfl | under)
      · exact inside _ .refl
      · exact inside id (Relation.TransGen.to_reflTransGen under)
    have count := Set.ncard_le_ncard all (Set.finite_Iio size)
    rwa [Set.ncard_Iio_nat, Set.ncard_insert_of_notMem founded.not_mem_below finite] at count
  exact ⟨counted _ fun _ reached => reached.inRange linked inRange,
    counted _ fun _ reached => same.inSecond linked inRange reached⟩

theorem results (linked : first.Linked) (other : second.Linked) (founded : first.Founded start)
    (inRange : start < first.size) : SameResults first second start := by
  have parallel := same.parallel linked
  obtain ⟨inFirst, inSecond⟩ := same.height_lt_size linked founded inRange
  have here := founded.within (Nat.lt_succ_self (first.height start))
  exact {
    walk := same.walk_eq linked other inRange
    type := ((TypeScript.typesAgree parallel _).type ⟨.refl, here⟩ (by omega) (by omega)).symm
    renders := (Component.renders_parallel parallel ⟨.refl, here⟩ (by omega) (by omega)).symm
    isComponent :=
      (Component.isComponent_parallel parallel ⟨.refl, here⟩ (by omega) (by omega)).symm
    props := (Component.props_parallel parallel ⟨.refl, here⟩).symm }

end Arena.SameBelow

/-- Where children come behind their parents, the results for a node depend on what is below it and
on the text: all arenas that hold the same there give the same results. Whatever nodes are added
later and whatever edges from nodes that it does not reach, it reaches the same nodes, and the
results stay. -/
theorem results_depend_on_nodes_below (constructed : first.Constructed)
    (descending : first.Descending) (inRange : start < first.size) :
    (∀ second : Arena, second.Constructed → SameBelow first second start →
      SameResults first second start) ∧
    ∀ calls after, first.performAll? calls = some after →
      (∀ parent field child, Call.attach parent field child ∈ calls →
        ¬ first.Reaches start parent) →
      SameBelow first after start ∧ (∀ id, after.Reaches start id ↔ first.Reaches start id) ∧
        SameResults first after start := by
  have linked := constructed.linked
  have founded := descending.founded linked start
  have results (second : Arena) (built : second.Constructed)
      (same : SameBelow first second start) : SameResults first second start :=
    same.results linked built.linked founded inRange
  refine ⟨results, fun calls after done elsewhere => ?_⟩
  have same := (records_performAll? done).sameBelow linked inRange elsewhere
  exact ⟨same, fun id => same.reaches_iff, results after (constructed.performAll? done) same⟩

/-- The tree of `({a})=><i/>`. -/
def shownProp : Arena :=
  .ofTree "(\x7ba\x7d)=><i/>" <| .notion "program" 0 11 [
    (none, .notion "arrow_function" 0 11 [
      (some "parameters", .notion "formal_parameters" 0 5 [
        (none, .notion "object_pattern" 1 4 [
          (none, .notion "shorthand_property_identifier_pattern" 2 3 [])])]),
      (some "body", .notion "jsx_self_closing_element" 7 11 [])])]

/-- The function becomes the body of the program and a parent of a new node, and another new node
takes it as its own child. -/
def laterCalls : List Call :=
  [.push "array_type" 0 5, .push "type_identifier" 2 3, .attach 6 none 7,
    .attach 0 (some "body") 1, .attach 6 (some "parent") 1]

/-- Behind these calls the function is the component that it was. -/
theorem results_depend_on_nodes_below_of_shownProp :
    shownProp.Constructed ∧ shownProp.Descending ∧ 1 < shownProp.size ∧
      (∀ parent field child, Call.attach parent field child ∈ laterCalls →
        ¬ shownProp.Reaches 1 parent) ∧
      ∃ after, shownProp.performAll? laterCalls = some after ∧
        after.walk 1 = shownProp.walk 1 ∧ Component.isComponent after 1 = true ∧
        Component.props after 1 = [.untyped "a"] := by
  have built : shownProp.Constructed := constructed_ofTree _ _
  have ordered : shownProp.Descending := descending_ofTree _ _
  have size : shownProp.size = 6 := by decide +kernel
  have inRange : 1 < shownProp.size := by omega
  have elsewhere (parent : Nat) (field : Option String) (child : Nat)
      (isCall : Call.attach parent field child ∈ laterCalls) : ¬ shownProp.Reaches 1 parent := by
    intro reached
    have least := ordered.le_of_reaches reached
    have most := reached.inRange built.linked inRange
    simp [laterCalls] at isCall
    omega
  obtain ⟨after, done⟩ := (exists_performAll?_iff shownProp laterCalls).mpr (by
    rw [size]
    simp [laterCalls, Call.InRange])
  obtain ⟨_, _, same⟩ := (results_depend_on_nodes_below built ordered inRange).2 laterCalls after
    done elsewhere
  have isComponent : Component.isComponent shownProp 1 = true := by decide +kernel
  have props : Component.props shownProp 1 = [.untyped "a"] := by decide +kernel
  exact ⟨built, ordered, inRange, elsewhere, after, done, same.walk,
    same.isComponent.trans isComponent, same.props.trans props⟩

end ExportIndex
