import ExportIndex.Proofs.Arena.History
import ExportIndex.Proofs.Arena.Parallel
import ExportIndex.Proofs.Arena.WalkOrder
import Mathlib

/-
This file compares what two arenas hold below a node. Where they hold the same there, the node has
the same walk in both and is parallel to itself. Calls that give children only to nodes which it
does not reach keep what is below it.
-/

namespace ExportIndex.Arena

variable {first second before after : Arena} {start id : Nat}

/-- Two arenas have one text, and the nodes that a node reaches say the same in both and have the
same edges to children. Their parents do not matter. -/
structure SameBelow (first second : Arena) (start : Nat) : Prop where
  characters : second.characters = first.characters
  label : ∀ id, first.Reaches start id →
    (second.node? id).map Node.toLabel = (first.node? id).map Node.toLabel
  children : ∀ id, first.Reaches start id → second.children id = first.children id
  fields : ∀ id, first.Reaches start id → second.fields id = first.fields id

theorem Reaches.inRange (linked : first.Linked) (inRange : start < first.size)
    (reached : first.Reaches start id) : id < first.size := by
  induction reached with
  | refl => exact inRange
  | tail _ isChild _ => exact linked.inRange _ _ isChild

theorem Descending.le_of_reaches (descending : first.Descending)
    (reached : first.Reaches start id) : start ≤ id := by
  induction reached with
  | refl => exact le_rfl
  | tail _ isChild ih => exact ih.trans (descending _ _ isChild).le

/-- The search over ordered children looks at nothing but what is below. -/
theorem DepthFirst.transfer {seen : Finset Nat} {ids order : List Nat}
    (search : DepthFirst first seen ids order)
    (listed : ∀ id ∈ ids, first.Reaches start id)
    (inFirst : ∀ id, first.Reaches start id → id < first.size)
    (inSecond : ∀ id, first.Reaches start id → id < second.size)
    (children : ∀ id, first.Reaches start id → second.children id = first.children id) :
    DepthFirst second seen ids order := by
  induction search with
  | nil seen => exact .nil seen
  | @skip seen id rest order idle _ ih =>
    obtain ⟨here, others⟩ := List.forall_mem_cons.mp listed
    exact .skip (.inl (idle.resolve_right (Nat.not_le_of_lt (inFirst id here)))) (ih others)
  | @visit seen id rest below behind _ fresh _ _ belowIh behindIh =>
    obtain ⟨here, others⟩ := List.forall_mem_cons.mp listed
    refine .visit (inSecond id here) fresh ?_ (behindIh others)
    rw [children id here]
    exact belowIh fun child isChild => here.tail isChild

namespace SameBelow

variable (same : SameBelow first second start)

include same

/-- The node reaches the same nodes. -/
theorem reaches_iff : second.Reaches start id ↔ first.Reaches start id := by
  constructor
  · intro reached
    induction reached with
    | refl => exact .refl
    | tail _ isChild ih => exact ih.tail (same.children _ ih ▸ isChild)
  · intro reached
    induction reached with
    | refl => exact .refl
    | tail earlier isChild ih => exact ih.tail ((same.children _ earlier).symm ▸ isChild)

theorem inSecond (linked : first.Linked) (inRange : start < first.size)
    (reached : first.Reaches start id) : id < second.size := by
  rw [← node?_isSome_iff, ← Option.isSome_map, same.label id reached, Option.isSome_map,
    node?_isSome_iff]
  exact reached.inRange linked inRange

theorem walk_eq (linked : first.Linked) (other : second.Linked) (inRange : start < first.size) :
    second.walk start = first.walk start := by
  have listed (id : Nat) (member : id ∈ [start]) : first.Reaches start id :=
    List.mem_singleton.mp member ▸ .refl
  have search := (walk_depthFirst linked start).transfer listed
    (fun id reached => reached.inRange linked inRange)
    (fun id reached => same.inSecond linked inRange reached) same.children
  exact (walk_depthFirst other start).unique search

/-- Each node below is parallel to itself if every way down ends. -/
theorem parallel (linked : first.Linked) :
    Parallel first second fun bound id twin =>
      first.Reaches start id ∧ first.Within bound id twin where
  bound_pos within := Nat.zero_lt_of_lt within.2.2.2
  succ within := ⟨within.1, (parallel_within linked).succ within.2⟩
  kind_eq := by
    rintro bound id _ ⟨reached, rfl, _⟩
    exact (kind_eq_of_label (same.label id reached)).symm
  isNamed_eq := by
    rintro bound id _ ⟨reached, rfl, _⟩
    exact (isNamed_eq_of_label (same.label id reached)).symm
  text_eq := by
    rintro bound id _ ⟨reached, rfl, _⟩
    exact (text_eq_of_label same.characters (same.label id reached)).symm
  children := by
    rintro bound id _ ⟨reached, rfl, within⟩
    rw [same.children id reached]
    exact List.forall₂_same.mpr fun child isChild =>
      ⟨reached.tail isChild, Within.below linked ⟨rfl, within⟩ isChild⟩
  field? := by
    rintro bound id _ ⟨reached, rfl, within⟩ name
    rw [field?_eq_of_fields (same.fields id reached) name]
    cases found : first.field? id name with
    | none => exact .none
    | some child =>
      have isChild := linked.mem_children_of_field? found
      exact .some ⟨reached.tail isChild, Within.below linked ⟨rfl, within⟩ isChild⟩

end SameBelow

/-- Whatever is attached elsewhere, what is below a node stays. -/
theorem Records.sameBelow {calls : List Call} (records : Records calls before after)
    (linked : before.Linked) (inRange : start < before.size)
    (elsewhere : ∀ parent field child, Call.attach parent field child ∈ calls →
      ¬ before.Reaches start parent) : SameBelow before after start := by
  have untouched (id : Nat) (reached : before.Reaches start id) : Untouched calls id :=
    fun field child isCall => elsewhere id field child isCall reached
  exact {
    characters := records.characters
    label id reached := records.label_eq (reached.inRange linked inRange)
    children id reached := records.children_eq (untouched id reached)
    fields id reached := records.fields_eq (untouched id reached) }

end ExportIndex.Arena
