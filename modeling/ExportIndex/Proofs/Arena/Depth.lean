import ExportIndex.Proofs.Arena.Address
import Mathlib

/-
This file says from which nodes every way down ends, and bounds how far the ways lead. What is
computed down from such a node does not depend on a limit that is large enough.
-/

namespace ExportIndex.Arena

variable {arena : Arena} {id : Nat}

/-- Children come behind their parents. -/
def Descending (arena : Arena) : Prop := ∀ id, ∀ child ∈ arena.children id, id < child

/-- Every way down from a node ends. -/
def Founded (arena : Arena) (id : Nat) : Prop :=
  Acc (fun child parent => child ∈ arena.children parent) id

/-- The nodes below a node. -/
def below (arena : Arena) (id : Nat) : Set Nat :=
  {node | Relation.TransGen (fun parent child => child ∈ arena.children parent) id node}

noncomputable def height (arena : Arena) (id : Nat) : Nat := (arena.below id).ncard

theorem Founded.below {child : Nat} (founded : arena.Founded id)
    (isChild : child ∈ arena.children id) : arena.Founded child :=
  founded.inv isChild

theorem below_subset (linked : arena.Linked) (id : Nat) : arena.below id ⊆ Set.Iio arena.size := by
  intro node under
  obtain ⟨parent, _, isChild⟩ := Relation.TransGen.tail'_iff.mp under
  exact linked.inRange parent node isChild

theorem height_le_size (linked : arena.Linked) (id : Nat) : arena.height id ≤ arena.size := by
  have counted := Set.ncard_le_ncard (below_subset linked id) (Set.finite_Iio _)
  rwa [Set.ncard_Iio_nat] at counted

/-- No node from which the ways end stands below itself. -/
theorem Founded.not_mem_below (founded : arena.Founded id) : id ∉ arena.below id := by
  have deep : Acc (Relation.TransGen fun child parent => child ∈ arena.children parent) id :=
    Acc.transGen founded
  intro cycle
  replace cycle := Relation.transGen_swap.mp cycle
  clear founded
  induction deep with
  | intro id _ ih => exact ih id cycle cycle

/-- The height of a node exceeds those of its children. -/
theorem Founded.height_lt {child : Nat} (linked : arena.Linked) (founded : arena.Founded id)
    (isChild : child ∈ arena.children id) : arena.height child < arena.height id := by
  have within : arena.below child ⊆ arena.below id := fun node under => .head isChild under
  have strict : arena.below child ⊂ arena.below id :=
    within.ssubset_of_mem_notMem (.single isChild) (founded.below isChild).not_mem_below
  exact Set.ncard_lt_ncard strict ((Set.finite_Iio _).subset (below_subset linked id))

/-- Where children come behind their parents, all ways end. -/
theorem Descending.founded (descending : arena.Descending) (linked : arena.Linked) (id : Nat) :
    arena.Founded id := by
  induction left : arena.size - id using Nat.strong_induction_on generalizing id with
  | _ left ih =>
    refine .intro id fun child isChild => ?_
    have before := descending id child isChild
    have inside := linked.inRange id child isChild
    exact ih (arena.size - child) (by omega) child rfl

/-- In a tree that is laid out children come behind their parents. -/
theorem descending_ofTree (source : String) (tree : ParseTree) :
    (ofTree source tree).Descending := by
  intro id child isChild
  have inRange := lt_size_of_mem_children isChild
  obtain ⟨address, isAddress, rfl⟩ := tree.exists_address (size_ofTree source tree ▸ inRange)
  obtain ⟨place, stands⟩ := Option.isSome_iff_exists.mp isAddress
  rw [children, (depicts_ofTree source tree).node address place stands, Option.elim_some] at isChild
  obtain ⟨index, isIndex, rfl⟩ := List.mem_map.mp isChild
  have isSibling := List.getElem?_eq_getElem (List.mem_range.mp isIndex)
  rw [ParseTree.number_append stands, ParseTree.number_cons isSibling]
  omega

/-- A walk over a tree goes down each way of children that starts where it comes by. -/
theorem sublist_walk_ofTree {source : String} {tree : ParseTree} {start id : Nat} {ids : List Nat}
    (way : (id :: ids).IsChain fun parent child => child ∈ (ofTree source tree).children parent)
    (visited : id ∈ (ofTree source tree).walk start) :
    (id :: ids).Sublist ((ofTree source tree).walk start) := by
  have linked := (constructed_ofTree source tree).linked
  have search := walk_depthFirst linked start
  have increasing : (id :: ids).Pairwise (· < ·) :=
    List.isChain_iff_pairwise.mp (way.imp fun {parent child} isChild =>
      descending_ofTree source tree parent child isChild)
  have all : ∀ node ∈ id :: ids, node ∈ (ofTree source tree).walk start := by
    clear increasing
    induction ids generalizing id with
    | nil => simpa using visited
    | cons next ids ih =>
      rw [List.isChain_cons_cons] at way
      have below := (search.closed linked.inRange id visited next way.1).resolve_left
        (Finset.notMem_empty next)
      exact List.forall_mem_cons.mpr ⟨visited, ih way.2 below⟩
  exact List.sublist_of_subperm_of_pairwise (List.subperm_of_subset increasing.nodup all)
    increasing (pairwise_walk_ofTree source tree start)

end ExportIndex.Arena
