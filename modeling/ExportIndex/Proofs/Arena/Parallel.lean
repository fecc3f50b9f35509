import ExportIndex.Proofs.Arena.Content
import ExportIndex.Proofs.Arena.Depth
import Mathlib

/-
This file says when nodes of two arenas can be followed down side by side. What is computed down
from such nodes comes out the same on both sides, at all depths that reach the bottom.
-/

namespace ExportIndex.Arena

variable {first second arena : Arena} {related : Nat → Nat → Nat → Prop}

/-- A relation between nodes leads down both arenas. Nodes that are related within a bound say the
same, and what their edges lead to is related within the next lower bound. -/
structure Parallel (first second : Arena) (related : Nat → Nat → Nat → Prop) : Prop where
  bound_pos : ∀ {bound id twin}, related bound id twin → 0 < bound
  succ : ∀ {bound id twin}, related bound id twin → related (bound + 1) id twin
  kind_eq : ∀ {bound id twin}, related bound id twin → first.kind id = second.kind twin
  isNamed_eq : ∀ {bound id twin}, related bound id twin → first.isNamed id = second.isNamed twin
  text_eq : ∀ {bound id twin}, related bound id twin → first.text id = second.text twin
  children : ∀ {bound id twin}, related (bound + 1) id twin →
    List.Forall₂ (related bound) (first.children id) (second.children twin)
  field? : ∀ {bound id twin}, related (bound + 1) id twin → ∀ name,
    Option.Rel (related bound) (first.field? id name) (second.field? twin name)

namespace Parallel

variable {bound id twin : Nat}

theorem namedChildren (parallel : Parallel first second related)
    (here : related (bound + 1) id twin) :
    List.Forall₂ (related bound) (first.namedChildren id) (second.namedChildren twin) := by
  refine List.rel_filter (fun child sibling below => ?_) (parallel.children here)
  simp only [parallel.isNamed_eq below]

theorem childOfKind? (parallel : Parallel first second related)
    (here : related (bound + 1) id twin) (kind : String) :
    Option.Rel (related bound) (first.childOfKind? id kind) (second.childOfKind? twin kind) :=
  rel_find? (parallel.children here) fun _ _ below => by rw [parallel.kind_eq below]

end Parallel

/-- Nodes that are alike have alike nodes below them. -/
theorem parallel_alike (first second : Arena) : Parallel first second (first.Alike second) where
  bound_pos := Alike.bound_pos
  succ := Alike.succ
  kind_eq := Alike.kind_eq
  isNamed_eq := Alike.isNamed_eq
  text_eq := Alike.text_eq
  children := Alike.children
  field? := Alike.field?

/-- Both nodes are the same one, and its ways down end within a bound. -/
def Within (arena : Arena) (bound id twin : Nat) : Prop :=
  id = twin ∧ arena.Founded id ∧ arena.height id < bound

theorem Founded.within {id bound : Nat} (founded : arena.Founded id)
    (inside : arena.height id < bound) : arena.Within bound id id :=
  ⟨rfl, founded, inside⟩

theorem Within.below (linked : arena.Linked) {bound id child : Nat}
    (within : arena.Within (bound + 1) id id) (isChild : child ∈ arena.children id) :
    arena.Within bound child child := by
  obtain ⟨_, founded, inside⟩ := within
  exact (founded.below isChild).within
    ((founded.height_lt linked isChild).trans_le (Nat.le_of_lt_succ inside))

/-- A node whose ways down end is parallel to itself. -/
theorem parallel_within (linked : arena.Linked) : Parallel arena arena arena.Within where
  bound_pos within := Nat.zero_lt_of_lt within.2.2
  succ within := ⟨within.1, within.2.1, Nat.lt_succ_of_lt within.2.2⟩
  kind_eq within := within.1 ▸ rfl
  isNamed_eq within := within.1 ▸ rfl
  text_eq within := within.1 ▸ rfl
  children := by
    rintro bound id _ ⟨rfl, within⟩
    exact List.forall₂_same.mpr fun child isChild => Within.below linked ⟨rfl, within⟩ isChild
  field? := by
    rintro bound id _ ⟨rfl, within⟩ name
    cases found : arena.field? id name with
    | none => exact .none
    | some child =>
      exact .some (Within.below linked ⟨rfl, within⟩ (linked.mem_children_of_field? found))

end ExportIndex.Arena
