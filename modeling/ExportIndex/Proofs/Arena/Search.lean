import ExportIndex.Proofs.Arena.Address
import Mathlib

/-
This file says what a walk over a tree finds first: what stands at the first address where it can be
found. The order of addresses is the pre-order of the nodes.
-/

namespace ExportIndex

namespace ParseTree

/-- The first address with a property. A node comes before what is below it, and this comes before
what is behind it. -/
def FirstAt (tree : ParseTree) (holds : List Nat → Prop) (address : List Nat) : Prop :=
  address ∈ tree.addresses ∧ holds address ∧
    ∀ earlier ∈ tree.addresses, earlier < address → ¬ holds earlier

theorem firstAt_congr {tree : ParseTree} {holds others : List Nat → Prop} {address : List Nat}
    (same : ∀ place ∈ tree.addresses, holds place ↔ others place) :
    tree.FirstAt holds address ↔ tree.FirstAt others address := by
  constructor
  · rintro ⟨isAddress, here, first⟩
    exact ⟨isAddress, (same address isAddress).mp here, fun earlier isEarlier before =>
      (same earlier isEarlier).not.mp (first earlier isEarlier before)⟩
  · rintro ⟨isAddress, here, first⟩
    exact ⟨isAddress, (same address isAddress).mpr here, fun earlier isEarlier before =>
      (same earlier isEarlier).not.mpr (first earlier isEarlier before)⟩

/-- The first address with a property of numbers is the one with the least such number. -/
theorem firstAt_number_iff {tree : ParseTree} (holds : Nat → Prop) {address : List Nat} :
    tree.FirstAt (fun place => holds (tree.number place)) address ↔
      address ∈ tree.addresses ∧ holds (tree.number address) ∧
        ∀ earlier < tree.number address, ¬ holds earlier := by
  refine and_congr_right fun isAddress => and_congr_right fun _ => ?_
  constructor
  · intro first id before
    obtain ⟨earlier, isEarlier, rfl⟩ :=
      tree.exists_address (before.trans (number_lt_size isAddress))
    exact first earlier isEarlier ((number_lt_number_iff isEarlier isAddress).mp before)
  · intro first earlier isEarlier before
    exact first _ ((number_lt_number_iff isEarlier isAddress).mpr before)

end ParseTree

namespace Arena

open ParseTree

section Search

variable {source : String} {tree : ParseTree} {A : Type} {find? : Nat → Option A}

theorem findSome?_range_eq_some_iff {size : Nat} {value : A} :
    (List.range size).findSome? find? = some value ↔
      ∃ id < size, find? id = some value ∧ ∀ earlier < id, find? earlier = none := by
  induction size with
  | zero => simp
  | succ size ih =>
    rw [List.range_succ, List.findSome?_append, Option.or_eq_some_iff, ih,
      List.findSome?_eq_none_iff, List.findSome?_singleton]
    simp only [List.mem_range]
    constructor
    · rintro (⟨id, inside, found, first⟩ | ⟨nothing, found⟩)
      · exact ⟨id, Nat.lt_succ_of_lt inside, found, first⟩
      · exact ⟨size, Nat.lt_succ_self size, found, nothing⟩
    · rintro ⟨id, inside, found, first⟩
      rcases Nat.lt_succ_iff_lt_or_eq.mp inside with before | rfl
      · exact .inl ⟨id, before, found, first⟩
      · exact .inr ⟨first, found⟩

/-- What a walk over a tree finds first stands at the first address where it can be found. -/
theorem findSome?_walk_eq_some_iff {value : A} :
    ((ofTree source tree).walk 0).findSome? find? = some value ↔
      ∃ address, tree.FirstAt (fun place => find? (tree.number place) ≠ none) address ∧
        find? (tree.number address) = some value := by
  rw [walk_ofTree, findSome?_range_eq_some_iff]
  simp only [firstAt_number_iff fun id => find? id ≠ none, ne_eq, not_not]
  constructor
  · rintro ⟨id, inside, found, first⟩
    obtain ⟨address, isAddress, rfl⟩ := tree.exists_address inside
    exact ⟨address, ⟨isAddress, by simp [found], first⟩, found⟩
  · rintro ⟨address, ⟨isAddress, _, first⟩, found⟩
    exact ⟨tree.number address, number_lt_size isAddress, found, first⟩

theorem findSome?_walk_eq_none_iff :
    ((ofTree source tree).walk 0).findSome? find? = none ↔
      ∀ address ∈ tree.addresses, find? (tree.number address) = none := by
  rw [walk_ofTree, List.findSome?_eq_none_iff]
  simp only [List.mem_range]
  constructor
  · exact fun nothing address isAddress => nothing _ (number_lt_size isAddress)
  · intro nothing id inside
    obtain ⟨address, isAddress, rfl⟩ := tree.exists_address inside
    exact nothing address isAddress

/-- The search for errors looks at one node after the other. -/
theorem firstError?_eq_findSome? (arena : Arena) :
    arena.firstError? = (arena.walk 0).findSome? fun id =>
      (arena.node? id).filter fun node => node.isError || node.isMissing := by
  rw [firstError?]
  induction arena.walk 0 with
  | nil => rfl
  | cons id rest ih =>
    rw [List.findSome?_cons, ← ih, List.filterMap_cons]
    cases arena.node? id with
    | none => rfl
    | some node =>
      rw [Option.filter_some]
      by_cases faulty : (node.isError || node.isMissing) = true
      · simp [faulty]
      · simp [faulty]

end Search

end Arena

end ExportIndex
