import Mathlib.Data.List.Nodup
import Mathlib.Data.List.Sort
import Mathlib.Data.Prod.Lex
import Mathlib.Order.RelClasses
import Mathlib.Tactic

/-
This file says when a list has the items that stand at places. Such lists are put together from
parts, whose places come one after the other, and there is one list for what stands at places.
-/

namespace ExportIndex.JavaScript

variable {Place Inner Item Part : Type}

/-- A list has the items that stand at places, in the order of the places. -/
def Lists (before : Place → Place → Prop) (stands : Place → Item → Prop) (items : List Item) :
    Prop :=
  ∃ pairs : List (Place × Item), pairs.map Prod.snd = items ∧
    pairs.Pairwise (fun first second => before first.1 second.1) ∧
    ∀ place item, (place, item) ∈ pairs ↔ stands place item

theorem Lists.congr {before : Place → Place → Prop} {stands others : Place → Item → Prop}
    {items : List Item} (lists : Lists before stands items)
    (same : ∀ place item, stands place item ↔ others place item) : Lists before others items := by
  obtain ⟨pairs, shown, sorted, mem⟩ := lists
  exact ⟨pairs, shown, sorted, fun place item => (mem place item).trans (same place item)⟩

theorem lists_nil (before : Place → Place → Prop) :
    Lists before (fun _ _ => False) ([] : List Item) :=
  ⟨[], rfl, .nil, by simp⟩

theorem lists_positions (items : List Item) :
    Lists (· < ·) (fun (position : Nat) item => items[position]? = some item) items := by
  refine ⟨items.zipIdx.map Prod.swap, ?_, ?_, fun position item => ?_⟩
  · rw [List.map_map]
    exact List.zipIdx_map_fst 0 items
  · have increasing : (items.zipIdx.map Prod.snd).Pairwise (· < ·) := by
      rw [List.zipIdx_map_snd]
      exact List.pairwise_lt_range' 1
    exact List.pairwise_map.mpr (List.pairwise_map.mp increasing)
  · show _ ↔ items[position]? = some item
    rw [← List.mk_mem_zipIdx_iff_getElem?]
    simp

theorem lists_own (own? : Option Item) :
    Lists (· < ·) (fun (index : Nat) item => index = 0 ∧ own? = some item) own?.toList := by
  refine (lists_positions own?.toList).congr fun index item => ?_
  cases own? <;> cases index <;> simp

theorem Lists.filterMap {before : Place → Place → Prop} {stands : Place → Item → Prop}
    {items : List Item} (lists : Lists before stands items) (part? : Item → Option Part) :
    Lists before (fun place part => ∃ item, stands place item ∧ part? item = some part)
      (items.filterMap part?) := by
  obtain ⟨pairs, rfl, sorted, mem⟩ := lists
  refine ⟨pairs.filterMap fun pair => (part? pair.2).map (Prod.mk pair.1), ?_, ?_, ?_⟩
  · rw [List.map_filterMap, List.filterMap_map]
    congr 1
    funext pair
    simp
  · rw [List.pairwise_filterMap]
    refine sorted.imp fun {first second} ordered one isOne other isOther => ?_
    obtain ⟨_, _, rfl⟩ := Option.map_eq_some_iff.mp isOne
    obtain ⟨_, _, rfl⟩ := Option.map_eq_some_iff.mp isOther
    exact ordered
  · intro place part
    simp only [List.mem_filterMap, Option.map_eq_some_iff, Prod.mk.injEq, Prod.exists, ← mem]
    constructor
    · rintro ⟨_, item, member, _, isPart, rfl, rfl⟩
      exact ⟨item, member, isPart⟩
    · rintro ⟨item, member, isPart⟩
      exact ⟨place, item, member, part, isPart, rfl, rfl⟩

theorem Lists.map {before : Place → Place → Prop} {stands : Place → Item → Prop}
    {items : List Item} (lists : Lists before stands items) (part : Item → Part) :
    Lists before (fun place other => ∃ item, stands place item ∧ part item = other)
      (items.map part) := by
  rw [← List.filterMap_eq_map]
  exact (lists.filterMap (some ∘ part)).congr fun place other => by simp

theorem Lists.flatMap {before : Place → Place → Prop} {below : Inner → Inner → Prop}
    {stands : Place → Item → Prop} {inner : Item → Inner → Part → Prop} {items : List Item}
    (lists : Lists before stands items) {parts : Item → List Part}
    (each : ∀ item, Lists below (inner item) (parts item)) :
    Lists (Prod.Lex before below)
      (fun place part => ∃ item, stands place.1 item ∧ inner item place.2 part)
      (items.flatMap parts) := by
  obtain ⟨pairs, rfl, sorted, mem⟩ := lists
  choose within shown ordered within_mem using each
  refine ⟨pairs.flatMap fun pair => (within pair.2).map fun part => ((pair.1, part.1), part.2),
    ?_, ?_, ?_⟩
  · rw [List.map_flatMap, List.flatMap_map]
    congr 1
    funext pair
    rw [List.map_map, ← shown pair.2]
    rfl
  · rw [List.pairwise_flatMap]
    constructor
    · intro pair _
      rw [List.pairwise_map]
      exact (ordered pair.2).imp fun least => .right _ least
    · refine sorted.imp fun {first second} least one isOne other isOther => ?_
      obtain ⟨_, _, rfl⟩ := List.mem_map.mp isOne
      obtain ⟨_, _, rfl⟩ := List.mem_map.mp isOther
      exact .left _ _ least
  · rintro ⟨place, index⟩ part
    simp only [List.mem_flatMap, List.mem_map, Prod.mk.injEq, Prod.exists, ← mem, ← within_mem]
    constructor
    · rintro ⟨_, item, member, _, _, isPart, ⟨rfl, rfl⟩, rfl⟩
      exact ⟨item, member, isPart⟩
    · rintro ⟨item, member, isPart⟩
      exact ⟨place, item, member, index, part, isPart, ⟨rfl, rfl⟩, rfl⟩

theorem Lists.behind {stands : Nat → Item → Prop} {items : List Item}
    (lists : Lists (· < ·) stands items) :
    Lists (· < ·) (fun position item => ∃ before, position = before + 1 ∧ stands before item)
      items := by
  obtain ⟨pairs, rfl, sorted, mem⟩ := lists
  refine ⟨pairs.map (Prod.map (· + 1) id), by simp, ?_, fun position item => ?_⟩
  · rw [List.pairwise_map]
    exact sorted.imp Nat.succ_lt_succ
  · simp only [List.mem_map, Prod.exists, Prod.map_apply, id_eq, Prod.mk.injEq, ← mem]
    constructor
    · rintro ⟨before, _, member, rfl, rfl⟩
      exact ⟨before, rfl, member⟩
    · rintro ⟨before, rfl, member⟩
      exact ⟨before, item, member, rfl, rfl⟩

theorem Lists.cons {stands : Nat → Item → Prop} {items : List Item}
    (lists : Lists (· < ·) stands items) (item : Item) :
    Lists (· < ·) (fun position other => position = 0 ∧ other = item ∨
      ∃ before, position = before + 1 ∧ stands before other) (item :: items) := by
  obtain ⟨pairs, rfl, sorted, mem⟩ := lists.behind
  refine ⟨(0, item) :: pairs, rfl, List.pairwise_cons.mpr ⟨fun pair member => ?_, sorted⟩, ?_⟩
  · obtain ⟨before, same, _⟩ := (mem pair.1 pair.2).mp member
    exact same ▸ before.succ_pos
  · intro position other
    rw [List.mem_cons, Prod.mk.injEq, mem]

/-- Two lists one behind the other are two parts of a list. -/
theorem Lists.append {below : Inner → Inner → Prop} {stands others : Inner → Item → Prop}
    {first second : List Item} (lists : Lists below stands first)
    (behind : Lists below others second) :
    Lists (Prod.Lex (· < ·) below) (fun (place : Nat × Inner) item =>
      place.1 = 0 ∧ stands place.2 item ∨ place.1 = 1 ∧ others place.2 item)
      (first ++ second) := by
  have each (isSecond : Bool) : Lists below (if isSecond then others else stands)
      (if isSecond then second else first) := by
    cases isSecond
    · exact lists
    · exact behind
  have both := (lists_positions [false, true]).flatMap each
  rw [List.flatMap_cons, List.flatMap_singleton] at both
  refine both.congr fun ⟨part, place⟩ item => ?_
  rcases part with _ | _ | _ <;> simp

/-- A list is the first part of itself. -/
theorem Lists.alone {below : Inner → Inner → Prop} {stands : Inner → Item → Prop}
    {items : List Item} (lists : Lists below stands items) :
    Lists (Prod.Lex (· < ·) below) (fun (place : Nat × Inner) item =>
      place.1 = 0 ∧ stands place.2 item) items := by
  have parts := lists.append (lists_nil below)
  rw [List.append_nil] at parts
  exact parts.congr fun place item => by simp

theorem lists_option {below : Inner → Inner → Prop} {inner : Item → Inner → Part → Prop}
    {parts : Item → List Part} (own? : Option Item)
    (each : ∀ item, Lists below (inner item) (parts item)) :
    Lists below (fun place part => ∃ item, own? = some item ∧ inner item place part)
      ((own?.map parts).getD []) := by
  cases own? with
  | none => exact (lists_nil below).congr fun place part => by simp
  | some item => exact (each item).congr fun place part => by simp

/-- What stands at places makes one list, if no two places come before each other. -/
theorem Lists.unique {before : Place → Place → Prop} (order : WellFounded before)
    {stands : Place → Item → Prop} {items others : List Item} (lists : Lists before stands items)
    (also : Lists before stands others) : items = others := by
  obtain ⟨pairs, rfl, sorted, mem⟩ := lists
  obtain ⟨more, rfl, ordered, found⟩ := also
  have : Std.Asymm fun first second : Place × Item => before first.1 second.1 :=
    ⟨fun first second => order.asymmetric first.1 second.1⟩
  congr 1
  exact List.Subset.antisymm_of_pairwise sorted ordered
    (fun pair member => (found pair.1 pair.2).mpr ((mem pair.1 pair.2).mp member))
    (fun pair member => (mem pair.1 pair.2).mpr ((found pair.1 pair.2).mp member))

end ExportIndex.JavaScript
