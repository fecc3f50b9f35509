import ExportIndex.Proofs.Arena.Ancestry
import ExportIndex.Proofs.Arena.Layout
import Mathlib

/-
This file finds the nodes of a tree by their addresses. The numbers that the nodes get in an arena
put the addresses in order, and the edges of the arena lead from address to address.
-/

namespace ExportIndex

namespace ParseTree

/-- The subtree at an address, which says for each step down from the root which child to go to. -/
def subtreeAt : ParseTree → List Nat → Option ParseTree
  | tree, [] => some tree
  | tree, index :: address => tree.children[index]?.bind fun child => child.2.subtreeAt address

def addresses (tree : ParseTree) : Set (List Nat) := {address | (tree.subtreeAt address).isSome}

/-- How many nodes come before the one at an address. These are the nodes on the way to it, and
those below the siblings before them. -/
def number : ParseTree → List Nat → Nat
  | _, [] => 0
  | tree, index :: address =>
    sizeOfChildren (tree.children.take index) + 1 +
      tree.children[index]?.elim 0 fun child => child.2.number address

@[simp] theorem number_nil (tree : ParseTree) : tree.number [] = 0 := by
  rw [number]

theorem subtreeAt_cons_eq_some_iff {tree place : ParseTree} {index : Nat} {address : List Nat} :
    tree.subtreeAt (index :: address) = some place ↔
      ∃ child, tree.children[index]? = some child ∧ child.2.subtreeAt address = some place := by
  rw [subtreeAt, Option.bind_eq_some_iff]

theorem mem_addresses_cons {tree : ParseTree} {index : Nat} {address : List Nat} :
    index :: address ∈ tree.addresses ↔
      ∃ child, tree.children[index]? = some child ∧ address ∈ child.2.addresses := by
  simp only [addresses, Set.mem_ofPred_eq, Option.isSome_iff_exists, subtreeAt_cons_eq_some_iff]
  exact ⟨fun ⟨place, child, isChild, stands⟩ => ⟨child, isChild, place, stands⟩,
    fun ⟨child, isChild, place, stands⟩ => ⟨place, child, isChild, stands⟩⟩

theorem number_cons {tree : ParseTree} {index : Nat} {child : Option String × ParseTree}
    (isChild : tree.children[index]? = some child) (address : List Nat) :
    tree.number (index :: address) =
      sizeOfChildren (tree.children.take index) + 1 + child.2.number address := by
  rw [number, isChild, Option.elim_some]

theorem size_eq (tree : ParseTree) : tree.size = sizeOfChildren tree.children + 1 := by
  cases tree with
  | node label children => rw [size, ParseTree.children]

theorem sizeOfChildren_append (first second : List (Option String × ParseTree)) :
    sizeOfChildren (first ++ second) = sizeOfChildren first + sizeOfChildren second := by
  induction first with
  | nil => rw [List.nil_append, sizeOfChildren, Nat.zero_add]
  | cons child rest ih =>
    obtain ⟨field, child⟩ := child
    rw [List.cons_append, sizeOfChildren, sizeOfChildren, ih, Nat.add_assoc]

theorem sizeOfChildren_take_succ {children : List (Option String × ParseTree)} {index : Nat}
    {child : Option String × ParseTree} (isChild : children[index]? = some child) :
    sizeOfChildren (children.take (index + 1)) =
      sizeOfChildren (children.take index) + child.2.size := by
  rw [List.take_add_one, isChild, sizeOfChildren_append, Option.toList_some, sizeOfChildren,
    sizeOfChildren, Nat.add_zero]

theorem sizeOfChildren_take_le (children : List (Option String × ParseTree)) {first second : Nat}
    (before : first ≤ second) :
    sizeOfChildren (children.take first) ≤ sizeOfChildren (children.take second) := by
  obtain ⟨between, rfl⟩ := Nat.exists_eq_add_of_le before
  rw [List.take_add, sizeOfChildren_append]
  exact Nat.le_add_right _ _

/-- What stands at an address and what stands below it are numbered alike. -/
theorem number_append {tree place : ParseTree} {address : List Nat}
    (stands : tree.subtreeAt address = some place) (rest : List Nat) :
    tree.number (address ++ rest) = tree.number address + place.number rest := by
  induction address generalizing tree with
  | nil =>
    rw [subtreeAt] at stands
    rw [List.nil_append, Option.some.inj stands, number_nil, Nat.zero_add]
  | cons index address ih =>
    obtain ⟨child, isChild, stands⟩ := subtreeAt_cons_eq_some_iff.mp stands
    rw [List.cons_append, number_cons isChild, number_cons isChild, ih stands,
      ← Nat.add_assoc]

theorem number_lt_size {tree : ParseTree} {address : List Nat}
    (isAddress : address ∈ tree.addresses) : tree.number address < tree.size := by
  induction address generalizing tree with
  | nil =>
    rw [number_nil]
    exact tree.size_pos
  | cons index address ih =>
    obtain ⟨child, isChild, isAddress⟩ := mem_addresses_cons.mp isAddress
    have inside := ih isAddress
    have among := sizeOfChildren_take_le tree.children
      (List.getElem?_eq_some_iff.mp isChild).1
    rw [List.take_length, sizeOfChildren_take_succ isChild] at among
    rw [number_cons isChild, size_eq tree]
    omega

/-- Numbers grow along the addresses. -/
theorem number_lt_number {tree : ParseTree} {first second : List Nat}
    (isFirst : first ∈ tree.addresses) (isSecond : second ∈ tree.addresses)
    (before : first < second) : tree.number first < tree.number second := by
  induction first generalizing tree second with
  | nil =>
    cases second with
    | nil => exact absurd before (List.lt_irrefl [])
    | cons index second =>
      obtain ⟨child, isChild, _⟩ := mem_addresses_cons.mp isSecond
      rw [number_nil, number_cons isChild]
      omega
  | cons index first ih =>
    cases second with
    | nil => exact absurd before (List.not_lt_nil _)
    | cons other second =>
      obtain ⟨child, isChild, isFirst⟩ := mem_addresses_cons.mp isFirst
      obtain ⟨otherChild, isOther, isSecond⟩ := mem_addresses_cons.mp isSecond
      rw [number_cons isChild, number_cons isOther]
      rcases List.cons_lt_cons_iff.mp before with left | ⟨same, below⟩
      · have inside := number_lt_size isFirst
        have behind := sizeOfChildren_take_le tree.children left
        rw [Nat.succ_eq_add_one, sizeOfChildren_take_succ isChild] at behind
        omega
      · subst same
        obtain rfl : child = otherChild := Option.some.inj (isChild.symm.trans isOther)
        exact Nat.add_lt_add_left (ih isFirst isSecond below) _

theorem number_lt_number_iff {tree : ParseTree} {first second : List Nat}
    (isFirst : first ∈ tree.addresses) (isSecond : second ∈ tree.addresses) :
    tree.number first < tree.number second ↔ first < second := by
  refine ⟨fun less => ?_, number_lt_number isFirst isSecond⟩
  rcases lt_trichotomy first second with before | same | behind
  · exact before
  · exact absurd less (same ▸ Nat.lt_irrefl _)
  · exact absurd less (Nat.lt_asymm (number_lt_number isSecond isFirst behind))

/-- A number that is not too large counts up to one of some siblings or to a node below it. -/
theorem exists_child_at {children : List (Option String × ParseTree)} {count : Nat}
    (inside : count < sizeOfChildren children) :
    ∃ index child rest, children[index]? = some child ∧ rest < child.2.size ∧
      count = sizeOfChildren (children.take index) + rest := by
  induction children generalizing count with
  | nil => exact absurd inside (Nat.not_lt_zero _)
  | cons child siblings ih =>
    obtain ⟨field, tree⟩ := child
    by_cases here : count < tree.size
    · exact ⟨0, (field, tree), count, rfl, here, by simp [sizeOfChildren]⟩
    · rw [sizeOfChildren] at inside
      have behind : count - tree.size < sizeOfChildren siblings := by omega
      obtain ⟨index, child, rest, isChild, below, counted⟩ := ih behind
      refine ⟨index + 1, child, rest, isChild, below, ?_⟩
      rw [List.take_succ_cons, sizeOfChildren]
      omega

/-- Every number below the size of a tree is that of an address. -/
theorem exists_address (tree : ParseTree) {id : Nat} (inside : id < tree.size) :
    ∃ address ∈ tree.addresses, tree.number address = id := by
  cases id with
  | zero => exact ⟨[], by simp [addresses, subtreeAt], number_nil tree⟩
  | succ count =>
    rw [size_eq] at inside
    obtain ⟨index, child, rest, isChild, below, counted⟩ :=
      exists_child_at (Nat.lt_of_succ_lt_succ inside)
    have smaller : child.2.size < tree.size :=
      size_lt_of_child (List.mem_map_of_mem (List.mem_of_getElem? isChild))
    obtain ⟨address, isAddress, numbered⟩ := exists_address child.2 below
    refine ⟨index :: address, mem_addresses_cons.mpr ⟨child, isChild, isAddress⟩, ?_⟩
    rw [number_cons isChild, numbered, counted]
    omega
termination_by tree.size

/-- The numbers of a tree are those below its size, and each address has its own. -/
theorem number_bijOn (tree : ParseTree) :
    Set.BijOn tree.number tree.addresses (Set.Iio tree.size) := by
  refine ⟨fun address isAddress => number_lt_size isAddress,
    fun first isFirst second isSecond same => ?_, fun id inside => tree.exists_address inside⟩
  rcases lt_trichotomy first second with before | equal | behind
  · exact absurd same (Nat.ne_of_lt (number_lt_number isFirst isSecond before))
  · exact equal
  · exact absurd same.symm (Nat.ne_of_lt (number_lt_number isSecond isFirst behind))

end ParseTree

namespace Arena

open ParseTree

theorem idsFrom_eq_map (next : Nat) (children : List (Option String × ParseTree)) :
    idsFrom next children =
      (List.range children.length).map fun index =>
        next + sizeOfChildren (children.take index) := by
  induction children generalizing next with
  | nil => rfl
  | cons child rest ih =>
    obtain ⟨field, child⟩ := child
    rw [idsFrom, ih, List.length_cons, List.range_succ_eq_map, List.map_cons, List.map_map]
    simp [sizeOfChildren, Function.comp_def, Nat.add_assoc]

theorem fieldsFrom_eq_filterMap (next : Nat) (children : List (Option String × ParseTree)) :
    fieldsFrom next children =
      ((children.map Prod.fst).zip (idsFrom next children)).filterMap fun (field, child) =>
        field.map fun name => (name, child) := by
  induction children generalizing next with
  | nil => rfl
  | cons child rest ih =>
    obtain ⟨field, child⟩ := child
    rw [fieldsFrom, ih, idsFrom, List.map_cons, List.zip_cons_cons, List.filterMap_cons]
    cases field <;> rfl

/-- Where a tree stands in an arena, its subtrees stand under their numbers, each below the node
whose address has a step less. -/
theorem Shows.subtreeAt {arena : Arena} {id : Nat} {parent : Option Nat} {tree place : ParseTree}
    {address : List Nat} (shown : arena.Shows id parent tree)
    (stands : tree.subtreeAt address = some place) :
    arena.Shows (id + tree.number address)
      (if address = [] then parent else some (id + tree.number address.dropLast)) place := by
  induction address generalizing tree id parent with
  | nil =>
    rw [ParseTree.subtreeAt] at stands
    rw [if_pos rfl, number_nil, Nat.add_zero, ← Option.some.inj stands]
    exact shown
  | cons index address ih =>
    obtain ⟨child, isChild, stands⟩ := subtreeAt_cons_eq_some_iff.mp stands
    obtain ⟨inRange, isGot⟩ := List.getElem?_eq_some_iff.mp isChild
    have siblings := shown.siblings
    rw [shown.children_eq, idsFrom_eq_map] at siblings
    have shownChild := siblings.get (by simpa using inRange) inRange
    simp only [List.get_eq_getElem, List.getElem_map, List.getElem_range, isGot] at shownChild
    have below := ih shownChild stands
    rw [if_neg (List.cons_ne_nil index address), number_cons isChild]
    have position : id + 1 + sizeOfChildren (tree.children.take index) + child.2.number address =
        id + (sizeOfChildren (tree.children.take index) + 1 + child.2.number address) := by omega
    rw [position] at below
    by_cases direct : address = []
    · subst direct
      simpa using below
    · rw [if_neg direct] at below
      rw [List.dropLast_cons_of_ne_nil direct, number_cons isChild]
      have above : id + 1 + sizeOfChildren (tree.children.take index) +
          child.2.number address.dropLast = id + (sizeOfChildren (tree.children.take index) + 1 +
            child.2.number address.dropLast) := by omega
      rwa [above] at below

/-- An arena depicts a tree. -/
structure Depicts (arena : Arena) (tree : ParseTree) : Prop where
  /-- There is one node for each address, and no other. -/
  nodes : Set.BijOn tree.number tree.addresses (Set.Iio arena.size)
  /-- A node comes before the nodes below it, and these come before what is behind it. -/
  preorder : ∀ first ∈ tree.addresses, ∀ second ∈ tree.addresses,
    tree.number first < tree.number second ↔ first < second
  /-- A node says of itself what the node of the tree says. Its parent, its children in order and
  those of them that have a field are the nodes that stand there in the tree. -/
  node : ∀ address place, tree.subtreeAt address = some place →
    let children := (List.range place.children.length).map fun index =>
      tree.number (address ++ [index])
    arena.node? (tree.number address) = some { place.label with
      parent := if address = [] then none else some (tree.number address.dropLast)
      children := children
      fields := ((place.children.map Prod.fst).zip children).filterMap fun (field, child) =>
        field.map fun name => (name, child) }

/-- The node of a tree that has no parent is its root. -/
theorem Depicts.eq_zero_of_parent? {arena : Arena} {tree : ParseTree}
    (depicts : arena.Depicts tree) {id : Nat} (inRange : id < arena.size)
    (top : arena.parent? id = none) : id = 0 := by
  obtain ⟨address, isAddress, rfl⟩ := depicts.nodes.surjOn inRange
  obtain ⟨place, stands⟩ := Option.isSome_iff_exists.mp isAddress
  rw [parent?, depicts.node address place stands] at top
  by_cases root : address = []
  · rw [root, number_nil]
  · simp [root] at top

theorem depicts_ofTree (source : String) (tree : ParseTree) :
    (ofTree source tree).Depicts tree where
  nodes := size_ofTree source tree ▸ tree.number_bijOn
  preorder _ isFirst _ isSecond := number_lt_number_iff isFirst isSecond
  node address place stands := by
    have shown := (shows_ofTree source tree).subtreeAt stands
    simp only [Nat.zero_add] at shown
    have children : idsFrom (tree.number address + 1) place.children =
        (List.range place.children.length).map fun index => tree.number (address ++ [index]) := by
      rw [idsFrom_eq_map]
      refine List.map_congr_left fun index inRange => ?_
      have child := List.getElem?_eq_getElem (List.mem_range.mp inRange)
      rw [number_append stands, number_cons child, number_nil]
      omega
    rw [shown.node?_eq, fieldsFrom_eq_filterMap, children]

/-- A walk from within a tree that is laid out counts through what stands there. -/
theorem walk_ofTree_number {source : String} {tree place : ParseTree} {address : List Nat}
    (stands : tree.subtreeAt address = some place) :
    (ofTree source tree).walk (tree.number address) =
      List.range' (tree.number address) place.size := by
  have search := walk_depthFirst (constructed_ofTree source tree).linked (tree.number address)
  have shown := (shows_ofTree source tree).subtreeAt stands
  rw [Nat.zero_add] at shown
  exact search.unique (depthFirst_tree (by simp) place shown)

/-- Every walk over a tree that is laid out visits the nodes in the order of their numbers. -/
theorem pairwise_walk_ofTree (source : String) (tree : ParseTree) (start : Nat) :
    ((ofTree source tree).walk start).Pairwise (· < ·) := by
  by_cases inRange : start < tree.size
  · obtain ⟨address, isAddress, rfl⟩ := tree.exists_address inRange
    obtain ⟨place, stands⟩ := Option.isSome_iff_exists.mp isAddress
    rw [walk_ofTree_number stands]
    exact List.pairwise_lt_range' 1
  · have search := walk_depthFirst (constructed_ofTree source tree).linked start
    have nothing : (ofTree source tree).walk start = [] := by
      apply search.nil_of_idle
      intro id member
      rw [List.mem_singleton.mp member, size_ofTree]
      exact .inr (Nat.le_of_not_lt inRange)
    rw [nothing]
    exact .nil

end Arena

end ExportIndex
