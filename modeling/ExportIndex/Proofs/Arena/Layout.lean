import ExportIndex.Arena.Check
import ExportIndex.Arena.OfTree
import ExportIndex.Proofs.Arena.WalkOrder
import Mathlib

/-
This file says where a tree lies in the arena that it is laid out in: its nodes take the numbers
from that of its root on, in pre-order, and a walk over the arena counts through them.
-/

namespace ExportIndex

namespace ParseTree

/-- A node of a notion, in the first line of a text of one byte for each character. -/
def notion (kind : String) (start stop : Nat) (children : List (Option String × ParseTree)) :
    ParseTree :=
  node ⟨kind, true, start, stop, 0, start, false, false⟩ children

/-- A literal token in such a text. -/
def token (text : String) (start : Nat) : ParseTree :=
  node ⟨text, false, start, start + text.length, 0, start, false, false⟩ []

def namedChildren (tree : ParseTree) : List ParseTree :=
  (tree.children.map Prod.snd).filter fun child => child.label.named

/-- The first child under a field. -/
def field? (tree : ParseTree) (name : String) : Option ParseTree :=
  (tree.children.find? fun child => child.1 == some name).map Prod.snd

def hasChild (tree : ParseTree) (kind : String) : Bool :=
  tree.children.any fun child => child.2.label.kind == kind

/-- A tree covers a text within a source. -/
def Covers (characters : List Char) (tree : ParseTree) (text : String) : Prop :=
  Arena.slice? characters tree.label.start tree.label.stop = some text.toList

mutual

/-- What the nodes of a tree say of themselves, in pre-order. -/
def labels : ParseTree → List Label
  | node label children => label :: labelsAmong children

def labelsAmong : List (Option String × ParseTree) → List Label
  | [] => []
  | (_, child) :: rest => labels child ++ labelsAmong rest

end

theorem size_pos (tree : ParseTree) : 0 < tree.size := by
  cases tree
  exact Nat.succ_pos _

theorem size_le_sizeOfChildren {child : ParseTree} {children : List (Option String × ParseTree)}
    (member : child ∈ children.map Prod.snd) : child.size ≤ sizeOfChildren children := by
  induction children with
  | nil => cases member
  | cons sibling rest ih =>
    rw [sizeOfChildren]
    rcases List.mem_cons.mp member with rfl | behind
    · exact Nat.le_add_right _ _
    · exact (ih behind).trans (Nat.le_add_left _ _)

theorem size_lt_of_child {tree child : ParseTree} (member : child ∈ tree.children.map Prod.snd) :
    child.size < tree.size := by
  cases tree with
  | node label children => exact Nat.lt_succ_of_le (size_le_sizeOfChildren member)

theorem size_lt_of_namedChild {tree child : ParseTree} (member : child ∈ tree.namedChildren) :
    child.size < tree.size :=
  size_lt_of_child (List.mem_of_mem_filter member)

theorem size_lt_of_field? {tree child : ParseTree} {name : String}
    (found : tree.field? name = some child) : child.size < tree.size := by
  obtain ⟨sibling, here, rfl⟩ := Option.map_eq_some_iff.mp found
  exact size_lt_of_child (List.mem_map_of_mem (List.mem_of_find?_eq_some here))

end ParseTree

namespace Arena

/-- The numbers of sibling trees, the first of which has the number `next`. -/
def idsFrom (next : Nat) : List (Option String × ParseTree) → List Nat
  | [] => []
  | (_, child) :: rest => next :: idsFrom (next + child.size) rest

/-- The edges under fields to sibling trees. -/
def fieldsFrom (next : Nat) : List (Option String × ParseTree) → List (String × Nat)
  | [] => []
  | (field, child) :: rest =>
    (field.map fun name => (name, next)).toList ++ fieldsFrom (next + child.size) rest

mutual

/-- The nodes of a tree whose root has the number `id`. -/
def nodesFrom (id : Nat) (parent : Option Nat) : ParseTree → List Node
  | .node label children =>
    { label with
      parent := parent
      children := idsFrom (id + 1) children
      fields := fieldsFrom (id + 1) children } :: nodesAmong (id + 1) id children

/-- The nodes of sibling trees, in which the first root has the number `next`. -/
def nodesAmong (next parent : Nat) : List (Option String × ParseTree) → List Node
  | [] => []
  | (_, child) :: rest =>
    nodesFrom next (some parent) child ++ nodesAmong (next + child.size) parent rest

end

mutual

theorem length_nodesFrom (id : Nat) (parent : Option Nat) : (tree : ParseTree) →
    (nodesFrom id parent tree).length = tree.size
  | .node label children => by
    rw [nodesFrom, List.length_cons, length_nodesAmong, ParseTree.size]

theorem length_nodesAmong (next parent : Nat) : (children : List (Option String × ParseTree)) →
    (nodesAmong next parent children).length = ParseTree.sizeOfChildren children
  | [] => rfl
  | (_, child) :: rest => by
    rw [nodesAmong, List.length_append, length_nodesFrom, length_nodesAmong,
      ParseTree.sizeOfChildren]

end

/-- An arena has some nodes under the numbers from `id` on. -/
def Holds (arena : Arena) (id : Nat) (nodes : List Node) : Prop :=
  ∀ place < nodes.length, arena.node? (id + place) = nodes[place]?

theorem holds_cons {arena : Arena} {id : Nat} {node : Node} {rest : List Node} :
    arena.Holds id (node :: rest) ↔ arena.node? id = some node ∧ arena.Holds (id + 1) rest := by
  constructor
  · intro holds
    refine ⟨holds 0 (Nat.succ_pos _), fun place inside => ?_⟩
    have next := holds (place + 1) (Nat.succ_lt_succ inside)
    rwa [List.getElem?_cons_succ, ← Nat.add_assoc, Nat.add_right_comm] at next
  · rintro ⟨first, behind⟩ place inside
    cases place with
    | zero => exact first
    | succ place =>
      have next := behind place (Nat.lt_of_succ_lt_succ inside)
      rwa [List.getElem?_cons_succ, ← Nat.add_assoc, Nat.add_right_comm]

theorem holds_append {arena : Arena} {id : Nat} {first second : List Node} :
    arena.Holds id (first ++ second) ↔
      arena.Holds id first ∧ arena.Holds (id + first.length) second := by
  induction first generalizing id with
  | nil => simp [Holds]
  | cons node rest ih =>
    have shifted : id + 1 + rest.length = id + (rest.length + 1) := by omega
    rw [List.cons_append, holds_cons, holds_cons, ih, List.length_cons, shifted, and_assoc]

/-- What a node gets when sibling trees become its children. -/
def gain (next : Nat) (children : List (Option String × ParseTree)) (node : Node) : Node :=
  { node with
    children := node.children ++ idsFrom next children
    fields := node.fields ++ fieldsFrom next children }

theorem gain_nil (next : Nat) (node : Node) : gain next [] node = node := by
  simp [gain, idsFrom, fieldsFrom]

theorem gain_addEdge (next : Nat) (field : Option String) (child : ParseTree)
    (rest : List (Option String × ParseTree)) (node : Node) :
    gain (next + child.size) rest (addEdge node field next) =
      gain next ((field, child) :: rest) node := by
  simp [gain, addEdge, idsFrom, fieldsFrom]

/-- A tree whose root becomes the child of a node before it keeps its other nodes. -/
theorem Holds.attach {arena : Arena} {parent id : Nat} {child : ParseTree}
    (holds : arena.Holds id (nodesFrom id none child)) (field : Option String)
    (before : parent < id) :
    (arena.attach parent field id).Holds id (nodesFrom id (some parent) child) := by
  cases child with
  | node label children =>
    rw [nodesFrom, holds_cons] at holds
    obtain ⟨root, below⟩ := holds
    rw [nodesFrom, holds_cons]
    constructor
    · have apart : id ≠ parent := Nat.ne_of_gt before
      simp [node?_attach, root, adopt, before.ne, apart]
    · intro place inside
      have later : id ≠ id + 1 + place := by omega
      have other : parent ≠ id + 1 + place := by omega
      rw [node?_attach, ← below place inside]
      simp [later, other]

mutual

/-- A tree that is added leaves the nodes before it alone and comes behind them. -/
theorem addTree_lays (arena : Arena) : (tree : ParseTree) →
    (∀ id < arena.size, (arena.addTree tree).node? id = arena.node? id) ∧
      (arena.addTree tree).Holds arena.size (nodesFrom arena.size none tree)
  | .node label children => by
    have pushed : (arena.pushLabel label).size = arena.size + 1 := sizePushLabel arena label
    obtain ⟨before, behind⟩ :=
      addChildren_lays (arena.pushLabel label) arena.size (by omega) children
    rw [addTree, nodesFrom, holds_cons]
    refine ⟨fun id old => ?_, ?_, ?_⟩
    · rw [before id (by omega), if_neg (by omega), node?_pushLabel, if_neg (by omega)]
    · rw [before arena.size (by omega), if_pos rfl, node?_pushLabel, if_pos rfl, pushed]
      simp [gain, Node.ofLabel]
    · rwa [pushed] at behind

/-- Trees that are added below a node change nothing else before them and come behind all. -/
theorem addChildren_lays (arena : Arena) (parent : Nat) (inRange : parent < arena.size) :
    (children : List (Option String × ParseTree)) →
      (∀ id < arena.size, (arena.addChildren parent children).node? id =
        if id = parent then (arena.node? id).map (gain arena.size children) else arena.node? id) ∧
      (arena.addChildren parent children).Holds arena.size
        (nodesAmong arena.size parent children)
  | [] => by
    refine ⟨fun id _ => ?_, fun place inside => by simp [nodesAmong] at inside⟩
    have same : gain arena.size [] = fun node => node := funext (gain_nil arena.size)
    rw [addChildren, same]
    simp
  | (field, child) :: rest => by
    have size : ((arena.addTree child).attach parent field arena.size).size =
        arena.size + child.size := by rw [sizeAttach, sizeAddTree]
    obtain ⟨old, laid⟩ := addTree_lays arena child
    obtain ⟨before, behind⟩ := addChildren_lays
      ((arena.addTree child).attach parent field arena.size) parent (by omega) rest
    rw [size] at before behind
    rw [addChildren, nodesAmong, holds_append, length_nodesFrom]
    refine ⟨fun id inside => ?_, fun place inside => ?_, behind⟩
    · have later : arena.size ≠ id := Nat.ne_of_gt inside
      rw [before id (by omega), node?_attach, old id inside]
      by_cases here : id = parent
      · simp only [here, if_pos, if_neg (here ▸ later), Option.map_map, Function.comp_def,
          gain_addEdge]
      · simp [here, Ne.symm here, later]
    · rw [length_nodesFrom] at inside
      have other : arena.size + place ≠ parent := by omega
      rw [before _ (by omega), if_neg other]
      exact laid.attach field inRange place (by rwa [length_nodesFrom])

end

mutual

theorem Constructed.addTree {arena : Arena} (constructed : Constructed arena) :
    (tree : ParseTree) → Constructed (arena.addTree tree)
  | .node label children => by
    rw [Arena.addTree]
    exact (constructed.pushLabel label).addChildren (by simp) children

theorem Constructed.addChildren {arena : Arena} (constructed : Constructed arena) {parent : Nat}
    (inRange : parent < arena.size) : (children : List (Option String × ParseTree)) →
      Constructed (arena.addChildren parent children)
  | [] => by
    rw [Arena.addChildren]
    exact constructed
  | (field, child) :: rest => by
    have size := sizeAddTree arena child
    have positive := child.size_pos
    rw [Arena.addChildren]
    refine Constructed.addChildren ?_ ?_ rest
    · exact .attach parent field arena.size (by omega) (by omega) (constructed.addTree child)
    · rw [sizeAttach]
      omega

end

theorem constructed_ofTree (source : String) (tree : ParseTree) :
    Constructed (ofTree source tree) :=
  (Constructed.empty source).addTree tree

theorem size_ofTree (source : String) (tree : ParseTree) :
    (ofTree source tree).size = tree.size := by
  rw [ofTree, sizeAddTree, sizeEmpty, Nat.zero_add]

mutual

theorem characters_addTree (arena : Arena) : (tree : ParseTree) →
    (arena.addTree tree).characters = arena.characters
  | .node label children => by
    rw [addTree, characters_addChildren]
    rfl

theorem characters_addChildren (arena : Arena) (parent : Nat) :
    (children : List (Option String × ParseTree)) →
      (arena.addChildren parent children).characters = arena.characters
  | [] => by rw [addChildren]
  | (field, child) :: rest => by
    rw [addChildren, characters_addChildren]
    exact characters_addTree arena child

end

theorem characters_ofTree (source : String) (tree : ParseTree) :
    (ofTree source tree).characters = source.toList :=
  characters_addTree (empty source) tree

/-- A tree stands in an arena: its root has a number and a parent, and its other nodes follow. -/
def Shows (arena : Arena) (id : Nat) (parent : Option Nat) (tree : ParseTree) : Prop :=
  arena.Holds id (nodesFrom id parent tree)

theorem shows_ofTree (source : String) (tree : ParseTree) :
    (ofTree source tree).Shows 0 none tree :=
  (addTree_lays (empty source) tree).2

namespace Shows

variable {arena : Arena} {id : Nat} {parent : Option Nat} {tree : ParseTree}

theorem node?_eq (shown : arena.Shows id parent tree) :
    arena.node? id = some { tree.label with
      parent := parent
      children := idsFrom (id + 1) tree.children
      fields := fieldsFrom (id + 1) tree.children } := by
  cases tree with
  | node label children =>
    rw [Shows, nodesFrom, holds_cons] at shown
    exact shown.1

theorem below (shown : arena.Shows id parent tree) :
    arena.Holds (id + 1) (nodesAmong (id + 1) id tree.children) := by
  cases tree with
  | node label children =>
    rw [Shows, nodesFrom, holds_cons] at shown
    exact shown.2

theorem kind_eq (shown : arena.Shows id parent tree) : arena.kind id = tree.label.kind := by
  rw [kind, shown.node?_eq, Option.elim_some]

theorem isNamed_eq (shown : arena.Shows id parent tree) :
    arena.isNamed id = tree.label.named := by
  rw [isNamed, shown.node?_eq, Option.elim_some]

theorem children_eq (shown : arena.Shows id parent tree) :
    arena.children id = idsFrom (id + 1) tree.children := by
  rw [children, shown.node?_eq, Option.elim_some]

theorem fields_eq (shown : arena.Shows id parent tree) :
    arena.fields id = fieldsFrom (id + 1) tree.children := by
  rw [fields, shown.node?_eq, Option.elim_some]

theorem text_eq (shown : arena.Shows id parent tree) {text : String}
    (covers : tree.Covers arena.characters text) : arena.text id = text := by
  rw [ParseTree.Covers] at covers
  rw [Arena.text, shown.node?_eq]
  simp [covers]

/-- A tree that stands in an arena fits into it. -/
theorem size_le (shown : arena.Shows id parent tree) : id + tree.size ≤ arena.size := by
  have positive := tree.size_pos
  have inside : tree.size - 1 < (nodesFrom id parent tree).length := by
    rw [length_nodesFrom]
    omega
  have last : id + (tree.size - 1) < arena.size := by
    rw [← node?_isSome_iff, shown _ inside, List.getElem?_eq_getElem inside, Option.isSome_some]
  omega

end Shows

mutual

/-- A search that has seen numbers below a tree alone counts through its nodes. -/
theorem depthFirst_tree {arena : Arena} {seen : Finset Nat} {id : Nat} {parent : Option Nat}
    (early : ∀ node ∈ seen, node < id) : (tree : ParseTree) → arena.Shows id parent tree →
      DepthFirst arena seen [id] (List.range' id tree.size)
  | .node label children, shown => by
    have inRange : id < arena.size := by
      rw [← node?_isSome_iff, shown.node?_eq, Option.isSome_some]
    have fresh : id ∉ seen := fun member => Nat.lt_irrefl id (early id member)
    have earlyBelow : ∀ node ∈ insert id seen, node < id + 1 := by
      intro node member
      rcases Finset.mem_insert.mp member with rfl | old
      · exact Nat.lt_succ_self _
      · exact Nat.lt_succ_of_lt (early node old)
    have descend := depthFirst_children earlyBelow children shown.below
    rw [ParseTree.size, List.range'_succ, ← List.append_nil (List.range' _ _)]
    refine .visit inRange fresh ?_ (.nil _)
    rw [shown.children_eq]
    exact descend

theorem depthFirst_children {arena : Arena} {seen : Finset Nat} {next parent : Nat}
    (early : ∀ node ∈ seen, node < next) : (children : List (Option String × ParseTree)) →
      arena.Holds next (nodesAmong next parent children) →
        DepthFirst arena seen (idsFrom next children)
          (List.range' next (ParseTree.sizeOfChildren children))
  | [], _ => .nil seen
  | (_, child) :: rest, shown => by
    rw [nodesAmong, holds_append, length_nodesFrom] at shown
    obtain ⟨here, there⟩ := shown
    have first := depthFirst_tree early child here
    have earlyBehind : ∀ node ∈ seen ∪ (List.range' next child.size).toFinset,
        node < next + child.size := by
      intro node member
      rcases Finset.mem_union.mp member with old | new
      · exact Nat.lt_add_right _ (early node old)
      · exact (List.mem_range'_1.mp (List.mem_toFinset.mp new)).2
    have behind := depthFirst_children earlyBehind rest there
    have split : List.range' next (ParseTree.sizeOfChildren ((none, child) :: rest)) =
        List.range' next child.size ++
          List.range' (next + child.size) (ParseTree.sizeOfChildren rest) := by
      rw [ParseTree.sizeOfChildren, List.range'_append_1]
    exact (DepthFirst.append_iff [next] _).mpr ⟨_, _, first, behind, split⟩

end

/-- A walk over a tree that is laid out counts through all of its nodes. -/
theorem walk_ofTree (source : String) (tree : ParseTree) :
    (ofTree source tree).walk 0 = List.range tree.size := by
  have search := walk_depthFirst (constructed_ofTree source tree).linked 0
  have nothing : ∀ node ∈ (∅ : Finset Nat), node < 0 := by simp
  have counted := depthFirst_tree nothing tree (shows_ofTree source tree)
  rw [search.unique counted, List.range_eq_range']

theorem mem_walk_ofTree {source : String} {tree : ParseTree} {id : Nat} :
    id ∈ (ofTree source tree).walk 0 ↔ id < (ofTree source tree).size := by
  rw [walk_ofTree, size_ofTree, List.mem_range]

theorem checked_eq_ok_iff (arena : Arena) (path : FilePath) :
    arena.checked path = .ok () ↔ arena.firstError? = none := by
  rw [checked]
  cases arena.firstError? <;> simp

/-- Nothing in a tree that is laid out escapes the search for errors. -/
theorem firstError?_eq_none_iff (source : String) (tree : ParseTree) :
    (ofTree source tree).firstError? = none ↔
      ∀ node ∈ (ofTree source tree).nodes, node.isError = false ∧ node.isMissing = false := by
  have reached (node : Node) :
      node ∈ ((ofTree source tree).walk 0).filterMap (ofTree source tree).node? ↔
        node ∈ (ofTree source tree).nodes := by
    rw [List.mem_filterMap, Array.mem_iff_getElem?]
    refine ⟨fun ⟨id, _, here⟩ => ⟨id, here⟩, fun ⟨id, here⟩ => ⟨id, ?_, here⟩⟩
    rw [mem_walk_ofTree, ← node?_isSome_iff, node?, here, Option.isSome_some]
  rw [firstError?, List.find?_eq_none]
  simp only [reached, Bool.or_eq_true, not_or, Bool.not_eq_true]

mutual

theorem labels_nodesFrom (id : Nat) (parent : Option Nat) : (tree : ParseTree) →
    (nodesFrom id parent tree).map Node.toLabel = tree.labels
  | .node label children => by
    rw [nodesFrom, List.map_cons, labels_nodesAmong, ParseTree.labels]

theorem labels_nodesAmong (next parent : Nat) : (children : List (Option String × ParseTree)) →
    (nodesAmong next parent children).map Node.toLabel = ParseTree.labelsAmong children
  | [] => rfl
  | (_, child) :: rest => by
    rw [nodesAmong, List.map_append, labels_nodesFrom, labels_nodesAmong, ParseTree.labelsAmong]

end

/-- The nodes of a tree that is laid out say of themselves what its labels say. -/
theorem toLabel_mem_labels {source : String} {tree : ParseTree} {id : Nat} {node : Node}
    (here : (ofTree source tree).node? id = some node) : node.toLabel ∈ tree.labels := by
  have inRange : id < (nodesFrom 0 none tree).length := by
    rw [length_nodesFrom, ← size_ofTree source tree, ← node?_isSome_iff, here, Option.isSome_some]
  have same := shows_ofTree source tree id inRange
  rw [Nat.zero_add, here] at same
  rw [← labels_nodesFrom 0 none tree]
  exact List.mem_map_of_mem (List.mem_of_getElem? same.symm)

/-- The nodes of a tree that is laid out are those of the tree, in pre-order. -/
theorem nodes_ofTree (source : String) (tree : ParseTree) :
    (ofTree source tree).nodes.toList = nodesFrom 0 none tree := by
  have length : (ofTree source tree).nodes.toList.length = (nodesFrom 0 none tree).length := by
    rw [Array.length_toList, length_nodesFrom]
    exact size_ofTree source tree
  refine List.ext_getElem? fun id => ?_
  by_cases inRange : id < (nodesFrom 0 none tree).length
  · have same := shows_ofTree source tree id inRange
    rw [Nat.zero_add, node?] at same
    rw [Array.getElem?_toList, same]
  · rw [List.getElem?_eq_none (Nat.le_of_not_lt inRange),
      List.getElem?_eq_none (length.trans_le (Nat.le_of_not_lt inRange))]

/-- The search for errors finds nothing where no label of the tree tells of one. -/
theorem firstError?_eq_none_iff_labels (source : String) (tree : ParseTree) :
    (ofTree source tree).firstError? = none ↔
      ∀ label ∈ tree.labels, label.isError = false ∧ label.isMissing = false := by
  rw [firstError?_eq_none_iff, ← labels_nodesFrom 0 none tree, ← nodes_ofTree source tree]
  simp only [List.mem_map, Array.mem_toList_iff, forall_exists_index, and_imp,
    forall_apply_eq_imp_iff₂]

section Children

variable {arena : Arena} {id : Nat} {parent : Option Nat} {tree : ParseTree}

/-- Sibling trees stand in an arena under the numbers that they get. -/
theorem shows_siblings {next parent : Nat} {children : List (Option String × ParseTree)}
    (holds : arena.Holds next (nodesAmong next parent children)) :
    List.Forall₂ (fun child sibling => arena.Shows child (some parent) sibling.2)
      (idsFrom next children) children := by
  induction children generalizing next with
  | nil => exact .nil
  | cons sibling rest ih =>
    obtain ⟨field, child⟩ := sibling
    rw [nodesAmong, holds_append, length_nodesFrom] at holds
    exact .cons holds.1 (ih holds.2)

theorem Shows.siblings (shown : arena.Shows id parent tree) :
    List.Forall₂ (fun child sibling => arena.Shows child (some id) sibling.2)
      (arena.children id) tree.children := by
  rw [shown.children_eq]
  exact shows_siblings shown.below

/-- The named children of a node stand for those of its tree. -/
theorem Shows.namedChildren (shown : arena.Shows id parent tree) :
    List.Forall₂ (fun child sibling => arena.Shows child (some id) sibling)
      (arena.namedChildren id) tree.namedChildren := by
  have siblings := shown.siblings
  rw [Arena.namedChildren, ParseTree.namedChildren]
  generalize arena.children id = ids at siblings
  generalize tree.children = children at siblings
  induction siblings with
  | nil => exact .nil
  | cons here _ ih =>
    rw [List.map_cons, List.filter_cons, List.filter_cons, here.isNamed_eq]
    split
    · exact .cons here ih
    · exact ih

/-- A node has a child of a kind if its tree has. -/
theorem Shows.childOfKind?_isSome (shown : arena.Shows id parent tree) (kind : String) :
    (arena.childOfKind? id kind).isSome = tree.hasChild kind := by
  have siblings := shown.siblings
  rw [childOfKind?, ParseTree.hasChild]
  generalize arena.children id = ids at siblings
  generalize tree.children = children at siblings
  induction siblings with
  | nil => rfl
  | @cons child sibling _ _ here _ ih =>
    rw [List.find?_cons, here.kind_eq, List.any_cons]
    cases sibling.2.label.kind == kind with
    | true => rfl
    | false => simpa using ih

/-- The first edge under a field leads to the first sibling under it. -/
theorem field?_siblings (name : String) {next parent : Nat}
    {children : List (Option String × ParseTree)}
    (holds : arena.Holds next (nodesAmong next parent children)) :
    Option.Rel (fun child sibling => arena.Shows child (some parent) sibling)
      ((fieldsFrom next children).filterMap fun (field, child) =>
        if field = name then some child else none).head?
      ((children.find? fun child => child.1 == some name).map Prod.snd) := by
  induction children generalizing next with
  | nil => exact .none
  | cons sibling rest ih =>
    obtain ⟨field, child⟩ := sibling
    rw [nodesAmong, holds_append, length_nodesFrom] at holds
    have here : arena.Shows next (some parent) child := holds.1
    have there := ih holds.2
    rw [fieldsFrom, List.filterMap_append, List.find?_cons]
    by_cases named : field = some name
    · subst named
      simpa using Option.Rel.some here
    · have other : (field == some name) = false := by simpa using named
      have passed : ((field.map fun label => (label, next)).toList.filterMap
          fun (field, child) => if field = name then some child else none) = [] := by
        cases field with
        | none => rfl
        | some label => simp_all
      rw [passed, List.nil_append, other]
      exact there

/-- What stands under a field of a node stands for what is under the field in its tree. -/
theorem Shows.field? (shown : arena.Shows id parent tree) (name : String) :
    Option.Rel (fun child sibling => arena.Shows child (some id) sibling)
      (arena.field? id name) (tree.field? name) := by
  have edges : arena.fieldAll id name = (arena.fields id).filterMap fun (field, child) =>
      if field = name then some child else none := rfl
  rw [Arena.field?, edges, shown.fields_eq, ParseTree.field?]
  exact field?_siblings name shown.below

theorem Shows.field?_of_some (shown : arena.Shows id parent tree) {name : String}
    {child : ParseTree} (found : tree.field? name = some child) :
    ∃ number, arena.field? id name = some number ∧ arena.Shows number (some id) child := by
  have related := shown.field? name
  rw [found] at related
  generalize arena.field? id name = here at related
  cases related with
  | @some number _ shownChild => exact ⟨number, rfl, shownChild⟩

theorem Shows.field?_of_none (shown : arena.Shows id parent tree) {name : String}
    (absent : tree.field? name = none) : arena.field? id name = none := by
  have related := shown.field? name
  rw [absent] at related
  generalize arena.field? id name = here at related
  cases related
  rfl

/-- A single named child has a number. -/
theorem Shows.onlyNamedChild (shown : arena.Shows id parent tree) {child : ParseTree}
    (only : tree.namedChildren = [child]) :
    ∃ number, arena.namedChildren id = [number] ∧ arena.Shows number (some id) child := by
  have children := shown.namedChildren
  rw [only] at children
  obtain ⟨number, rest, shownChild, nothing, isOnly⟩ := List.forall₂_cons_right_iff.mp children
  cases nothing
  exact ⟨number, isOnly, shownChild⟩

end Children

end Arena

end ExportIndex
