import ExportIndex.Arena

/-
This file follows arenas through their construction: it says what one operation does to
the edges that lead down, and what holds of the edges after any number of operations.
-/

namespace ExportIndex.Arena

/-- An arena starts empty. It grows by nodes, and by edges between nodes that it has. -/
inductive Constructed : Arena → Prop
  | empty (source : String) : Constructed (.empty source)
  | pushLabel {arena : Arena} (label : Label) (constructed : Constructed arena) :
      Constructed (arena.pushLabel label)
  | attach {arena : Arena} (parent : Nat) (field : Option String) (child : Nat)
      (parentInRange : parent < arena.size) (childInRange : child < arena.size)
      (constructed : Constructed arena) : Constructed (arena.attach parent field child)

theorem Constructed.push {arena : Arena} (constructed : Constructed arena) (kind : String)
    (start stop : Nat) : Constructed (arena.push kind start stop) :=
  constructed.pushLabel _

/-- The edges of a node that stand under a field. -/
def fields (arena : Arena) (id : Nat) : List (String × Nat) :=
  (arena.node? id).elim [] (·.fields)

/-- A new node has no place among the nodes before it. -/
theorem node?_pushLabel (arena : Arena) (label : Label) (id : Nat) :
    (arena.pushLabel label).node? id =
      if id = arena.size then some (Node.ofLabel label) else arena.node? id :=
  Array.getElem?_push

/-- An edge changes its two ends only. -/
theorem node?_attach (arena : Arena) (parent : Nat) (field : Option String) (child id : Nat) :
    (arena.attach parent field child).node? id = (arena.node? id).map fun node =>
      let adopted := if child = id then adopt node child parent else node
      if parent = id then addEdge adopted field child else adopted := by
  simp only [attach, node?, Array.getElem?_modify]
  split <;> split <;> simp [Option.map_map, Function.comp_def]

theorem node?_isSome_iff (arena : Arena) (id : Nat) :
    (arena.node? id).isSome ↔ id < arena.size := by
  simp [node?, size]

theorem lt_size_of_mem_children {arena : Arena} {id child : Nat}
    (member : child ∈ arena.children id) : id < arena.size := by
  rw [← node?_isSome_iff]
  cases present : arena.node? id with
  | none => simp [children, present] at member
  | some node => rfl

@[simp] theorem adopt_children (node : Node) (child parent : Nat) :
    (adopt node child parent).children = node.children := by
  unfold adopt
  split <;> rfl

@[simp] theorem adopt_fields (node : Node) (child parent : Nat) :
    (adopt node child parent).fields = node.fields := by
  unfold adopt
  split <;> rfl

/-- A new node changes no part of another one, and has none itself that labels do not give. -/
theorem part_pushLabel {A : Type} (part : Node → A) (nothing : A) (arena : Arena) (label : Label)
    (id : Nat) (bare : part (Node.ofLabel label) = nothing) :
    ((arena.pushLabel label).node? id).elim nothing part = (arena.node? id).elim nothing part := by
  rw [node?_pushLabel]
  split
  · next newest =>
    have absent : arena.node? id = none := by
      simp [node?, size, newest]
    rw [absent, Option.elim_some, Option.elim_none, bare]
  · rfl

/-- What an edge adds to a part of its parent comes last. -/
theorem part_attach {A : Type} (part : Node → List A) (arena : Arena) (parent : Nat)
    (field : Option String) (child id : Nat) (inRange : parent < arena.size) (added : List A)
    (adopts : ∀ node, part (adopt node child parent) = part node)
    (adds : ∀ node, part (addEdge node field child) = part node ++ added) :
    ((arena.attach parent field child).node? id).elim [] part =
      if parent = id then (arena.node? id).elim [] part ++ added
      else (arena.node? id).elim [] part := by
  rw [node?_attach]
  cases present : arena.node? id with
  | none =>
    have outside : ¬ id < arena.size := by
      rw [← node?_isSome_iff, present]
      simp
    have other : parent ≠ id := by
      intro same
      exact outside (same ▸ inRange)
    rw [if_neg other]
    rfl
  | some node =>
    have kept : part (if child = id then adopt node child parent else node) = part node := by
      split
      · exact adopts node
      · rfl
    by_cases here : parent = id
    · simp only [Option.map_some, Option.elim_some, if_pos here, adds, kept]
    · simp only [Option.map_some, Option.elim_some, if_neg here, kept]

@[simp] theorem children_pushLabel (arena : Arena) (label : Label) (id : Nat) :
    (arena.pushLabel label).children id = arena.children id :=
  part_pushLabel _ [] arena label id rfl

@[simp] theorem fields_pushLabel (arena : Arena) (label : Label) (id : Nat) :
    (arena.pushLabel label).fields id = arena.fields id :=
  part_pushLabel _ [] arena label id rfl

theorem children_attach (arena : Arena) (parent : Nat) (field : Option String) (child id : Nat)
    (inRange : parent < arena.size) :
    (arena.attach parent field child).children id =
      if parent = id then arena.children id ++ [child] else arena.children id :=
  part_attach _ arena parent field child id inRange [child]
    (fun node => adopt_children node child parent) fun _ => rfl

theorem fields_attach (arena : Arena) (parent : Nat) (field : Option String) (child id : Nat)
    (inRange : parent < arena.size) :
    (arena.attach parent field child).fields id =
      if parent = id then arena.fields id ++ (field.map fun name => (name, child)).toList
      else arena.fields id :=
  part_attach _ arena parent field child id inRange _
    (fun node => adopt_fields node child parent) fun node => by cases field <;> simp [addEdge]

@[simp] theorem parent?_pushLabel (arena : Arena) (label : Label) (id : Nat) :
    (arena.pushLabel label).parent? id = arena.parent? id := by
  have part (node : Option Node) : node.bind (·.parent) = node.elim none (·.parent) := by
    cases node <;> rfl
  rw [parent?, parent?, part, part]
  exact part_pushLabel _ none arena label id rfl

/-- A node gets its parent from the first edge that leads to it from another node. -/
theorem parent?_attach (arena : Arena) (parent : Nat) (field : Option String) (child id : Nat)
    (inRange : child < arena.size) :
    (arena.attach parent field child).parent? id =
      (arena.parent? id).or (if child = id ∧ child ≠ parent then some parent else none) := by
  rw [parent?, parent?, node?_attach]
  cases present : arena.node? id with
  | none =>
    have other : child ≠ id := by
      rintro rfl
      simpa [present] using (node?_isSome_iff arena child).mpr inRange
    simp [other]
  | some node =>
    have kept (changed : Node) : (if parent = id then addEdge changed field child
        else changed).parent = changed.parent := by split <;> rfl
    simp only [Option.map_some, Option.bind_some, kept]
    by_cases here : child = id
    · simp only [here, if_true, true_and, adopt]
      by_cases apart : id = parent <;> cases adopted : node.parent <;> simp [apart, adopted]
    · simp [here]

/-- Edges lead to nodes, and an edge under a field doubles one to an ordered child. -/
structure Linked (arena : Arena) : Prop where
  inRange : ∀ id, ∀ child ∈ arena.children id, child < arena.size
  doubled : ∀ id, ∀ edge ∈ arena.fields id, edge.2 ∈ arena.children id

theorem Linked.lt_size_of_namedChild (linked : Linked arena) {id child : Nat}
    (member : child ∈ arena.namedChildren id) : child < arena.size :=
  linked.inRange id child (List.mem_filter.mp member).1

theorem Linked.mem_children_of_field? (linked : Linked arena) {id child : Nat} {field : String}
    (found : arena.field? id field = some child) : child ∈ arena.children id := by
  obtain ⟨edge, member, named⟩ := List.mem_filterMap.mp (List.mem_of_mem_head? found)
  obtain ⟨name, target⟩ := edge
  obtain ⟨rfl, rfl⟩ : name = field ∧ target = child := by simpa using named
  exact linked.doubled id (name, target) member

theorem Linked.lt_size_of_field? (linked : Linked arena) {id child : Nat} {field : String}
    (found : arena.field? id field = some child) : child < arena.size :=
  linked.inRange id child (linked.mem_children_of_field? found)

theorem linked_empty (source : String) : Linked (empty source) :=
  ⟨fun id child member => by simp [children, node?, empty] at member,
    fun id edge member => by simp [fields, node?, empty] at member⟩

theorem linked_pushLabel {arena : Arena} (linked : Linked arena) (label : Label) :
    Linked (arena.pushLabel label) := by
  refine ⟨fun id child member => ?_, fun id edge member => ?_⟩
  · rw [children_pushLabel] at member
    rw [sizePushLabel]
    exact Nat.lt_succ_of_lt (linked.inRange id child member)
  · rw [fields_pushLabel] at member
    rw [children_pushLabel]
    exact linked.doubled id edge member

theorem linked_attach {arena : Arena} (linked : Linked arena) (parent : Nat)
    (field : Option String) (child : Nat) (parentInRange : parent < arena.size)
    (childInRange : child < arena.size) : Linked (arena.attach parent field child) := by
  refine ⟨fun id other member => ?_, fun id edge member => ?_⟩
  · rw [children_attach arena parent field child id parentInRange] at member
    rw [sizeAttach]
    split at member
    · rcases List.mem_append.mp member with old | new
      · exact linked.inRange id other old
      · exact List.mem_singleton.mp new ▸ childInRange
    · exact linked.inRange id other member
  · rw [fields_attach arena parent field child id parentInRange] at member
    rw [children_attach arena parent field child id parentInRange]
    split at member
    · next here =>
      rw [if_pos here]
      rcases List.mem_append.mp member with old | new
      · exact List.mem_append_left _ (linked.doubled id edge old)
      · obtain ⟨name, _, same⟩ : ∃ name, field = some name ∧ (name, child) = edge := by
          simpa using new
        exact List.mem_append_right _ (by simp [← same])
    · next elsewhere =>
      rw [if_neg elsewhere]
      exact linked.doubled id edge member

/-- Whatever the order of the operations, the edges of an arena stay linked. -/
theorem Constructed.linked {arena : Arena} (constructed : Constructed arena) : Linked arena := by
  induction constructed with
  | empty source => exact linked_empty source
  | pushLabel label _ ih => exact linked_pushLabel ih label
  | attach parent field child parentInRange childInRange _ ih =>
    exact linked_attach ih parent field child parentInRange childInRange

end ExportIndex.Arena
