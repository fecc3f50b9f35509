import ExportIndex.Proofs.Arena.Search
import ExportIndex.Proofs.JavaScript.Scope
import Mathlib

/-
This file says why a tree is rejected as a module or as a script, and which of its nodes is to
blame. What the grammar does not derive comes first, then what a node may not do, then the names
that clash.
-/

namespace ExportIndex.JavaScript

open ParseTree (firstAt_congr)

/-- The text at an address is not derived, or is missing. -/
def FaultyAt (tree : ParseTree) (address : List Nat) : Prop :=
  ∃ place, tree.subtreeAt address = some place ∧
    (place.label.isError = true ∨ place.label.isMissing = true)

/-- What a node does that a source of its type may not do. -/
inductive Offends (arena : Arena) (sourceType : SourceType) (elements : Bool) (id : Nat) :
    Violation → Prop
  | element (without : elements = false) (kind : arena.kind id ∈ elementKinds) :
      Offends arena sourceType elements id .elementsNotEnabled
  | sloppy {violation : Violation} (isModule : sourceType = .module)
      (sloppy : Sloppy arena id violation) : Offends arena sourceType elements id violation
  | moduleItem (isScript : sourceType = .script) (kind : arena.kind id ∈ moduleItemKinds) :
      Offends arena sourceType elements id .moduleItemInScript

/-- A tree is accepted: no node is at fault or offends, and no name clashes. -/
structure Accepts (source : String) (tree : ParseTree) (sourceType : SourceType)
    (elements : Bool) : Prop where
  derived : ∀ address, ¬ FaultyAt tree address
  inoffensive : ∀ id violation, ¬ Offends (.ofTree source tree) sourceType elements id violation
  unambiguous : ∀ place name, ¬ ClashesAt (.ofTree source tree) place name

/-- A tree is rejected for its first node at fault, else for the first one that offends, else for
the first name that clashes. Rows and columns count from one. -/
inductive Rejects (source : String) (tree : ParseTree) (path : FilePath) (sourceType : SourceType)
    (elements : Bool) : ParseFailure → Prop
  | fault {address : List Nat} {place : ParseTree}
      (first : tree.FirstAt (FaultyAt tree) address)
      (stands : tree.subtreeAt address = some place) :
      Rejects source tree path sourceType elements
        (.underivable path (place.label.row + 1) (place.label.column + 1)
          (if place.label.isMissing then some place.label.kind else none))
  | offence {address : List Nat} {place : ParseTree} {violation : Violation}
      (derived : ∀ address, ¬ FaultyAt tree address)
      (first : tree.FirstAt (fun address => ∃ violation, Offends (.ofTree source tree) sourceType
        elements (tree.number address) violation) address)
      (stands : tree.subtreeAt address = some place)
      (offends : Offends (.ofTree source tree) sourceType elements (tree.number address)
        violation) :
      Rejects source tree path sourceType elements
        (.violated path (place.label.row + 1) (place.label.column + 1) violation)
  | clash {address : List Nat} {place : ParseTree}
      (derived : ∀ address, ¬ FaultyAt tree address)
      (inoffensive : ∀ id violation,
        ¬ Offends (.ofTree source tree) sourceType elements id violation)
      (stands : tree.subtreeAt address = some place)
      (clashes : ClashesFirst (.ofTree source tree) (tree.number address)) :
      Rejects source tree path sourceType elements
        (.violated path (place.label.row + 1) (place.label.column + 1) .duplicateBinding)

section Node

variable {arena : Arena}

/-- No element is anything that strict code forbids for another reason. -/
theorem Sloppy.kind_not_mem {id : Nat} {violation : Violation}
    (sloppy : Sloppy arena id violation) : arena.kind id ∉ elementKinds := by
  cases sloppy <;> simp_all [elementKinds]

/-- The check of a single node finds what it does wrong, and nothing else. -/
theorem nodeViolation?_eq_some_iff (rising : arena.Rising) (sourceType : SourceType)
    (elements : Bool) (id : Nat) (violation : Violation) :
    nodeViolation? arena sourceType elements id = some violation ↔
      Offends arena sourceType elements id violation := by
  have items : scriptViolation? arena id = some violation ↔
      arena.kind id ∈ moduleItemKinds ∧ violation = .moduleItemInScript := by
    simp [scriptViolation?, moduleItemKinds, @eq_comm _ violation]
  by_cases isElement : elements = false ∧ arena.kind id ∈ elementKinds
  · obtain ⟨without, kind⟩ := isElement
    have found : nodeViolation? arena sourceType elements id = some .elementsNotEnabled := by
      simp [nodeViolation?, without, kind]
    rw [found, Option.some.injEq]
    constructor
    · rintro rfl
      exact .element without kind
    · intro offends
      cases offends with
      | element => rfl
      | sloppy _ sloppy => exact absurd kind sloppy.kind_not_mem
      | moduleItem _ item =>
        simp only [elementKinds, moduleItemKinds, List.mem_cons, List.not_mem_nil, or_false]
          at kind item
        rcases item with item | item <;> simp [item] at kind
  · have plain : ¬ (!elements && elementKinds.contains (arena.kind id)) = true := by
      simpa using isElement
    cases sourceType with
    | module =>
      have passed : nodeViolation? arena .module elements id = strictViolation? arena id :=
        if_neg plain
      rw [passed, strictViolation?_eq_some_iff rising]
      constructor
      · exact .sloppy rfl
      · intro offends
        cases offends with
        | element without kind => exact absurd ⟨without, kind⟩ isElement
        | sloppy _ sloppy => exact sloppy
        | moduleItem isScript => cases isScript
    | script =>
      have passed : nodeViolation? arena .script elements id = scriptViolation? arena id :=
        if_neg plain
      rw [passed, items]
      constructor
      · rintro ⟨kind, rfl⟩
        exact .moduleItem rfl kind
      · intro offends
        cases offends with
        | element without kind => exact absurd ⟨without, kind⟩ isElement
        | sloppy isModule => cases isModule
        | moduleItem _ kind => exact ⟨kind, rfl⟩

/-- Only nodes offend. -/
theorem Offends.lt_size {sourceType : SourceType} {elements : Bool} {id : Nat}
    {violation : Violation} (offends : Offends arena sourceType elements id violation) :
    id < arena.size := by
  apply inRange_of_kind
  intro absent
  cases offends with
  | element _ kind => simp [absent, elementKinds] at kind
  | sloppy _ sloppy => cases sloppy <;> simp_all
  | moduleItem _ kind => simp [absent, moduleItemKinds] at kind

end Node

section Searches

variable (source : String) (tree : ParseTree) (sourceType : SourceType) (elements : Bool)

/-- The first node that does something wrong, with what it does. -/
def firstOffence? (arena : Arena) (sourceType : SourceType) (elements : Bool) :
    Option (Nat × Violation) :=
  (arena.walk 0).findSome? fun id =>
    (nodeViolation? arena sourceType elements id).map fun violation => (id, violation)

variable {source tree sourceType elements}

theorem node?_at (source : String) {address : List Nat} {place : ParseTree}
    (stands : tree.subtreeAt address = some place) :
    ∃ node, (Arena.ofTree source tree).node? (tree.number address) = some node ∧
      node.toLabel = place.label :=
  ⟨_, (Arena.depicts_ofTree source tree).node address place stands, rfl⟩

theorem mem_addresses_of_stands {address : List Nat} {place : ParseTree}
    (stands : tree.subtreeAt address = some place) : address ∈ tree.addresses := by
  simp [ParseTree.addresses, stands]

theorem faultyAt_iff (source : String) {address : List Nat}
    (isAddress : address ∈ tree.addresses) :
    ((Arena.ofTree source tree).node? (tree.number address)).filter
        (fun node => node.isError || node.isMissing) ≠ none ↔ FaultyAt tree address := by
  obtain ⟨place, stands⟩ := Option.isSome_iff_exists.mp isAddress
  obtain ⟨node, here, same⟩ := node?_at source stands
  simp [here, FaultyAt, stands, ← same, Option.filter_some, imp_iff_not_or]

theorem firstError?_eq_some_iff {node : Node} :
    (Arena.ofTree source tree).firstError? = some node ↔
      ∃ address, tree.FirstAt (FaultyAt tree) address ∧
        (Arena.ofTree source tree).node? (tree.number address) = some node := by
  rw [Arena.firstError?_eq_findSome?, Arena.findSome?_walk_eq_some_iff]
  refine exists_congr fun address => ?_
  rw [firstAt_congr fun place isAddress => faultyAt_iff source isAddress]
  refine and_congr_right fun first => ?_
  have faulty := (faultyAt_iff source first.1).mpr first.2.1
  generalize (Arena.ofTree source tree).node? (tree.number address) = here at faulty
  cases here with
  | none => simp
  | some other =>
    rw [Option.filter_some] at faulty ⊢
    split
    · rfl
    · next sound => simp [sound] at faulty

theorem derived_iff :
    (Arena.ofTree source tree).firstError? = none ↔ ∀ address, ¬ FaultyAt tree address := by
  rw [Arena.firstError?_eq_findSome?, Arena.findSome?_walk_eq_none_iff]
  constructor
  · intro nothing address faulty
    have ⟨place, stands, _⟩ := faulty
    have isAddress := mem_addresses_of_stands stands
    exact (faultyAt_iff source isAddress).mpr faulty (nothing address isAddress)
  · intro derived address isAddress
    by_contra found
    exact derived address ((faultyAt_iff source isAddress).mp found)

theorem firstOffence?_eq_some_iff {id : Nat} {violation : Violation} :
    firstOffence? (.ofTree source tree) sourceType elements = some (id, violation) ↔
      ∃ address, tree.FirstAt (fun address => ∃ violation, Offends (.ofTree source tree) sourceType
        elements (tree.number address) violation) address ∧ tree.number address = id ∧
          Offends (.ofTree source tree) sourceType elements id violation := by
  have rising := Arena.rising_ofTree source tree
  rw [firstOffence?, Arena.findSome?_walk_eq_some_iff]
  refine exists_congr fun address => and_congr (firstAt_congr fun place _ => ?_) ?_
  · simp [Option.ne_none_iff_exists', nodeViolation?_eq_some_iff rising]
  · simp only [Option.map_eq_some_iff, Prod.mk.injEq, nodeViolation?_eq_some_iff rising]
    constructor
    · rintro ⟨_, offends, rfl, rfl⟩
      exact ⟨rfl, offends⟩
    · rintro ⟨rfl, offends⟩
      exact ⟨violation, offends, rfl, rfl⟩

theorem inoffensive_iff :
    firstOffence? (.ofTree source tree) sourceType elements = none ↔
      ∀ id violation, ¬ Offends (.ofTree source tree) sourceType elements id violation := by
  have rising := Arena.rising_ofTree source tree
  rw [firstOffence?, Arena.findSome?_walk_eq_none_iff]
  have silent (id : Nat) : nodeViolation? (.ofTree source tree) sourceType elements id = none ↔
      ∀ violation, ¬ Offends (.ofTree source tree) sourceType elements id violation := by
    simp only [Option.eq_none_iff_forall_ne_some, ne_eq, nodeViolation?_eq_some_iff rising]
  simp only [Option.map_eq_none_iff, silent]
  constructor
  · intro nothing id violation offends
    obtain ⟨address, isAddress, rfl⟩ :=
      tree.exists_address (Arena.size_ofTree source tree ▸ offends.lt_size)
    exact nothing address isAddress violation offends
  · exact fun inoffensive address _ => inoffensive _

theorem unambiguous_iff (arena : Arena) :
    duplicateBinding? arena = none ↔ ∀ place name, ¬ ClashesAt arena place name := by
  rw [← Option.not_isSome_iff_eq_none, duplicateBinding?_isSome_iff]
  simp only [not_exists]

/-- The three searches decide in turn. -/
theorem validated_eq (arena : Arena) (path : FilePath) (sourceType : SourceType)
    (elements : Bool) :
    validated arena path sourceType elements =
      match arena.firstError? with
      | some node => .error (.underivable path (node.row + 1) (node.column + 1)
          (if node.isMissing then some node.kind else none))
      | none =>
        match firstOffence? arena sourceType elements with
        | some (id, violation) => .error (arena.violation path id violation)
        | none =>
          match duplicateBinding? arena with
          | some name => .error (arena.violation path name .duplicateBinding)
          | none => .ok () := by
  rw [validated, Arena.checked, firstOffence?]
  cases arena.firstError? with
  | some node => rfl
  | none =>
    simp only [bind, Except.bind]
    generalize (arena.walk 0).findSome? _ = found
    cases found with
    | some offence => rfl
    | none => cases duplicateBinding? arena <;> rfl

theorem violation_at {address : List Nat} {place : ParseTree} (path : FilePath)
    (stands : tree.subtreeAt address = some place) (violation : Violation) :
    (Arena.ofTree source tree).violation path (tree.number address) violation =
      .violated path (place.label.row + 1) (place.label.column + 1) violation := by
  obtain ⟨node, here, same⟩ := node?_at source stands
  rw [Arena.violation, here, ← same]

theorem validated_of_accepts (path : FilePath)
    (accepts : Accepts source tree sourceType elements) :
    validated (.ofTree source tree) path sourceType elements = .ok () := by
  rw [validated_eq, derived_iff.mpr accepts.derived, inoffensive_iff.mpr accepts.inoffensive,
    (unambiguous_iff _).mpr accepts.unambiguous]

theorem validated_of_rejects {path : FilePath} {failure : ParseFailure}
    (rejects : Rejects source tree path sourceType elements failure) :
    validated (.ofTree source tree) path sourceType elements = .error failure := by
  rw [validated_eq]
  cases rejects with
  | fault first stands =>
    obtain ⟨node, here, same⟩ := node?_at source stands
    rw [firstError?_eq_some_iff.mpr ⟨_, first, here⟩, ← same]
  | offence derived first stands offends =>
    rw [derived_iff.mpr derived, firstOffence?_eq_some_iff.mpr ⟨_, first, rfl, offends⟩]
    exact congrArg Except.error (violation_at path stands _)
  | clash derived inoffensive stands clashes =>
    rw [derived_iff.mpr derived, inoffensive_iff.mpr inoffensive,
      duplicateBinding?_eq_some_iff_first.mpr clashes]
    exact congrArg Except.error (violation_at path stands _)

/-- A tree that is not accepted has a node for which it is rejected. -/
theorem accepts_or_rejects (source : String) (tree : ParseTree) (path : FilePath)
    (sourceType : SourceType) (elements : Bool) :
    Accepts source tree sourceType elements ∨
      ∃ failure, Rejects source tree path sourceType elements failure := by
  have standing {address : List Nat} (isAddress : address ∈ tree.addresses) :
      ∃ place, tree.subtreeAt address = some place := Option.isSome_iff_exists.mp isAddress
  cases fault : (Arena.ofTree source tree).firstError? with
  | some node =>
    obtain ⟨address, first, _⟩ := firstError?_eq_some_iff.mp fault
    obtain ⟨place, stands⟩ := standing first.1
    exact .inr ⟨_, .fault first stands⟩
  | none =>
    have derived := derived_iff.mp fault
    cases offence : firstOffence? (.ofTree source tree) sourceType elements with
    | some found =>
      obtain ⟨id, violation⟩ := found
      obtain ⟨address, first, rfl, offends⟩ := firstOffence?_eq_some_iff.mp offence
      obtain ⟨place, stands⟩ := standing first.1
      exact .inr ⟨_, .offence derived first stands offends⟩
    | none =>
      have inoffensive := inoffensive_iff.mp offence
      cases clash : duplicateBinding? (.ofTree source tree) with
      | some name =>
        have clashes := duplicateBinding?_eq_some_iff_first.mp clash
        have ⟨place, ⟨binding, isBound, _⟩, _⟩ := clashes
        have linked := (Arena.constructed_ofTree source tree).linked
        obtain ⟨address, isAddress, rfl⟩ :=
          tree.exists_address (Arena.size_ofTree source tree ▸ isBound.lt_size linked)
        obtain ⟨subtree, stands⟩ := standing isAddress
        exact .inr ⟨_, .clash derived inoffensive stands clashes⟩
      | none => exact .inl ⟨derived, inoffensive, (unambiguous_iff _).mp clash⟩

end Searches

/-- A tree is accepted if no node is at fault or offends and no name clashes. If it is not, the
failure tells the place of the first node to blame and what it does. -/
theorem first_fault_is_reported (source : String) (tree : ParseTree) (path : FilePath)
    (sourceType : SourceType) (elements : Bool) :
    (validated (.ofTree source tree) path sourceType elements = .ok () ↔
      Accepts source tree sourceType elements) ∧
    ∀ failure, validated (.ofTree source tree) path sourceType elements = .error failure ↔
      Rejects source tree path sourceType elements failure := by
  have decided := accepts_or_rejects source tree path sourceType elements
  refine ⟨⟨fun done => ?_, validated_of_accepts path⟩, fun failure => ⟨fun failed => ?_,
    validated_of_rejects⟩⟩
  · rcases decided with accepts | ⟨failure, rejects⟩
    · exact accepts
    · rw [validated_of_rejects rejects] at done
      cases done
  · rcases decided with accepts | ⟨other, rejects⟩
    · rw [validated_of_accepts path accepts] at failed
      cases failed
    · rw [validated_of_rejects rejects] at failed
      cases failed
      exact rejects

end ExportIndex.JavaScript
