import ExportIndex.JavaScript.Check
import ExportIndex.Proofs.Arena.Ancestry
import ExportIndex.Proofs.Arena.Layout
import Mathlib

/-
This file says which trees are accepted as modules and as scripts, in terms of their nodes and of
the names that the program binds.
-/

namespace ExportIndex.JavaScript

variable {arena : Arena}

/-- The kinds of the statements that modules have and scripts have not. -/
def moduleItemKinds : List String := ["import_statement", "export_statement"]

/-- What a node does that strict code may not do. -/
inductive Sloppy (arena : Arena) (id : Nat) : Violation → Prop
  | withStatement (kind : arena.kind id = "with_statement") : Sloppy arena id .withStatement
  | returnOutsideFunction (kind : arena.kind id = "return_statement")
      (outside : ∀ ancestor, arena.IsAncestor ancestor id →
        arena.kind ancestor ∉ functionKinds) :
      Sloppy arena id .returnOutsideFunction
  /-- A number of at least two digits, the first of which is a zero. -/
  | octalLiteral (kind : arena.kind id = "number") (digits : List Char) (several : digits ≠ [])
      (spelled : (arena.text id).toList = '0' :: digits)
      (decimal : ∀ digit ∈ digits, digit.isDigit) : Sloppy arena id .octalLiteral
  /-- A digit behind a backslash, other than a single zero. -/
  | octalEscape (kind : arena.kind id = "escape_sequence") (first : Char) (rest : List Char)
      (spelled : (arena.text id).toList = '\\' :: first :: rest) (digit : first.isDigit)
      (meaningful : first :: rest ≠ ['0']) : Sloppy arena id .octalEscape
  | deletedBinding (kind : arena.kind id = "unary_expression") (operator argument : Nat)
      (isOperator : arena.field? id "operator" = some operator)
      (deletes : arena.text operator = "delete")
      (isArgument : arena.field? id "argument" = some argument)
      (binding : arena.kind argument = "identifier") : Sloppy arena id .deletedBinding
  | reservedWord (kind : arena.kind id = "identifier")
      (reserved : arena.text id ∈ strictReserved) : Sloppy arena id .reservedWord

theorem isLegacyOctal_iff (text : String) :
    isLegacyOctal text = true ↔ ∃ digits, digits ≠ [] ∧ text.toList = '0' :: digits ∧
      ∀ digit ∈ digits, digit.isDigit := by
  have length : text.length = text.toList.length := text.length_toList.symm
  rw [isLegacyOctal, length]
  cases text.toList with
  | nil => simp
  | cons first rest =>
    cases rest with
    | nil => simp
    | cons second rest =>
      simp only [List.length_cons, List.head?_cons, List.all_cons, Bool.and_eq_true,
        decide_eq_true_eq, beq_iff_eq, Option.some.injEq, List.cons.injEq, List.all_eq_true]
      constructor
      · rintro ⟨⟨_, rfl⟩, _, second, others⟩
        exact ⟨_, List.cons_ne_nil _ _, ⟨rfl, rfl⟩, by simpa using ⟨second, others⟩⟩
      · rintro ⟨_, _, ⟨rfl, rfl⟩, decimal⟩
        exact ⟨⟨by omega, rfl⟩, rfl, by simpa using decimal⟩

theorem isOctalEscape_iff (text : String) :
    isOctalEscape text = true ↔ ∃ first rest, text.toList = '\\' :: first :: rest ∧
      first.isDigit ∧ first :: rest ≠ ['0'] := by
  rw [isOctalEscape]
  split
  · next digits spelled =>
    cases digits with
    | nil => simp [spelled]
    | cons first rest => simp [spelled]
  · next other =>
    simp only [Bool.false_eq_true, false_iff]
    rintro ⟨first, rest, spelled, _⟩
    exact other _ spelled

/-- The ancestors that are looked at are all there are. -/
theorem isOutsideFunction_iff (rising : arena.Rising) {id : Nat} (inRange : id ≤ arena.size) :
    isOutsideFunction arena id = true ↔
      ∀ ancestor, arena.IsAncestor ancestor id → arena.kind ancestor ∉ functionKinds := by
  simp only [isOutsideFunction, List.all_eq_true, Arena.mem_ancestors_iff rising inRange,
    Bool.not_eq_true', List.contains_eq_mem, decide_eq_false_iff_not]

theorem deletesBinding_iff (arena : Arena) (id : Nat) :
    deletesBinding arena id = true ↔
      (∃ operator, arena.field? id "operator" = some operator ∧ arena.text operator = "delete") ∧
      ∃ argument, arena.field? id "argument" = some argument ∧
        arena.kind argument = "identifier" := by
  simp only [deletesBinding, Bool.and_eq_true, Option.any_eq_true, beq_iff_eq]

/-- A node of some kind is there. -/
theorem inRange_of_kind {id : Nat} (named : arena.kind id ≠ "") : id < arena.size := by
  rw [← arena.node?_isSome_iff]
  cases present : arena.node? id with
  | none => simp [Arena.kind, present] at named
  | some node => rfl

/-- The check for strict code finds what a node does wrong, and nothing else. -/
theorem strictViolation?_eq_some_iff (rising : arena.Rising) (id : Nat) (violation : Violation) :
    strictViolation? arena id = some violation ↔ Sloppy arena id violation := by
  constructor
  · intro found
    unfold strictViolation? at found
    split at found
    · next kind =>
      cases found
      exact .withStatement kind
    · next kind =>
      have inRange : id < arena.size := inRange_of_kind (by simp [kind])
      split at found
      · next outside =>
        cases found
        exact .returnOutsideFunction kind ((isOutsideFunction_iff rising inRange.le).mp outside)
      · cases found
    · next kind =>
      split at found
      · next octal =>
        cases found
        obtain ⟨digits, several, spelled, decimal⟩ := (isLegacyOctal_iff _).mp octal
        exact .octalLiteral kind digits several spelled decimal
      · cases found
    · next kind =>
      split at found
      · next octal =>
        cases found
        obtain ⟨first, rest, spelled, digit, meaningful⟩ := (isOctalEscape_iff _).mp octal
        exact .octalEscape kind first rest spelled digit meaningful
      · cases found
    · next kind =>
      split at found
      · next deletes =>
        cases found
        obtain ⟨⟨operator, isOperator, deletes⟩, argument, isArgument, binding⟩ :=
          (deletesBinding_iff arena id).mp deletes
        exact .deletedBinding kind operator argument isOperator deletes isArgument binding
      · cases found
    · next kind =>
      split at found
      · next reserved =>
        cases found
        exact .reservedWord kind (by simpa using reserved)
      · cases found
    · cases found
  · intro sloppy
    cases sloppy with
    | withStatement kind => simp [strictViolation?, kind]
    | returnOutsideFunction kind outside =>
      have inRange : id < arena.size := inRange_of_kind (by simp [kind])
      simp [strictViolation?, kind, (isOutsideFunction_iff rising inRange.le).mpr outside]
    | octalLiteral kind digits several spelled decimal =>
      have octal := (isLegacyOctal_iff _).mpr ⟨digits, several, spelled, decimal⟩
      simp [strictViolation?, kind, octal]
    | octalEscape kind first rest spelled digit meaningful =>
      have octal := (isOctalEscape_iff _).mpr ⟨first, rest, spelled, digit, meaningful⟩
      simp [strictViolation?, kind, octal]
    | deletedBinding kind operator argument isOperator deletes isArgument binding =>
      have found := (deletesBinding_iff arena id).mpr
        ⟨⟨operator, isOperator, deletes⟩, argument, isArgument, binding⟩
      simp [strictViolation?, kind, found]
    | reservedWord kind reserved => simp [strictViolation?, kind, reserved]

/-- Two names that a program binds may stand next to each other: they differ, or both are bound
by `var` or as functions. -/
def Compatible (arena : Arena) (first second : Nat × Binding) : Prop :=
  arena.text first.1 = arena.text second.1 → first.2 = .var ∧ second.2 = .var

/-- A name may be bound after those in `bound`. -/
def Fits (arena : Arena) (bound : List (String × Binding)) (name : Nat × Binding) : Prop :=
  ∀ previous ∈ bound.lookup (arena.text name.1), previous = .var ∧ name.2 = .var

theorem firstClash?_cons (bound : List (String × Binding)) (name : Nat × Binding)
    (rest : List (Nat × Binding)) :
    firstClash? arena bound (name :: rest) = none ↔ Fits arena bound name ∧
      firstClash? arena ((arena.text name.1, name.2) :: bound) rest = none := by
  obtain ⟨id, binding⟩ := name
  rw [firstClash?, Fits]
  cases bound.lookup (arena.text id) with
  | none => simp
  | some previous => cases previous <;> cases binding <;> simp

/-- Behind a name that fits, a name fits if it fits without it and is compatible with it. -/
theorem fits_cons {bound : List (String × Binding)} {name : Nat × Binding}
    (fits : Fits arena bound name) (other : Nat × Binding) :
    Fits arena ((arena.text name.1, name.2) :: bound) other ↔
      Compatible arena name other ∧ Fits arena bound other := by
  rw [Fits, List.lookup_cons]
  by_cases same : arena.text name.1 = arena.text other.1
  · have again : (arena.text other.1 == arena.text name.1) = true := by simp [same]
    rw [again]
    simp only [Option.mem_some_iff, forall_eq']
    constructor
    · intro both
      refine ⟨fun _ => both, fun previous taken => ⟨?_, both.2⟩⟩
      exact (fits previous (same ▸ taken)).1
    · exact fun ⟨compatible, _⟩ => compatible same
  · have fresh : (arena.text other.1 == arena.text name.1) = false := by
      simpa using fun equal => same equal.symm
    rw [fresh]
    exact ⟨fun free => ⟨fun equal => absurd equal same, free⟩, fun ⟨_, free⟩ => free⟩

/-- No name clashes if any two are compatible and each fits behind those that were bound before. -/
theorem firstClash?_eq_none_iff (bound : List (String × Binding)) (names : List (Nat × Binding)) :
    firstClash? arena bound names = none ↔
      names.Pairwise (Compatible arena) ∧ ∀ name ∈ names, Fits arena bound name := by
  -- A later binding hides an earlier one of its name, but both are by `var` if the later one fits.
  induction names generalizing bound with
  | nil => simp [firstClash?]
  | cons name rest ih =>
    rw [firstClash?_cons, ih, List.pairwise_cons, List.forall_mem_cons]
    constructor
    · rintro ⟨fits, pairwise, others⟩
      have split (other : Nat × Binding) (member : other ∈ rest) :=
        (fits_cons fits other).mp (others other member)
      exact ⟨⟨fun other member => (split other member).1, pairwise⟩, fits,
        fun other member => (split other member).2⟩
    · rintro ⟨⟨compatible, pairwise⟩, fits, others⟩
      exact ⟨fits, pairwise, fun other member =>
        (fits_cons fits other).mpr ⟨compatible other member, others other member⟩⟩

theorem firstClash?_nil_eq_none_iff {names : List (Nat × Binding)} :
    firstClash? arena [] names = none ↔ names.Pairwise (Compatible arena) := by
  rw [firstClash?_eq_none_iff, and_iff_left]
  intro name _ previous taken
  cases taken

theorem duplicateBinding?_eq_none_iff (arena : Arena) :
    duplicateBinding? arena = none ↔ (programNames arena).Pairwise (Compatible arena) :=
  firstClash?_nil_eq_none_iff

/-- A tree is one of a module or of a script, with elements or without them. -/
structure Conforms (arena : Arena) (sourceType : SourceType) (elements : Bool) : Prop where
  /-- No node is an error or stands for text that is missing. -/
  derived : ∀ node ∈ arena.nodes, node.isError = false ∧ node.isMissing = false
  plain : elements = false → ∀ id, arena.kind id ∉ elementKinds
  strict : sourceType = .module → ∀ id violation, ¬ Sloppy arena id violation
  itemless : sourceType = .script → ∀ id, arena.kind id ∉ moduleItemKinds
  bound : (programNames arena).Pairwise (Compatible arena)

theorem nodeViolation?_eq_none_iff (rising : arena.Rising) (sourceType : SourceType)
    (elements : Bool) (id : Nat) :
    nodeViolation? arena sourceType elements id = none ↔
      (elements = false → arena.kind id ∉ elementKinds) ∧
      (sourceType = .module → ∀ violation, ¬ Sloppy arena id violation) ∧
      (sourceType = .script → arena.kind id ∉ moduleItemKinds) := by
  have strict : strictViolation? arena id = none ↔ ∀ violation, ¬ Sloppy arena id violation := by
    simp only [Option.eq_none_iff_forall_ne_some, ne_eq, strictViolation?_eq_some_iff rising]
  have items : scriptViolation? arena id = none ↔ arena.kind id ∉ moduleItemKinds := by
    simp [scriptViolation?, moduleItemKinds]
  have guarded (wrong : Bool) (rest : Option Violation) :
      (if wrong then some .elementsNotEnabled else rest) = none ↔ wrong = false ∧ rest = none := by
    cases wrong <;> simp
  unfold nodeViolation?
  rw [guarded]
  cases elements <;> cases sourceType <;> simp [strict, items]

/-- A number that no node has stands for nothing wrong. -/
theorem nodeViolation?_of_kind {id : Nat} (absent : arena.kind id = "") (sourceType : SourceType)
    (elements : Bool) : nodeViolation? arena sourceType elements id = none := by
  unfold nodeViolation?
  cases sourceType <;> simp [absent, elementKinds, strictViolation?, scriptViolation?]

/-- A tree is accepted if none of the three checks finds anything. -/
theorem validated_eq_ok_iff_none (arena : Arena) (path : FilePath) (sourceType : SourceType)
    (elements : Bool) :
    validated arena path sourceType elements = .ok () ↔ arena.firstError? = none ∧
      (∀ id ∈ arena.walk 0, nodeViolation? arena sourceType elements id = none) ∧
      duplicateBinding? arena = none := by
  rw [← arena.checked_eq_ok_iff path, validated]
  cases arena.checked path with
  | error failure =>
    constructor
    · intro done
      cases done
    · rintro ⟨done, _⟩
      cases done
  | ok value =>
    have silent : ((arena.walk 0).findSome? fun id =>
        (nodeViolation? arena sourceType elements id).map fun violation => (id, violation)) =
          none ↔ ∀ id ∈ arena.walk 0, nodeViolation? arena sourceType elements id = none := by
      simp only [List.findSome?_eq_none_iff, Option.map_eq_none_iff]
    rw [← silent]
    generalize (arena.walk 0).findSome? _ = found
    cases found with
    | none => cases duplicateBinding? arena <;> simp [bind, Except.bind]
    | some violating => simp [bind, Except.bind]

/-- The trees of texts that are accepted are those that conform. -/
theorem validated_eq_ok_iff (source : String) (tree : ParseTree) (path : FilePath)
    (sourceType : SourceType) (elements : Bool) :
    validated (.ofTree source tree) path sourceType elements = .ok () ↔
      Conforms (.ofTree source tree) sourceType elements := by
  have rising := Arena.rising_ofTree source tree
  have all : (∀ id ∈ (Arena.ofTree source tree).walk 0,
        nodeViolation? (.ofTree source tree) sourceType elements id = none) ↔
      ∀ id, nodeViolation? (.ofTree source tree) sourceType elements id = none := by
    refine ⟨fun visited id => ?_, fun every id _ => every id⟩
    by_cases absent : (Arena.ofTree source tree).kind id = ""
    · exact nodeViolation?_of_kind absent sourceType elements
    · exact visited id (Arena.mem_walk_ofTree.mpr (inRange_of_kind absent))
  rw [validated_eq_ok_iff_none, Arena.firstError?_eq_none_iff, all, duplicateBinding?_eq_none_iff]
  simp only [nodeViolation?_eq_none_iff rising]
  constructor
  · rintro ⟨derived, nodes, bound⟩
    exact ⟨derived, fun without id => (nodes id).1 without,
      fun isModule id => (nodes id).2.1 isModule, fun isScript id => (nodes id).2.2 isScript, bound⟩
  · intro conforms
    exact ⟨conforms.derived, fun id => ⟨fun without => conforms.plain without id,
      fun isModule => conforms.strict isModule id, fun isScript => conforms.itemless isScript id⟩,
      conforms.bound⟩

end ExportIndex.JavaScript
