import ExportIndex.Proofs.Python.Syntax
import Mathlib

/-
This file shows that the names found in the tree of a module are those that an interpreter finds
in its syntax.
-/

namespace ExportIndex.Python

variable {arena : Arena} {tree : ParseTree} {id : Nat} {parent : Option Nat}

section PlainName

variable (depth : Nat)

theorem plainName?_of_name (isName : arena.kind id ∈ nameKinds) :
    plainName? arena (depth + 1) id = some id := by
  rcases List.mem_pair.mp isName with kind | kind <;> simp [plainName?, kind]

theorem plainName?_of_single {child : Nat} (isParenthesis : arena.kind id ∈ parenthesisKinds)
    (plain : arena.childOfKind? id "," = none) (only : arena.namedChildren id = [child]) :
    plainName? arena (depth + 1) id = plainName? arena depth child := by
  simp only [parenthesisKinds, List.mem_cons, List.not_mem_nil, or_false] at isParenthesis
  rcases isParenthesis with kind | kind | kind <;> simp [plainName?, kind, plain, only]

theorem plainName?_of_several (isParenthesis : arena.kind id ∈ parenthesisKinds)
    (several : (arena.childOfKind? id ",").isSome ∨ arena.namedChildren id = []) :
    plainName? arena depth id = none := by
  cases depth with
  | zero => rfl
  | succ depth =>
    simp only [parenthesisKinds, List.mem_cons, List.not_mem_nil, or_false] at isParenthesis
    rcases several with comma | empty
    · rcases isParenthesis with kind | kind | kind <;> simp [plainName?, kind, comma]
    · rcases isParenthesis with kind | kind | kind <;> simp [plainName?, kind, empty]

theorem plainName?_of_other (other : arena.kind id ∉ nameKinds ++ parenthesisKinds) :
    plainName? arena depth id = none := by
  cases depth with
  | zero => rfl
  | succ depth =>
    simp only [nameKinds, parenthesisKinds, List.cons_append, List.nil_append, List.mem_cons,
      List.not_mem_nil, or_false, not_or] at other
    rw [plainName?]
    split <;> simp_all

end PlainName

/-- The name that is found in a target is the one that is left when its parentheses vanish. -/
theorem plainName?_drawn {target : Target} (drawn : target.Drawn arena.characters tree)
    (shown : arena.Shows id parent tree) {depth : Nat} (deep : tree.size ≤ depth) :
    (plainName? arena depth id).map arena.text = target.toAst.name? := by
  -- On the parentheses; a tree is larger than what stands in it, so its size is depth enough.
  induction drawn generalizing id parent depth with
  | @name text tree isName covers =>
    obtain ⟨depth, rfl⟩ := Nat.exists_eq_add_of_le' (tree.size_pos.trans_le deep)
    rw [plainName?_of_name depth (shown.kind_eq ▸ isName), Option.map_some, shown.text_eq covers]
    rfl
  | @parenthesized inner tree child isParenthesis plain only _ ih =>
    obtain ⟨depth, rfl⟩ := Nat.exists_eq_add_of_le' (tree.size_pos.trans_le deep)
    obtain ⟨number, isOnly, shownChild⟩ := shown.onlyNamedChild only
    have noComma : arena.childOfKind? id "," = none := by
      have absent := shown.childOfKind?_isSome ","
      rw [plain] at absent
      simpa using absent
    have smaller : child.size < tree.size := ParseTree.size_lt_of_namedChild (by simp [only])
    rw [plainName?_of_single depth (shown.kind_eq ▸ isParenthesis) noComma isOnly]
    exact ih shownChild (by omega)
  | @tuple tree isParenthesis several =>
    have comma : (arena.childOfKind? id ",").isSome ∨ arena.namedChildren id = [] := by
      refine several.imp (fun comma => ?_) fun empty => ?_
      · rw [shown.childOfKind?_isSome, comma]
      · have children := shown.namedChildren
        rw [empty] at children
        exact List.forall₂_nil_right_iff.mp children
    rw [plainName?_of_several depth (shown.kind_eq ▸ isParenthesis) comma]
    rfl
  | @pattern tree isPattern =>
    rw [plainName?_of_other depth (by rw [shown.kind_eq, isPattern]; decide)]
    rfl
  | @list tree isList =>
    have other : tree.label.kind ∉ nameKinds ++ parenthesisKinds := by
      rcases List.mem_pair.mp isList with kind | kind <;> rw [kind] <;> decide
    rw [plainName?_of_other depth (shown.kind_eq ▸ other)]
    rfl
  | @member tree isMember =>
    rw [plainName?_of_other depth (by rw [shown.kind_eq, isMember]; decide)]
    rfl
  | @subscript tree isSubscript =>
    rw [plainName?_of_other depth (by rw [shown.kind_eq, isSubscript]; decide)]
    rfl

/-- Every link of a chain is an assignment. -/
theorem Chain.kind_eq {characters : List Char} {targets : List Target}
    (chain : Chain characters targets tree) : tree.label.kind = "assignment" := by
  cases chain with
  | last kind => exact kind
  | more kind => exact kind

/-- The assignment on the right of another one. -/
def rightAssignment? (arena : Arena) (id : Nat) : Option Nat :=
  (arena.field? id "right").filter fun right => arena.kind right == "assignment"

/-- An assignment without a type gives the name of its own target, and then the names of the
assignment on its right. -/
theorem assigned_target {target : Target} {left : ParseTree}
    (untyped : tree.field? "type" = none) (isLeft : tree.field? "left" = some left)
    (drawn : target.Drawn arena.characters left) (shown : arena.Shows id parent tree)
    (depth : Nat) :
    (assigned arena (depth + 1) id).map arena.text = target.toAst.name?.toList ++
      (((rightAssignment? arena id).map (assigned arena depth)).getD []).map arena.text := by
  obtain ⟨number, isNumber, shownLeft⟩ := shown.field?_of_some isLeft
  have fits := shownLeft.size_le
  have name := plainName?_drawn drawn shownLeft (show left.size ≤ arena.size + 1 by omega)
  rw [assigned, shown.field?_of_none untyped, isNumber, ← name, Option.toList_map,
    rightAssignment?]
  simp

/-- The names that are found along a chain are those of its targets in order. -/
theorem assigned_drawn {targets : List Target} (chain : Chain arena.characters targets tree)
    (shown : arena.Shows id parent tree) {depth : Nat} (deep : tree.size ≤ depth) :
    (assigned arena depth id).map arena.text =
      (targets.map Target.toAst).filterMap Ast.Expression.name? := by
  have first (target : Target) (rest : List Target) :
      ((target :: rest).map Target.toAst).filterMap Ast.Expression.name? =
        target.toAst.name?.toList ++
          (rest.map Target.toAst).filterMap Ast.Expression.name? := by
    rw [List.map_cons, List.filterMap_cons]
    cases target.toAst.name? <;> rfl
  -- On the links from the left; each has a smaller tree than the one before it.
  induction chain generalizing id parent depth with
  | @last target tree left kind untyped isLeft drawn value =>
    obtain ⟨depth, rfl⟩ := Nat.exists_eq_add_of_le' (tree.size_pos.trans_le deep)
    have ends : rightAssignment? arena id = none := by
      rw [rightAssignment?]
      cases isRight : tree.field? "right" with
      | none => rw [shown.field?_of_none isRight, Option.filter_none]
      | some right =>
        obtain ⟨number, isNumber, shownRight⟩ := shown.field?_of_some isRight
        simp [isNumber, shownRight.kind_eq, value right isRight]
    rw [assigned_target untyped isLeft drawn shown depth, ends, first]
    rfl
  | @more target rest tree left right kind untyped isLeft drawn isRight chain ih =>
    obtain ⟨depth, rfl⟩ := Nat.exists_eq_add_of_le' (tree.size_pos.trans_le deep)
    obtain ⟨number, isNumber, shownRight⟩ := shown.field?_of_some isRight
    have goesOn : rightAssignment? arena id = some number := by
      simp [rightAssignment?, isNumber, shownRight.kind_eq, chain.kind_eq]
    have smaller : right.size < tree.size := ParseTree.size_lt_of_field? isRight
    rw [assigned_target untyped isLeft drawn shown depth, goesOn, first, Option.map_some,
      Option.getD_some, ih shownRight (by omega)]

/-- An assignment with a type gives no names. -/
theorem assigned_typed (shown : arena.Shows id parent tree)
    (typed : (tree.field? "type").isSome) (depth : Nat) : assigned arena depth id = [] := by
  cases depth with
  | zero => rfl
  | succ depth =>
    obtain ⟨type, isType⟩ := Option.isSome_iff_exists.mp typed
    obtain ⟨number, isNumber, _⟩ := shown.field?_of_some isType
    simp [assigned, isNumber]

/-- A definition is found by its name, however few decorators may nest. -/
theorem defined_definition {definition : Definition}
    (drawn : definition.Drawn arena.characters tree) (shown : arena.Shows id parent tree)
    (depth : Nat) :
    (defined arena (depth + 1) id).map arena.text = definition.toAst.names := by
  have kind := shown.kind_eq
  cases drawn with
  | @function text _ name isFunction _ isName covers
  | @asyncFunction text _ name isFunction _ isName covers
  | @classDefinition text _ name isFunction isName covers =>
    obtain ⟨number, isNumber, shownName⟩ := shown.field?_of_some isName
    simp [defined, kind, isFunction, isNumber, shownName.text_eq covers, Definition.toAst,
      Ast.Statement.names]

/-- The assignments below a node stand for those among the parts of its tree. -/
theorem assignments_shown (shown : arena.Shows id parent tree) :
    List.Forall₂ (fun child part => arena.Shows child (some id) part)
      ((arena.namedChildren id).filter fun child => arena.kind child == "assignment")
      ((parts tree).filter fun part => part.label.kind == "assignment") := by
  have noExtra : (parts tree).filter (fun part => part.label.kind == "assignment") =
      tree.namedChildren.filter fun part => part.label.kind == "assignment" := by
    rw [parts, List.filter_filter]
    apply List.filter_congr
    intro part _
    cases assigns : part.label.kind == "assignment" with
    | false => rfl
    | true =>
      rw [beq_iff_eq.mp assigns]
      rfl
  rw [noExtra]
  refine List.rel_filter (fun child part here => ?_) shown.namedChildren
  simp only [here.kind_eq]

theorem defined_expression (kind : arena.kind id = "expression_statement") (depth : Nat) :
    defined arena (depth + 1) id =
      ((arena.namedChildren id).filter fun child => arena.kind child == "assignment").flatMap
        (assigned arena (arena.size + 1)) := by
  simp [defined, kind]

theorem defined_other (depth : Nat) (noDefinition : arena.kind id ∉ definitionKinds)
    (noExpression : arena.kind id ≠ "expression_statement") : defined arena depth id = [] := by
  cases depth with
  | zero => rfl
  | succ depth =>
    simp only [definitionKinds, List.mem_cons, List.not_mem_nil, or_false, not_or] at noDefinition
    rw [defined]
    split <;> simp_all

/-- An expression statement without assignments among its parts defines nothing. -/
theorem defined_plain (shown : arena.Shows id parent tree)
    (kind : tree.label.kind = "expression_statement")
    (plain : ∀ part ∈ parts tree, part.label.kind ≠ "assignment") (depth : Nat) :
    defined arena (depth + 1) id = [] := by
  have none : (parts tree).filter (fun part => part.label.kind == "assignment") = [] := by
    simpa [List.filter_eq_nil_iff] using plain
  have assignments := assignments_shown shown
  rw [none] at assignments
  rw [defined_expression (shown.kind_eq.trans kind), List.forall₂_nil_right_iff.mp assignments]
  rfl

/-- An expression statement whose only part is an assignment defines what the assignment does. -/
theorem defined_assignment (shown : arena.Shows id parent tree)
    (kind : tree.label.kind = "expression_statement") {assignment : ParseTree}
    (only : parts tree = [assignment]) (assigns : assignment.label.kind = "assignment")
    (depth : Nat) :
    ∃ number, arena.Shows number (some id) assignment ∧
      defined arena (depth + 1) id = assigned arena (arena.size + 1) number := by
  have single : (parts tree).filter (fun part => part.label.kind == "assignment") =
      [assignment] := by
    simp [only, assigns]
  have assignments := assignments_shown shown
  rw [single] at assignments
  obtain ⟨number, rest, shownAssignment, nothing, isOnly⟩ :=
    List.forall₂_cons_right_iff.mp assignments
  cases nothing
  refine ⟨number, shownAssignment, ?_⟩
  rw [defined_expression (shown.kind_eq.trans kind), isOnly, List.flatMap_singleton]

/-- The names that are found in a statement are those that its syntax gives. -/
theorem defined_drawn {statement : Statement}
    (drawn : statement.Drawn arena.characters tree) (shown : arena.Shows id parent tree)
    (depth : Nat) :
    (defined arena (depth + 2) id).map arena.text = statement.toAst.names := by
  cases drawn with
  | plain drawn => exact defined_definition drawn shown (depth + 1)
  | @decorated _ _ inner kind isDefinition drawn =>
    obtain ⟨number, isNumber, shownInner⟩ := shown.field?_of_some isDefinition
    have inside : defined arena (depth + 2) id = defined arena (depth + 1) number := by
      simp [defined, shown.kind_eq, kind, isNumber]
    rw [inside]
    exact defined_definition drawn shownInner depth
  | @assignment first others _ assignment kind only chain =>
    obtain ⟨number, shownAssignment, same⟩ :=
      defined_assignment shown kind only chain.kind_eq (depth + 1)
    have fits := shownAssignment.size_le
    rw [same, assigned_drawn chain shownAssignment (by omega)]
    rfl
  | annotated kind only assigns typed =>
    obtain ⟨number, shownAssignment, same⟩ :=
      defined_assignment shown kind only assigns (depth + 1)
    rw [same, assigned_typed shownAssignment typed]
    rfl
  | augmented kind only assigns =>
    rw [defined_plain shown kind (by simp [only, assigns])]
    rfl
  | other noDefinition plain =>
    by_cases kind : tree.label.kind = "expression_statement"
    · rw [defined_plain shown kind (plain kind)]
      rfl
    · rw [defined_other _ (shown.kind_eq ▸ noDefinition) (shown.kind_eq ▸ kind)]
      rfl

/-- Comments and the like between statements define nothing. -/
theorem defined_extra (depth : Nat) (extra : arena.kind id ∈ extraKinds) :
    defined arena depth id = [] := by
  apply defined_other
  · intro definition
    rcases List.mem_pair.mp extra with kind | kind <;> rw [kind] at definition <;>
      exact absurd definition (by decide)
  · rcases List.mem_pair.mp extra with kind | kind <;> rw [kind] <;> decide

/-- The names that are found in a list of siblings are those of the statements among them. -/
theorem defined_body {ids : List Nat} {siblings : List ParseTree} {body : List Statement}
    (shown : List.Forall₂ (fun id sibling => arena.Shows id (some 0) sibling) ids siblings)
    (drawn : List.Forall₂ (Statement.Drawn arena.characters) body
      (siblings.filter fun sibling => !extraKinds.contains sibling.label.kind)) (depth : Nat) :
    (ids.flatMap (defined arena (depth + 2))).map arena.text =
      (body.map Statement.toAst).flatMap Ast.Statement.names := by
  -- On the siblings and not on the body, since there may be comments between statements.
  induction shown generalizing body with
  | nil =>
    cases drawn
    rfl
  | @cons id sibling ids siblings here _ ih =>
    rw [List.flatMap_cons, List.map_append]
    rw [List.filter_cons] at drawn
    cases extra : extraKinds.contains sibling.label.kind with
    | true =>
      rw [extra] at drawn
      have isExtra : arena.kind id ∈ extraKinds := by
        rw [here.kind_eq]
        simpa using extra
      rw [defined_extra (depth + 2) isExtra, ih drawn]
      rfl
    | false =>
      rw [extra] at drawn
      obtain ⟨statement, others, first, rest, rfl⟩ := List.forall₂_cons_right_iff.mp drawn
      rw [defined_drawn first here depth, ih rest, List.map_cons, List.flatMap_cons]

/-- A tree of a module is accepted, and what is found in it are the names of its syntax. -/
theorem topLevel_drawn (grammar : Grammar) (path : FilePath) {source : String}
    {body : List Statement} (drawn : ModuleDrawn source body (grammar source)) :
    topLevel grammar path source =
      .ok ((body.map Statement.toAst).flatMap Ast.Statement.names) := by
  have shown := Arena.shows_ofTree source (grammar source)
  have derived : (Arena.ofTree source (grammar source)).checked path = .ok () := by
    rw [Arena.checked_eq_ok_iff, Arena.firstError?_eq_none_iff]
    intro node member
    obtain ⟨id, here⟩ := Array.mem_iff_getElem?.mp member
    exact drawn.derived node.toLabel (Arena.toLabel_mem_labels here)
  have current : formerStatement? (.ofTree source (grammar source)) = none := by
    rw [formerStatement?, List.find?_eq_none]
    intro id visited former
    obtain ⟨node, here⟩ := Option.isSome_iff_exists.mp
      ((Arena.node?_isSome_iff _ id).mpr (Arena.mem_walk_ofTree.mp visited))
    have isFormer : node.kind ∈ formerKinds := by
      simpa [Arena.kind, here] using former
    exact drawn.current node.toLabel (Arena.toLabel_mem_labels here) isFormer
  have positive := (grammar source).size_pos
  obtain ⟨depth, deep⟩ : ∃ depth, (Arena.ofTree source (grammar source)).size + 1 = depth + 2 := by
    rw [Arena.size_ofTree]
    exact ⟨(grammar source).size - 1, by omega⟩
  have statements := drawn.drawn
  rw [← Arena.characters_ofTree source (grammar source)] at statements
  have names := defined_body shown.namedChildren statements depth
  rw [topLevel]
  simp only [derived, current, deep, names]
  rfl

/-- The public names that are found in the tree of a module are those that an interpreter finds in
its syntax, in the same order. -/
theorem topLevel_agrees_with_syntax (grammar : Grammar) (path : FilePath) {source : String}
    {body : List Statement} (drawn : ModuleDrawn source body (grammar source)) :
    ∃ names, topLevel grammar path source = .ok names ∧
      publicNames names = publicNames (Ast.topLevelSymbols (body.map Statement.toAst)) := by
  refine ⟨_, topLevel_drawn grammar path drawn, ?_⟩
  rw [publicNames, publicNames, Ast.topLevelSymbols, List.filter_filter]
  simp only [Bool.and_self]

/-- Two lines with a statement of each sort. -/
def sampleSource : String :=
  "((a)) = b = x.y = 1; (c, d) = 2; e: int = 3; f += 4; _g = 5; pass\nclass H: pass"

def sampleBody : List Statement :=
  [ .assignment (.parenthesized (.parenthesized (.name "a"))) [.name "b", .member],
    .assignment .tuple [], .annotated (.name "e"), .augmented (.name "f"),
    .assignment (.name "_g") [], .other, .definition false (.classDefinition "H") ]

/-- A node in the second line of the sample. -/
def secondLine (kind : String) (named : Bool) (start stop : Nat)
    (children : List (Option String × ParseTree)) : ParseTree :=
  .node ⟨kind, named, start, stop, 1, start - 66, false, false⟩ children

/-- The tree of the sample. -/
def sampleTree : ParseTree :=
  .notion "module" 0 79 [
    (none, .notion "expression_statement" 0 19 [
      (none, .notion "assignment" 0 19 [
        (some "left", .notion "tuple_pattern" 0 5 [
          (none, .token "(" 0),
          (none, .notion "tuple_pattern" 1 4 [
            (none, .token "(" 1),
            (none, .notion "identifier" 2 3 []),
            (none, .token ")" 3)]),
          (none, .token ")" 4)]),
        (none, .token "=" 6),
        (some "right", .notion "assignment" 8 19 [
          (some "left", .notion "identifier" 8 9 []),
          (none, .token "=" 10),
          (some "right", .notion "assignment" 12 19 [
            (some "left", .notion "attribute" 12 15 [
              (some "object", .notion "identifier" 12 13 []),
              (none, .token "." 13),
              (some "attribute", .notion "identifier" 14 15 [])]),
            (none, .token "=" 16),
            (some "right", .notion "integer" 18 19 [])])])])]),
    (none, .token ";" 19),
    (none, .notion "expression_statement" 21 31 [
      (none, .notion "assignment" 21 31 [
        (some "left", .notion "tuple_pattern" 21 27 [
          (none, .token "(" 21),
          (none, .notion "identifier" 22 23 []),
          (none, .token "," 23),
          (none, .notion "identifier" 25 26 []),
          (none, .token ")" 26)]),
        (none, .token "=" 28),
        (some "right", .notion "integer" 30 31 [])])]),
    (none, .token ";" 31),
    (none, .notion "expression_statement" 33 43 [
      (none, .notion "assignment" 33 43 [
        (some "left", .notion "identifier" 33 34 []),
        (none, .token ":" 34),
        (some "type", .notion "type" 36 39 [(none, .notion "identifier" 36 39 [])]),
        (none, .token "=" 40),
        (some "right", .notion "integer" 42 43 [])])]),
    (none, .token ";" 43),
    (none, .notion "expression_statement" 45 51 [
      (none, .notion "augmented_assignment" 45 51 [
        (some "left", .notion "identifier" 45 46 []),
        (some "operator", .token "+=" 47),
        (some "right", .notion "integer" 50 51 [])])]),
    (none, .token ";" 51),
    (none, .notion "expression_statement" 53 59 [
      (none, .notion "assignment" 53 59 [
        (some "left", .notion "identifier" 53 55 []),
        (none, .token "=" 56),
        (some "right", .notion "integer" 58 59 [])])]),
    (none, .token ";" 59),
    (none, .notion "pass_statement" 61 65 [(none, .token "pass" 61)]),
    (none, secondLine "class_definition" true 66 79 [
      (none, secondLine "class" false 66 71 []),
      (some "name", secondLine "identifier" true 72 73 []),
      (none, secondLine ":" false 73 74 []),
      (some "body", secondLine "block" true 75 79 [
        (none, secondLine "pass_statement" true 75 79 [
          (none, secondLine "pass" false 75 79 [])])])])]

theorem sample_name (start stop : Nat) (text : String)
    (covers : Arena.slice? sampleSource.toList start stop = some text.toList) :
    (Target.name text).Drawn sampleSource.toList (.notion "identifier" start stop []) :=
  .name List.mem_cons_self covers

theorem sample_statements :
    List.Forall₂ (Statement.Drawn sampleSource.toList) sampleBody (parts sampleTree) := by
  have pattern : "tuple_pattern" ∈ parenthesisKinds := by decide
  have a := sample_name 2 3 "a" (by decide +kernel)
  have b := sample_name 8 9 "b" (by decide +kernel)
  have e := sample_name 33 34 "e" (by decide +kernel)
  have f := sample_name 45 46 "f" (by decide +kernel)
  have g := sample_name 53 55 "_g" (by decide +kernel)
  refine .cons ?chained (.cons ?tupled (.cons ?typed (.cons ?added (.cons ?hidden
    (.cons ?passed (.cons ?defined .nil))))))
  case chained =>
    refine .assignment rfl rfl (.more rfl rfl rfl ?_ rfl (.more rfl rfl rfl b rfl
      (.last rfl rfl rfl (.member rfl) ?_)))
    · exact .parenthesized pattern rfl rfl (.parenthesized pattern rfl rfl a)
    · intro right isRight
      cases isRight
      decide
  case tupled =>
    refine .assignment rfl rfl (.last rfl rfl rfl (.tuple pattern (.inl rfl)) ?_)
    intro right isRight
    cases isRight
    decide
  case typed => exact .annotated rfl rfl rfl rfl rfl e
  case added => exact .augmented rfl rfl rfl rfl f
  case hidden =>
    refine .assignment rfl rfl (.last rfl rfl rfl g ?_)
    intro right isRight
    cases isRight
    decide
  case passed => exact .other (by decide) fun kind => absurd kind (by decide)
  case defined =>
    have covers : (secondLine "identifier" true 72 73 []).Covers sampleSource.toList "H" := by
      rw [ParseTree.Covers]
      decide +kernel
    exact .plain (.classDefinition rfl rfl covers)

theorem sample_drawn : ModuleDrawn sampleSource sampleBody sampleTree where
  kind := rfl
  derived := by decide +kernel
  current := by decide +kernel
  drawn := sample_statements

/-- The sample has three public names. -/
theorem topLevel_agrees_with_syntax_of_sample :
    ModuleDrawn sampleSource sampleBody sampleTree ∧
      ∃ names, topLevel (fun _ => sampleTree) ⟨"m.py"⟩ sampleSource = .ok names ∧
        publicNames names = ["a", "b", "H"] := by
  have agrees := topLevel_agrees_with_syntax (fun _ => sampleTree) ⟨"m.py"⟩ sample_drawn
  have listed : publicNames (Ast.topLevelSymbols (sampleBody.map Statement.toAst)) =
      ["a", "b", "H"] := by decide +kernel
  rw [listed] at agrees
  exact ⟨sample_drawn, agrees⟩

end ExportIndex.Python
