import ExportIndex.Proofs.Arena.Depth
import ExportIndex.Proofs.Extraction.Contribution
import ExportIndex.Proofs.JavaScript.Scope
import Mathlib

/-
This file says which exports the nodes of an untyped source give. A record stands at a place, which
says what visit gives it and where in its node it is given; of the records with a name, the one at
the earliest place is reported.
-/

namespace ExportIndex

open ExportRecord

namespace JavaScript

/-- The kinds of functions and classes, and what their records say that they are. -/
def callableKinds : List (String × SymbolKind) :=
  [("function_declaration", .function), ("generator_function_declaration", .function),
    ("function", .function), ("function_expression", .function),
    ("generator_function", .function), ("class_declaration", .classDefinition),
    ("class", .classDefinition)]

/-- A node has a child under a field, or else under a second one. -/
def EitherField (arena : Arena) (id : Nat) (field other : String) (child : Nat) : Prop :=
  arena.field? id field = some child ∨
    arena.field? id field = none ∧ arena.field? id other = some child

/-- A node is a function or a class with a name. -/
structure Defines (arena : Arena) (definition name : Nat) (symbol : SymbolKind) : Prop where
  kind : (arena.kind definition, symbol) ∈ callableKinds
  named : arena.field? definition "name" = some name

/-- The record of a default export. -/
inductive DefaultOf (arena : Arena) (path : FilePath) (id : Nat) : ExportRecord → Prop
  | named {target name : Nat} {symbol : SymbolKind}
      (leads : EitherField arena id "declaration" "value" target)
      (defines : Defines arena target name symbol) :
      DefaultOf arena path id (.ofDefault (arena.text name) symbol)
  | anonymous (unnamed : ∀ target, EitherField arena id "declaration" "value" target →
      ∀ name symbol, ¬ Defines arena target name symbol) :
      DefaultOf arena path id (.ofDefault (anonymousDefault.nameFor path) .default)

/-- A declaration gives a record, in the declarator at an index or by itself. -/
inductive Declares (arena : Arena) (declaration : Nat) : Nat → ExportRecord → Prop
  | listed {index declarator name : Nat} {binding : Binding}
      (kind : (arena.kind declaration, binding) ∈ listKinds)
      (isDeclarator : (arena.namedChildren declaration)[index]? = some declarator)
      (binds : BindsPlainly arena declarator name) :
      Declares arena declaration index (.named (arena.text name) .variable)
  | defined {name : Nat} {symbol : SymbolKind} (defines : Defines arena declaration name symbol) :
      Declares arena declaration 0 (.named (arena.text name) symbol)

/-- A specifier exports something under a plain name. -/
structure Specifies (arena : Arena) (specifier name : Nat) : Prop where
  kind : arena.kind specifier = "export_specifier"
  named : EitherField arena specifier "alias" "name" name
  plain : arena.kind name = "identifier"

/-- A clause exports the name in the specifier at an index again. -/
inductive Relists (arena : Arena) (clause : Nat) : Nat → ExportRecord → Prop
  | specified {index specifier name : Nat}
      (isSpecifier : (arena.namedChildren clause)[index]? = some specifier)
      (specifies : Specifies arena specifier name) :
      Relists arena clause index (.named (arena.text name) .reExport)

/-- The assignment is one to a property of a variable. -/
inductive Assigns (arena : Arena) (id object property : Nat) : Prop
  | member {left : Nat} (toLeft : arena.field? id "left" = some left)
      (isMember : arena.kind left = "member_expression")
      (ofObject : arena.field? left "object" = some object)
      (isVariable : arena.kind object = "identifier")
      (toProperty : arena.field? left "property" = some property)

/-- A member of an object has a plain name as its key. -/
inductive KeyedBy (arena : Arena) (member : Nat) : Nat → Prop
  | shorthand (kind : arena.kind member = "shorthand_property_identifier") :
      KeyedBy arena member member
  | pair {key : Nat} (kind : arena.kind member = "pair")
      (keyed : arena.field? member "key" = some key)
      (plain : arena.kind key ∈ ["property_identifier", "shorthand_property_identifier"]) :
      KeyedBy arena member key
  | method {key : Nat} (kind : arena.kind member = "method_definition")
      (named : arena.field? member "name" = some key)
      (plain : arena.kind key ∈ ["property_identifier", "shorthand_property_identifier"]) :
      KeyedBy arena member key

/-- An assignment to a property gives a record: of the member at an index of an object that becomes
`module.exports`, or of the property itself if it is one of `exports`. -/
inductive Supplies (arena : Arena) (id object property : Nat) : Nat → ExportRecord → Prop
  | keyed {right index member key : Nat} (ofModule : arena.text object = "module")
      (isExports : arena.text property = "exports")
      (value : arena.field? id "right" = some right) (isObject : arena.kind right = "object")
      (isMember : (arena.namedChildren right)[index]? = some member)
      (keyed : KeyedBy arena member key) :
      Supplies arena id object property index (.named (arena.text key) .unknown)
  | property (ofExports : arena.text object = "exports")
      (plain : arena.kind property = "property_identifier") :
      Supplies arena id object property 0 (.named (arena.text property) .unknown)

/-- A node gives a record in one of its parts, at an index there. Export statements and assignments
give records, and no other nodes do. -/
inductive GivesAt (arena : Arena) (path : FilePath) (id : Nat) : Nat × Nat → ExportRecord → Prop
  | default {record : ExportRecord} (kind : arena.kind id = "export_statement")
      (isDefault : (arena.childOfKind? id "default").isSome)
      (gives : DefaultOf arena path id record) : GivesAt arena path id (0, 0) record
  | declared {declaration index : Nat} {record : ExportRecord}
      (kind : arena.kind id = "export_statement")
      (isNamed : arena.childOfKind? id "default" = none)
      (isDeclaration : arena.field? id "declaration" = some declaration)
      (gives : Declares arena declaration index record) : GivesAt arena path id (0, index) record
  | listed {clause index : Nat} {record : ExportRecord}
      (kind : arena.kind id = "export_statement")
      (isNamed : arena.childOfKind? id "default" = none)
      (isClause : arena.childOfKind? id "export_clause" = some clause)
      (gives : Relists arena clause index record) : GivesAt arena path id (1, index) record
  | assigned {object property index : Nat} {record : ExportRecord}
      (kind : arena.kind id = "assignment_expression")
      (assigns : Assigns arena id object property)
      (gives : Supplies arena id object property index record) :
      GivesAt arena path id (0, index) record

/-- The order of the places where records are given: that of the visits, then that within a node. -/
def GivenBefore : Nat × Nat × Nat → Nat × Nat × Nat → Prop := Prod.Lex (· < ·) Before

/-- The node of a visit gives a record. -/
def GivenAt (arena : Arena) (path : FilePath) (start : Nat) (place : Nat × Nat × Nat)
    (record : ExportRecord) : Prop :=
  ∃ id, (arena.walk start)[place.1]? = some id ∧ GivesAt arena path id place.2 record

/-- A record has a name that no record before it has. -/
structure FirstOfName (records : List ExportRecord) (position : Nat) (record : ExportRecord) :
    Prop where
  here : records[position]? = some record
  named : record.name ≠ ""
  first : ∀ earlier < position, ∀ other, records[earlier]? = some other → other.name ≠ record.name

/-- The assignment is one to a member of `exports`. -/
structure ExportsMember (arena : Arena) (id property : Nat) : Prop where
  kind : arena.kind id = "assignment_expression"
  assigns : ∃ object, Assigns arena id object property ∧ arena.text object = "exports"
  plain : arena.kind property = "property_identifier"

/-- Assignments to members of `exports`, each but the last one of the next one, with the names of
the members. -/
inductive ExportChain (arena : Arena) : List Nat → List String → Prop
  | last {id property : Nat} (exporting : ExportsMember arena id property) :
      ExportChain arena [id] [arena.text property]
  | next {id property next : Nat} {ids : List Nat} {names : List String}
      (exporting : ExportsMember arena id property)
      (value : arena.field? id "right" = some next) (rest : ExportChain arena (next :: ids) names) :
      ExportChain arena (id :: next :: ids) (arena.text property :: names)

section Contributions

variable {arena : Arena} {path : FilePath} {id : Nat}

theorem callableKind?_eq_some_iff (kind : String) (symbol : SymbolKind) :
    callableKind? kind = some symbol ↔ (kind, symbol) ∈ callableKinds := by
  simp only [callableKind?, List.contains_iff_mem, callableKinds, List.mem_cons, Prod.mk.injEq,
    List.not_mem_nil, or_false]
  split
  · next known => rcases known with rfl | rfl | rfl | rfl | rfl <;> simp [eq_comm]
  · split
    · next known => rcases known with rfl | rfl <;> simp [eq_comm]
    · simp_all

theorem defaultTarget?_eq_some_iff (id target : Nat) :
    defaultTarget? arena id = some target ↔ EitherField arena id "declaration" "value" target :=
  Option.or_eq_some_iff

theorem Defines.defaultRecord_eq {target name : Nat} {symbol : SymbolKind}
    (defines : Defines arena target name symbol)
    (leads : EitherField arena id "declaration" "value" target) :
    defaultRecord arena path id = .ofDefault (arena.text name) symbol := by
  have isTarget := (defaultTarget?_eq_some_iff id target).mpr leads
  have known := (callableKind?_eq_some_iff _ _).mpr defines.kind
  simp [defaultRecord, isTarget, known, defines.named]

theorem defaultRecord_anonymous
    (unnamed : ∀ target, EitherField arena id "declaration" "value" target →
      ∀ name symbol, ¬ Defines arena target name symbol) :
    defaultRecord arena path id = .ofDefault (anonymousDefault.nameFor path) .default := by
  rw [defaultRecord]
  cases isTarget : defaultTarget? arena id with
  | none => rfl
  | some target =>
    have nothing := unnamed target ((defaultTarget?_eq_some_iff id target).mp isTarget)
    cases known : callableKind? (arena.kind target) with
    | none => simp [known]
    | some symbol =>
      cases named : arena.field? target "name" with
      | none => simp [known, named]
      | some name =>
        exact absurd ⟨(callableKind?_eq_some_iff _ _).mp known, named⟩ (nothing name symbol)

/-- A default export has one record. -/
theorem defaultOf_iff {record : ExportRecord} :
    DefaultOf arena path id record ↔ record = defaultRecord arena path id := by
  constructor
  · intro isDefault
    cases isDefault with
    | named leads defines => exact (defines.defaultRecord_eq leads).symm
    | anonymous unnamed => exact (defaultRecord_anonymous unnamed).symm
  · rintro rfl
    by_cases unnamed : ∀ target, EitherField arena id "declaration" "value" target →
        ∀ name symbol, ¬ Defines arena target name symbol
    · rw [defaultRecord_anonymous unnamed]
      exact .anonymous unnamed
    · simp only [not_forall, not_not] at unnamed
      obtain ⟨target, leads, name, symbol, defines⟩ := unnamed
      rw [defines.defaultRecord_eq leads]
      exact .named leads defines

theorem exists_listKind (kind : String) :
    (∃ binding, (kind, binding) ∈ listKinds) ↔
      ["lexical_declaration", "variable_declaration"].contains kind = true := by
  simp [listKinds, exists_or]

theorem callableKind?_of_list {kind : String}
    (listed : ["lexical_declaration", "variable_declaration"].contains kind = true) :
    callableKind? kind = none := by
  simp only [List.contains_iff_mem, List.mem_cons, List.not_mem_nil, or_false] at listed
  rcases listed with rfl | rfl <;> rfl

/-- A declaration without declarators gives at most one record. -/
theorem declarationRecords_eq_toList {declaration : Nat}
    (other : ¬ ["lexical_declaration", "variable_declaration"].contains
      (arena.kind declaration) = true) :
    declarationRecords arena declaration =
      ((callableKind? (arena.kind declaration)).bind fun symbol =>
        (arena.field? declaration "name").map fun name =>
          ExportRecord.named (arena.text name) symbol).toList := by
  rw [declarationRecords, if_neg other]
  cases callableKind? (arena.kind declaration) <;> cases arena.field? declaration "name" <;> rfl

theorem lists_declarationRecords (arena : Arena) (declaration : Nat) :
    Lists (· < ·) (Declares arena declaration) (declarationRecords arena declaration) := by
  by_cases listed :
    ["lexical_declaration", "variable_declaration"].contains (arena.kind declaration) = true
  · rw [declarationRecords, if_pos listed]
    refine (((lists_positions _).filterMap _).map _).congr fun index record => ?_
    constructor
    · rintro ⟨name, ⟨declarator, isDeclarator, binds⟩, rfl⟩
      obtain ⟨binding, kind⟩ := (exists_listKind _).mpr listed
      exact .listed kind isDeclarator ((declaratorName?_eq_some_iff _ _ _).mp binds)
    · intro declares
      cases declares with
      | listed _ isDeclarator binds =>
        exact ⟨_, ⟨_, isDeclarator, (declaratorName?_eq_some_iff _ _ _).mpr binds⟩, rfl⟩
      | defined defines =>
        have known := (callableKind?_eq_some_iff _ _).mpr defines.kind
        rw [callableKind?_of_list listed] at known
        cases known
  · rw [declarationRecords_eq_toList listed]
    refine (lists_own _).congr fun index record => ?_
    simp only [Option.bind_eq_some_iff, Option.map_eq_some_iff, callableKind?_eq_some_iff]
    constructor
    · rintro ⟨rfl, symbol, kind, name, named, rfl⟩
      exact .defined ⟨kind, named⟩
    · intro declares
      cases declares with
      | listed kind => exact absurd ((exists_listKind _).mp ⟨_, kind⟩) listed
      | defined defines => exact ⟨rfl, _, defines.kind, _, defines.named, rfl⟩

theorem specifierName?_eq_some_iff (specifier name : Nat) :
    specifierName? arena specifier = some name ↔ Specifies arena specifier name := by
  rw [specifierName?]
  split
  · next kind =>
    rw [Option.filter_eq_some_iff, beq_iff_eq, Option.or_eq_some_iff]
    exact ⟨fun ⟨named, plain⟩ => ⟨kind, named, plain⟩,
      fun specifies => ⟨specifies.named, specifies.plain⟩⟩
  · next other =>
    constructor
    · intro found
      cases found
    · exact fun specifies => absurd specifies.kind other

theorem lists_clauseRecords (arena : Arena) (clause : Nat) :
    Lists (· < ·) (Relists arena clause) (clauseRecords arena clause) := by
  refine (((lists_positions _).filterMap _).map _).congr fun index record => ?_
  simp only [specifierName?_eq_some_iff]
  constructor
  · rintro ⟨name, ⟨specifier, isSpecifier, specifies⟩, rfl⟩
    exact .specified isSpecifier specifies
  · rintro ⟨isSpecifier, specifies⟩
    exact ⟨_, ⟨_, isSpecifier, specifies⟩, rfl⟩

theorem memberKey?_eq_some_iff (member : Nat) (text : String) :
    memberKey? arena member = some text ↔
      ∃ key, KeyedBy arena member key ∧ arena.text key = text := by
  constructor
  · intro found
    unfold memberKey? at found
    have keyed {key? : Option Nat}
        (known : (key?.bind fun key =>
          if ["property_identifier", "shorthand_property_identifier"].contains (arena.kind key) then
            some (arena.text key) else none) = some text) :
        ∃ key, key? = some key ∧ arena.text key = text ∧
          arena.kind key ∈ ["property_identifier", "shorthand_property_identifier"] := by
      obtain ⟨key, isKey, known⟩ := Option.bind_eq_some_iff.mp known
      obtain ⟨plain, same⟩ := Option.ite_none_right_eq_some.mp known
      exact ⟨key, isKey, Option.some.inj same, List.contains_iff_mem.mp plain⟩
    split at found
    · next kind =>
      obtain ⟨key, isKey, same, plain⟩ := keyed found
      cases isKey
      exact ⟨member, .shorthand kind, same⟩
    · next kind =>
      obtain ⟨key, isKey, same, plain⟩ := keyed found
      exact ⟨key, .pair kind isKey plain, same⟩
    · next kind =>
      obtain ⟨key, isKey, same, plain⟩ := keyed found
      exact ⟨key, .method kind isKey plain, same⟩
    · cases found
  · rintro ⟨key, keyed, rfl⟩
    cases keyed with
    | shorthand kind => simp [memberKey?, kind]
    | pair kind keyed plain => simp_all [memberKey?]
    | method kind named plain => simp_all [memberKey?]

theorem lists_memberRecords (arena : Arena) (object : Nat) :
    Lists (· < ·) (fun (index : Nat) record => ∃ member key,
      (arena.namedChildren object)[index]? = some member ∧ KeyedBy arena member key ∧
        record = ExportRecord.named (arena.text key) .unknown)
      (((arena.namedChildren object).filterMap (memberKey? arena)).map
        (ExportRecord.named · .unknown)) := by
  refine (((lists_positions _).filterMap _).map _).congr fun index record => ?_
  simp only [memberKey?_eq_some_iff]
  constructor
  · rintro ⟨_, ⟨member, isMember, key, keyed, rfl⟩, rfl⟩
    exact ⟨member, key, isMember, keyed, rfl⟩
  · rintro ⟨member, key, isMember, keyed, rfl⟩
    exact ⟨_, ⟨member, isMember, key, keyed, rfl⟩, rfl⟩

theorem lists_propertyRecords (arena : Arena) (id object property : Nat) :
    Lists (· < ·) (Supplies arena id object property)
      (propertyRecords arena id object property) := by
  rw [propertyRecords]
  split
  · next toModule =>
    simp only [Bool.and_eq_true, decide_eq_true_eq] at toModule
    split
    · next right isRight =>
      obtain ⟨value, isObject⟩ := Option.filter_eq_some_iff.mp isRight
      refine (lists_memberRecords arena right).congr fun index record => ?_
      constructor
      · rintro ⟨member, key, isMember, keyed, rfl⟩
        exact .keyed toModule.1 toModule.2 value (beq_iff_eq.mp isObject) isMember keyed
      · intro supplies
        cases supplies with
        | keyed _ _ also _ isMember keyed =>
          obtain rfl := Option.some.inj (value.symm.trans also)
          exact ⟨_, _, isMember, keyed, rfl⟩
        | property ofExports => simp [toModule.1] at ofExports
    · next nothing =>
      refine (lists_nil _).congr fun index record => ⟨False.elim, fun supplies => ?_⟩
      cases supplies with
      | keyed _ _ value isObject => simp [value, isObject] at nothing
      | property ofExports => simp [toModule.1] at ofExports
  · split
    · next toExports =>
      simp only [Bool.and_eq_true, decide_eq_true_eq] at toExports
      refine (lists_own (some _)).congr fun index record => ?_
      constructor
      · rintro ⟨rfl, same⟩
        exact Option.some.inj same ▸ .property toExports.1 toExports.2
      · intro supplies
        cases supplies with
        | keyed ofModule => simp [toExports.1] at ofModule
        | property => exact ⟨rfl, rfl⟩
    · next other =>
      refine (lists_nil _).congr fun index record => ⟨False.elim, fun supplies => ?_⟩
      cases supplies with
      | keyed ofModule isExports => simp_all
      | property ofExports plain => simp_all

/-- The variable and the property of it that an assignment is to. -/
def assigned? (arena : Arena) (id : Nat) : Option (Nat × Nat) := do
  let left ← (arena.field? id "left").filter fun left => arena.kind left == "member_expression"
  let object ← (arena.field? left "object").filter fun object => arena.kind object == "identifier"
  return (object, ← arena.field? left "property")

theorem assigned?_eq_some_iff (object property : Nat) :
    assigned? arena id = some (object, property) ↔ Assigns arena id object property := by
  simp only [assigned?, Option.bind_eq_bind, Option.bind_eq_some_iff, Option.filter_eq_some_iff,
    beq_iff_eq, Option.pure_def, Option.some.injEq, Prod.mk.injEq]
  constructor
  · rintro ⟨left, ⟨toLeft, isMember⟩, _, ⟨ofObject, isVariable⟩, _, toProperty, rfl, rfl⟩
    exact .member toLeft isMember ofObject isVariable toProperty
  · rintro ⟨toLeft, isMember, ofObject, isVariable, toProperty⟩
    exact ⟨_, ⟨toLeft, isMember⟩, _, ⟨ofObject, isVariable⟩, _, toProperty, rfl, rfl⟩

theorem assignmentRecords_eq (arena : Arena) (id : Nat) :
    assignmentRecords arena id =
      ((assigned? arena id).map fun target =>
        propertyRecords arena id target.1 target.2).getD [] := by
  rw [assignmentRecords, assigned?]
  split
  · next nothing => simp [nothing]
  · next left isLeft =>
    cases ofObject : arena.field? left "object" with
    | none => simp [isLeft, ofObject]
    | some object =>
      by_cases isVariable : arena.kind object = "identifier" <;>
        cases toProperty : arena.field? left "property" <;>
          simp [isLeft, ofObject, isVariable, toProperty, Option.filter_some]

theorem lists_statementRecords (path : FilePath)
    (exporting : arena.kind id = "export_statement") :
    Lists Before (GivesAt arena path id) (statementRecords arena path id) := by
  have assigning : arena.kind id ≠ "assignment_expression" := by simp [exporting]
  rw [statementRecords]
  split
  · next isDefault =>
    refine (lists_own (some (defaultRecord arena path id))).alone.congr fun place record => ?_
    constructor
    · obtain ⟨part, index⟩ := place
      rintro ⟨rfl, rfl, same⟩
      exact .default exporting isDefault (defaultOf_iff.mpr (Option.some.inj same).symm)
    · intro gives
      cases gives with
      | default _ _ gives => exact ⟨rfl, rfl, congrArg some (defaultOf_iff.mp gives).symm⟩
      | declared _ isNamed => simp [isNamed] at isDefault
      | listed _ isNamed => simp [isNamed] at isDefault
      | assigned kind => exact absurd kind assigning
  · next isNamed =>
    have declared := lists_option (arena.field? id "declaration") (lists_declarationRecords arena)
    have listed := lists_option (arena.childOfKind? id "export_clause") (lists_clauseRecords arena)
    rw [Option.not_isSome_iff_eq_none] at isNamed
    refine (declared.append listed).congr fun place record => ?_
    constructor
    · obtain ⟨part, index⟩ := place
      rintro (⟨rfl, declaration, isDeclaration, gives⟩ | ⟨rfl, clause, isClause, gives⟩)
      · exact .declared exporting isNamed isDeclaration gives
      · exact .listed exporting isNamed isClause gives
    · intro gives
      cases gives with
      | default _ isDefault => simp [isNamed] at isDefault
      | declared _ _ isDeclaration gives => exact .inl ⟨rfl, _, isDeclaration, gives⟩
      | listed _ _ isClause gives => exact .inr ⟨rfl, _, isClause, gives⟩
      | assigned kind => exact absurd kind assigning

theorem lists_assignmentRecords (path : FilePath)
    (assigning : arena.kind id = "assignment_expression") :
    Lists Before (GivesAt arena path id) (assignmentRecords arena id) := by
  have exporting : arena.kind id ≠ "export_statement" := by simp [assigning]
  have supplied := lists_option (assigned? arena id)
    fun target => lists_propertyRecords arena id target.1 target.2
  rw [assignmentRecords_eq]
  refine supplied.alone.congr fun place record => ?_
  constructor
  · obtain ⟨part, index⟩ := place
    rintro ⟨rfl, ⟨object, property⟩, assigns, gives⟩
    exact .assigned assigning ((assigned?_eq_some_iff object property).mp assigns) gives
  · intro gives
    cases gives with
    | default kind => exact absurd kind exporting
    | declared kind => exact absurd kind exporting
    | listed kind => exact absurd kind exporting
    | assigned _ assigns gives =>
      exact ⟨rfl, _, (assigned?_eq_some_iff _ _).mpr assigns, gives⟩

theorem lists_contribution (arena : Arena) (path : FilePath) (id : Nat) :
    Lists Before (GivesAt arena path id) (contribution arena path id) := by
  unfold contribution
  split
  · next exporting => exact lists_statementRecords path exporting
  · next assigning => exact lists_assignmentRecords path assigning
  · next other another =>
    refine (lists_nil _).congr fun place record => ⟨False.elim, fun gives => ?_⟩
    cases gives with
    | default kind => exact other kind
    | declared kind => exact other kind
    | listed kind => exact other kind
    | assigned kind => exact another kind

end Contributions

section FirstRecords

variable {A B : Type} {key : A → B} {seen : List B} {item : A}

/-- An item has a key that has not been seen and that no item before it has. -/
structure FirstOfKey (key : A → B) (seen : List B) (items : List A) (position : Nat) (item : A) :
    Prop where
  here : items[position]? = some item
  fresh : key item ∉ seen
  first : ∀ earlier < position, ∀ other, items[earlier]? = some other → key other ≠ key item

theorem firstOfKey_zero {front : A} {rest : List A} :
    FirstOfKey key seen (front :: rest) 0 item ↔ item = front ∧ key front ∉ seen := by
  constructor
  · rintro ⟨here, fresh, _⟩
    obtain rfl := Option.some.inj here
    exact ⟨rfl, fresh⟩
  · rintro ⟨rfl, fresh⟩
    exact ⟨rfl, fresh, by simp⟩

theorem firstOfKey_succ {front : A} {rest : List A} {position : Nat} :
    FirstOfKey key seen (front :: rest) (position + 1) item ↔
      FirstOfKey key (key front :: seen) rest position item := by
  constructor
  · rintro ⟨here, fresh, first⟩
    rw [Nat.forall_lt_succ_left] at first
    have apart := first.1 front rfl
    exact ⟨here, by simp [fresh, apart.symm], first.2⟩
  · rintro ⟨here, fresh, first⟩
    simp only [List.mem_cons, not_or] at fresh
    refine ⟨here, fresh.2, Nat.forall_lt_succ_left.mpr ⟨fun other same => ?_, first⟩⟩
    exact Option.some.inj same ▸ Ne.symm fresh.1

/-- Of the items with a key that has not been seen, the first one of each key is kept. -/
theorem lists_firstOfEach [DecidableEq B] (seen : List B) (items : List A) :
    Lists (· < ·) (FirstOfKey key seen items) (firstOfEach key seen items) := by
  induction items generalizing seen with
  | nil =>
    refine (lists_nil _).congr fun position item => ⟨False.elim, fun first => ?_⟩
    simpa using first.here
  | cons front rest ih =>
    rw [firstOfEach]
    split
    · next old =>
      have same : firstOfEach key seen rest = firstOfEach key (key front :: seen) rest := by
        apply firstOfEach_congr
        intro one
        rw [List.mem_cons, or_iff_right_of_imp]
        rintro rfl
        exact old
      refine same ▸ (ih _).behind.congr fun position item => ?_
      cases position with
      | zero => simp [firstOfKey_zero, old]
      | succ before => simp [firstOfKey_succ]
    · next fresh =>
      refine ((ih _).cons front).congr fun position item => ?_
      cases position with
      | zero => simp [firstOfKey_zero, fresh]
      | succ before => simp [firstOfKey_succ]

theorem lists_dedup (records : List ExportRecord) :
    Lists (· < ·) (FirstOfName records) (dedup records) := by
  refine (lists_firstOfEach [""] records).congr fun position record => ?_
  constructor
  · rintro ⟨here, fresh, first⟩
    exact ⟨here, by simpa using fresh, first⟩
  · rintro ⟨here, named, first⟩
    exact ⟨here, by simpa using named, first⟩

end FirstRecords

section Chains

variable {arena : Arena} {path : FilePath}

theorem ExportsMember.contribution_eq {id property : Nat}
    (exporting : ExportsMember arena id property) :
    contribution arena path id = [.named (arena.text property) .unknown] := by
  obtain ⟨kind, ⟨object, assigns, ofExports⟩, plain⟩ := exporting
  have target := (assigned?_eq_some_iff object property).mpr assigns
  unfold contribution
  simp [kind, assignmentRecords_eq, target, propertyRecords, ofExports, plain]

/-- Each assignment of a chain is a child of the one before it. -/
theorem ExportChain.isChain {ids : List Nat} {names : List String}
    (chain : ExportChain arena ids names) (linked : arena.Linked) :
    ids.IsChain fun parent child => child ∈ arena.children parent := by
  induction chain with
  | last => exact .singleton _
  | next _ value _ ih => exact .cons_cons (linked.mem_children_of_field? value) ih

theorem ExportChain.flatMap_contribution {ids : List Nat} {names : List String}
    (chain : ExportChain arena ids names) :
    ids.flatMap (contribution arena path) = names.map (.named · .unknown) := by
  induction chain with
  | last exporting => simp [exporting.contribution_eq]
  | next exporting _ _ ih => simp [List.flatMap_cons, exporting.contribution_eq, ih]

end Chains

theorem wellFounded_givenBefore : WellFounded GivenBefore :=
  Nat.lt_wfRel.wf.prod_lex (Nat.lt_wfRel.wf.prod_lex Nat.lt_wfRel.wf)

theorem lists_given (arena : Arena) (path : FilePath) (start : Nat) :
    Lists GivenBefore (GivenAt arena path start)
      ((arena.walk start).flatMap (contribution arena path)) :=
  (lists_positions (arena.walk start)).flatMap (lists_contribution arena path)

/-- The exports of an untyped source are the records that its nodes give, of each name the one at
the earliest place and none without a name. Along a chain of assignments each one gives its name,
and they do so in turn. -/
theorem exports_are_first_given (arena : Arena) (path : FilePath) (start : Nat) :
    (∃! given, Lists GivenBefore (GivenAt arena path start) given) ∧
    ∀ given, Lists GivenBefore (GivenAt arena path start) given →
      Lists (· < ·) (FirstOfName given) (recordsFrom arena path start) ∧
      ∀ source tree, arena = .ofTree source tree → ∀ id ids names,
        ExportChain arena (id :: ids) names → id ∈ arena.walk start →
          (names.map (.named · .unknown)).Sublist given := by
  have lists := lists_given arena path start
  have only {given} (others : Lists GivenBefore (GivenAt arena path start) given) :=
    others.unique wellFounded_givenBefore lists
  refine ⟨⟨_, lists, fun _ others => only others⟩, fun given others => ?_⟩
  obtain rfl := only others
  refine ⟨?_, ?_⟩
  · rw [recordsFrom_eq_dedup]
    exact lists_dedup _
  · rintro source tree rfl id ids names chain visited
    have linked := (Arena.constructed_ofTree source tree).linked
    have way := Arena.sublist_walk_ofTree (chain.isChain linked) visited
    rw [← chain.flatMap_contribution]
    exact way.flatMap _

/-- The tree of `exports.a=exports.b=v;export{b as a,c}`. -/
def chained : ParseTree :=
  let member (start : Nat) : ParseTree :=
    .notion "member_expression" start (start + 9) [
      (some "object", .notion "identifier" start (start + 7) []),
      (some "property", .notion "property_identifier" (start + 8) (start + 9) [])]
  let name (field : String) (start : Nat) : Option String × ParseTree :=
    (some field, .notion "identifier" start (start + 1) [])
  .notion "program" 0 38 [
    (none, .notion "expression_statement" 0 22 [
      (none, .notion "assignment_expression" 0 21 [
        (some "left", member 0),
        (some "right", .notion "assignment_expression" 10 21 [
          (some "left", member 10), name "right" 20])])]),
    (none, .notion "export_statement" 22 38 [
      (none, .notion "export_clause" 28 38 [
        (none, .notion "export_specifier" 29 35 [name "name" 29, name "alias" 34]),
        (none, .notion "export_specifier" 36 37 [name "name" 36])])])]

def chainedArena : Arena := .ofTree "exports.a=exports.b=v;export\x7bb as a,c\x7d" chained

/-- Both assignments of that program give their names, and the second `a` is not reported. -/
theorem exports_are_first_given_of_chained :
    ∃ given, Lists GivenBefore (GivenAt chainedArena ⟨"m.js"⟩ 0) given ∧
      [ExportRecord.named "a" .unknown, .named "b" .unknown].Sublist given ∧
      Lists (· < ·) (FirstOfName given)
        [.named "a" .unknown, .named "b" .unknown, .named "c" .reExport] := by
  obtain ⟨⟨given, lists, _⟩, results⟩ := exports_are_first_given chainedArena ⟨"m.js"⟩ 0
  obtain ⟨first, chains⟩ := results given lists
  have reported : recordsFrom chainedArena ⟨"m.js"⟩ 0 =
      [.named "a" .unknown, .named "b" .unknown, .named "c" .reExport] := by
    rw [recordsFrom_eq_dedup, chainedArena, Arena.walk_ofTree]
    decide +kernel
  have member {id object property : Nat}
      (shown : chainedArena.kind id = "assignment_expression" ∧
        assigned? chainedArena id = some (object, property) ∧
          chainedArena.text object = "exports" ∧
            chainedArena.kind property = "property_identifier") :
      ExportsMember chainedArena id property := by
    obtain ⟨kind, assigned, ofExports, plain⟩ := shown
    exact ⟨kind, ⟨object, (assigned?_eq_some_iff object property).mp assigned, ofExports⟩, plain⟩
  have outer : ExportsMember chainedArena 2 5 := @member 2 4 5 (by decide +kernel)
  have inner : ExportsMember chainedArena 6 9 := @member 6 8 9 (by decide +kernel)
  have chain : ExportChain chainedArena [2, 6] [chainedArena.text 5, chainedArena.text 9] :=
    .next outer (by decide +kernel) (.last inner)
  have texts : [chainedArena.text 5, chainedArena.text 9] = ["a", "b"] := by decide +kernel
  have visited : 2 ∈ chainedArena.walk 0 := Arena.mem_walk_ofTree.mpr (by decide +kernel)
  exact ⟨given, lists, chains _ _ rfl 2 [6] ["a", "b"] (texts ▸ chain) visited,
    reported ▸ first⟩

end JavaScript

end ExportIndex
