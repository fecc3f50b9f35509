import ExportIndex.Proofs.Arena.History
import ExportIndex.Proofs.JavaScript.Acceptance
import ExportIndex.Proofs.JavaScript.Listing
import Mathlib

/-
This file says which name of a program clashes with one before it. Names stand at places: in the
order of the statements that bind them, and within a statement in the order of its declarators.
-/

namespace ExportIndex.JavaScript

variable {arena after : Arena}

/-- The kinds of declarations that bind the names of their declarators. -/
def listKinds : List (String × Binding) :=
  [("lexical_declaration", .lexical), ("variable_declaration", .var)]

/-- The kinds of declarations that bind a name of their own. -/
def definitionKinds : List (String × Binding) :=
  [("class_declaration", .lexical), ("function_declaration", .var),
    ("generator_function_declaration", .var)]

/-- The statement at a position of the program is a declaration, or exports one. -/
inductive DeclarationAt (arena : Arena) (position : Nat) : Nat → Prop
  | direct {statement : Nat}
      (isStatement : (arena.namedChildren 0)[position]? = some statement)
      (kind : arena.kind statement ≠ "export_statement") : DeclarationAt arena position statement
  | exported {statement declaration : Nat}
      (isStatement : (arena.namedChildren 0)[position]? = some statement)
      (kind : arena.kind statement = "export_statement")
      (declares : arena.field? statement "declaration" = some declaration) :
      DeclarationAt arena position declaration

/-- A declarator binds a plain name, and no pattern. -/
structure BindsPlainly (arena : Arena) (declarator name : Nat) : Prop where
  kind : arena.kind declarator = "variable_declarator"
  named : arena.field? declarator "name" = some name
  plain : arena.kind name = "identifier"

/-- A declaration binds a name, in the declarator at an index or by itself. -/
inductive Binds (arena : Arena) (declaration : Nat) : Nat → Nat → Binding → Prop
  | listed {index declarator name : Nat} {binding : Binding}
      (kind : (arena.kind declaration, binding) ∈ listKinds)
      (isDeclarator : (arena.namedChildren declaration)[index]? = some declarator)
      (binds : BindsPlainly arena declarator name) : Binds arena declaration index name binding
  | defined {name : Nat} {binding : Binding}
      (kind : (arena.kind declaration, binding) ∈ definitionKinds)
      (named : arena.field? declaration "name" = some name) :
      Binds arena declaration 0 name binding

/-- The program binds a name at a place, which is a position and an index. -/
def BoundAt (arena : Arena) (place : Nat × Nat) (name : Nat) (binding : Binding) : Prop :=
  ∃ declaration, DeclarationAt arena place.1 declaration ∧
    Binds arena declaration place.2 name binding

/-- The order of places. -/
def Before : Nat × Nat → Nat × Nat → Prop := Prod.Lex (· < ·) (· < ·)

/-- The name at a place has been bound before, and one of the bindings is lexical. -/
def ClashesAt (arena : Arena) (place : Nat × Nat) (name : Nat) : Prop :=
  ∃ binding, BoundAt arena place name binding ∧
    ∃ earlier previous other, Before earlier place ∧ BoundAt arena earlier previous other ∧
      arena.text previous = arena.text name ∧ (other = .lexical ∨ binding = .lexical)

/-- No name clashes at an earlier place than this one does. -/
def ClashesFirst (arena : Arena) (name : Nat) : Prop :=
  ∃ place, ClashesAt arena place name ∧
    ∀ earlier, Before earlier place → ∀ other, ¬ ClashesAt arena earlier other

section Places

theorem bindingOf?_eq_some_iff (kind : String) (binding : Binding) :
    bindingOf? kind = some binding ↔ (kind, binding) ∈ listKinds ++ definitionKinds := by
  unfold bindingOf?
  split <;> simp_all [listKinds, definitionKinds, eq_comm]

theorem declaratorName?_eq_some_iff (arena : Arena) (declarator name : Nat) :
    declaratorName? arena declarator = some name ↔ BindsPlainly arena declarator name := by
  rw [declaratorName?]
  split
  · next kind =>
    rw [Option.filter_eq_some_iff, beq_iff_eq]
    exact ⟨fun ⟨named, plain⟩ => ⟨kind, named, plain⟩, fun binds => ⟨binds.named, binds.plain⟩⟩
  · next other =>
    constructor
    · intro found
      cases found
    · exact fun binds => absurd binds.kind other

theorem lists_declarations (arena : Arena) :
    Lists (· < ·) (DeclarationAt arena)
      ((arena.namedChildren 0).filterMap (declarationOf? arena)) := by
  refine ((lists_positions _).filterMap _).congr fun position declaration => ?_
  constructor
  · rintro ⟨statement, isStatement, found⟩
    rw [declarationOf?] at found
    split at found
    · next kind => exact .exported isStatement kind found
    · next kind =>
      cases found
      exact .direct isStatement kind
  · intro stands
    cases stands with
    | direct isStatement kind => exact ⟨_, isStatement, if_neg kind⟩
    | exported isStatement kind declares => exact ⟨_, isStatement, (if_pos kind).trans declares⟩

/-- A declaration has declarators, or else a name of its own. -/
theorem kinds_of_bindingOf? {kind : String} {binding : Binding}
    (known : bindingOf? kind = some binding) :
    ((kind, binding) ∈ listKinds ↔
      ["lexical_declaration", "variable_declaration"].contains kind = true) ∧
    ((kind, binding) ∈ definitionKinds ↔
      ¬ ["lexical_declaration", "variable_declaration"].contains kind = true) := by
  have tabled := (bindingOf?_eq_some_iff kind binding).mp known
  simp only [listKinds, definitionKinds, List.cons_append, List.nil_append, List.mem_cons,
    Prod.mk.injEq, List.not_mem_nil, or_false] at tabled
  rcases tabled with ⟨rfl, rfl⟩ | ⟨rfl, rfl⟩ | ⟨rfl, rfl⟩ | ⟨rfl, rfl⟩ | ⟨rfl, rfl⟩ <;> decide

theorem Binds.known {declaration index name : Nat} {binding : Binding}
    (binds : Binds arena declaration index name binding) :
    bindingOf? (arena.kind declaration) = some binding := by
  rw [bindingOf?_eq_some_iff]
  cases binds with
  | listed kind => exact List.mem_append_left _ kind
  | defined kind => exact List.mem_append_right _ kind

theorem lists_declaredNames (arena : Arena) (declaration : Nat) :
    Lists (· < ·) (fun index name => Binds arena declaration index name.1 name.2)
      (declaredNames arena declaration) := by
  rw [declaredNames]
  cases known : bindingOf? (arena.kind declaration) with
  | none =>
    refine (lists_nil _).congr fun index name => ⟨False.elim, fun binds => ?_⟩
    rw [binds.known] at known
    cases known
  | some binding =>
    obtain ⟨listed_iff, defined_iff⟩ := kinds_of_bindingOf? known
    have same {index name : Nat} {other : Binding}
        (binds : Binds arena declaration index name other) : other = binding :=
      Option.some.inj (binds.known.symm.trans known)
    dsimp only
    split
    · next listed =>
      refine (((lists_positions _).filterMap _).map _).congr fun index name => ?_
      constructor
      · rintro ⟨_, ⟨declarator, isDeclarator, found⟩, rfl⟩
        exact .listed (listed_iff.mpr listed) isDeclarator
          ((declaratorName?_eq_some_iff _ _ _).mp found)
      · intro binds
        obtain ⟨id, other⟩ := name
        obtain rfl := same binds
        cases binds with
        | listed _ isDeclarator plain =>
          exact ⟨id, ⟨_, isDeclarator, (declaratorName?_eq_some_iff _ _ _).mpr plain⟩, rfl⟩
        | defined kind => exact absurd listed (defined_iff.mp kind)
    · next defined =>
      refine ((lists_own _).map _).congr fun index name => ?_
      constructor
      · rintro ⟨_, ⟨rfl, named⟩, rfl⟩
        exact .defined (defined_iff.mpr defined) named
      · intro binds
        obtain ⟨id, other⟩ := name
        obtain rfl := same binds
        cases binds with
        | listed kind => exact absurd (listed_iff.mp kind) defined
        | defined _ named => exact ⟨id, ⟨rfl, named⟩, rfl⟩

/-- The names that a program binds come in the order of their places. -/
theorem lists_programNames (arena : Arena) :
    Lists Before (fun place name => BoundAt arena place name.1 name.2) (programNames arena) :=
  (lists_declarations arena).flatMap (lists_declaredNames arena)

theorem BoundAt.mem_programNames {place : Nat × Nat} {name : Nat} {binding : Binding}
    (isBound : BoundAt arena place name binding) : (name, binding) ∈ programNames arena := by
  obtain ⟨pairs, shown, _, mem⟩ := lists_programNames arena
  rw [← shown]
  exact List.mem_map_of_mem ((mem place (name, binding)).mpr isBound)

end Places

section Clashes

theorem not_compatible_iff {first second : Nat × Binding} :
    ¬ Compatible arena first second ↔ arena.text first.1 = arena.text second.1 ∧
      (first.2 = .lexical ∨ second.2 = .lexical) := by
  obtain ⟨one, binding⟩ := first
  obtain ⟨other, another⟩ := second
  cases binding <;> cases another <;> simp [Compatible]

theorem firstClash?_of_fits {bound : List (String × Binding)} {name : Nat × Binding}
    (fits : Fits arena bound name) (rest : List (Nat × Binding)) :
    firstClash? arena bound (name :: rest) =
      firstClash? arena ((arena.text name.1, name.2) :: bound) rest := by
  obtain ⟨id, binding⟩ := name
  rw [firstClash?]
  split
  · next previous taken =>
    obtain ⟨rfl, rfl⟩ : previous = .var ∧ binding = .var := fits previous taken
    rfl
  · rfl

theorem firstClash?_of_not_fits {bound : List (String × Binding)} {name : Nat × Binding}
    (clashes : ¬ Fits arena bound name) (rest : List (Nat × Binding)) :
    firstClash? arena bound (name :: rest) = some name.1 := by
  obtain ⟨id, binding⟩ := name
  simp only [Fits, not_forall] at clashes
  obtain ⟨previous, taken, lexical⟩ := clashes
  rw [firstClash?, Option.mem_def.mp taken]
  cases previous <;> cases binding <;> simp_all

/-- The clash that is found is that of the first name without which none would be found. -/
theorem firstClash?_eq_some_iff {bound : List (String × Binding)} {names : List (Nat × Binding)}
    {id : Nat} :
    firstClash? arena bound names = some id ↔ ∃ earlier binding rest,
      names = earlier ++ (id, binding) :: rest ∧ firstClash? arena bound earlier = none ∧
        firstClash? arena bound (earlier ++ [(id, binding)]) ≠ none := by
  induction names generalizing bound with
  | nil => simp [firstClash?]
  | cons name others ih =>
    by_cases fits : Fits arena bound name
    · rw [firstClash?_of_fits fits, ih]
      constructor
      · rintro ⟨earlier, binding, rest, rfl, silent, clashes⟩
        refine ⟨name :: earlier, binding, rest, rfl, ?_, ?_⟩
        · rwa [firstClash?_of_fits fits]
        · rwa [List.cons_append, firstClash?_of_fits fits]
      · rintro ⟨earlier, binding, rest, split, silent, clashes⟩
        cases earlier with
        | nil =>
          cases split
          rw [List.nil_append, firstClash?_of_fits fits] at clashes
          exact absurd rfl clashes
        | cons first earlier =>
          cases split
          rw [firstClash?_of_fits fits] at silent
          rw [List.cons_append, firstClash?_of_fits fits] at clashes
          exact ⟨earlier, binding, rest, rfl, silent, clashes⟩
    · rw [firstClash?_of_not_fits fits]
      constructor
      · rintro ⟨rfl⟩
        refine ⟨[], name.2, others, rfl, rfl, ?_⟩
        rw [List.nil_append, firstClash?_of_not_fits fits]
        exact Option.some_ne_none _
      · rintro ⟨earlier, binding, rest, split, silent, clashes⟩
        cases earlier with
        | nil =>
          cases split
          rfl
        | cons first earlier =>
          cases split
          rw [firstClash?_of_not_fits fits] at silent
          cases silent

/-- Before the clash that is found, all names are compatible, but one of them clashes with it. -/
theorem duplicateBinding?_eq_some_iff {id : Nat} :
    duplicateBinding? arena = some id ↔ ∃ earlier binding rest,
      programNames arena = earlier ++ (id, binding) :: rest ∧
        earlier.Pairwise (Compatible arena) ∧
        ∃ previous ∈ earlier, ¬ Compatible arena previous (id, binding) := by
  rw [duplicateBinding?, firstClash?_eq_some_iff]
  simp only [ne_eq, firstClash?_nil_eq_none_iff, List.pairwise_append]
  constructor
  · rintro ⟨earlier, binding, rest, split, compatible, clashes⟩
    refine ⟨earlier, binding, rest, split, compatible, ?_⟩
    by_contra none
    simp only [not_exists, not_and, not_not] at none
    exact clashes ⟨compatible, List.pairwise_singleton _ _, by simpa using none⟩
  · rintro ⟨earlier, binding, rest, split, compatible, previous, member, clashes⟩
    refine ⟨earlier, binding, rest, split, compatible, fun ⟨_, _, across⟩ => ?_⟩
    exact clashes (across previous member _ (List.mem_singleton_self _))

theorem Before.trans {first second third : Nat × Nat} (before : Before first second)
    (behind : Before second third) : Before first third := by
  rw [Before, Prod.lex_def] at *
  omega

theorem Before.asymm {first second : Nat × Nat} (before : Before first second) :
    ¬ Before second first := by
  rw [Before, Prod.lex_def] at *
  omega

section Sorted

variable {Item : Type} {front back : List ((Nat × Nat) × Item)} {pair other : (Nat × Nat) × Item}

/-- Where pairs come in the order of their places, those that stand before one of them are the
ones at earlier places. -/
theorem mem_front_iff
    (sorted : (front ++ pair :: back).Pairwise fun first second => Before first.1 second.1)
    (member : other ∈ front ++ pair :: back) : other ∈ front ↔ Before other.1 pair.1 := by
  rw [List.pairwise_append, List.pairwise_cons] at sorted
  obtain ⟨_, ⟨behind, _⟩, across⟩ := sorted
  constructor
  · exact fun inFront => across other inFront pair List.mem_cons_self
  · intro earlier
    rcases List.mem_append.mp member with inFront | notInFront
    · exact inFront
    rcases List.mem_cons.mp notInFront with rfl | inBack
    · exact absurd earlier earlier.asymm
    · exact absurd earlier (behind other inBack).asymm

/-- A relation holds from item to later item if it holds from earlier places to later ones. -/
theorem pairwise_iff_before {related : Item → Item → Prop} {pairs : List ((Nat × Nat) × Item)}
    (sorted : pairs.Pairwise fun first second => Before first.1 second.1) :
    (pairs.map Prod.snd).Pairwise related ↔
      ∀ first ∈ pairs, ∀ second ∈ pairs, Before first.1 second.1 → related first.2 second.2 := by
  rw [List.pairwise_map]
  constructor
  · intro pairwise first isFirst second isSecond before
    obtain ⟨front, back, rfl⟩ := List.append_of_mem isSecond
    have inFront := (mem_front_iff sorted isFirst).mpr before
    exact (List.pairwise_append.mp pairwise).2.2 first inFront second List.mem_cons_self
  · intro each
    exact sorted.imp_of_mem fun isFirst isSecond before => each _ isFirst _ isSecond before

end Sorted

/-- What is found is the first clash in the order of the places. -/
theorem duplicateBinding?_eq_some_iff_first {name : Nat} :
    duplicateBinding? arena = some name ↔ ClashesFirst arena name := by
  obtain ⟨pairs, shown, sorted, mem⟩ := lists_programNames arena
  rw [duplicateBinding?_eq_some_iff, ← shown]
  constructor
  · rintro ⟨_, binding, _, split, compatible, (previous : Nat × Binding), isEarlier, clashes⟩
    obtain ⟨front, others, rfl, rfl, behind⟩ := List.map_eq_append_iff.mp split
    obtain ⟨⟨place, _⟩, back, rfl, rfl, rfl⟩ := List.map_eq_cons_iff.mp behind
    obtain ⟨⟨earlier, _⟩, inFront, rfl⟩ := List.mem_map.mp isEarlier
    have compatible := (pairwise_iff_before (List.pairwise_append.mp sorted).1).mp compatible
    have inList := List.mem_append_left ((place, (name, binding)) :: back) inFront
    refine ⟨place, ⟨binding, (mem place (name, binding)).mp (by simp), earlier, _, _,
      (mem_front_iff sorted inList).mp inFront, (mem earlier _).mp inList,
      not_compatible_iff.mp clashes⟩, ?_⟩
    rintro middle isMiddle id ⟨another, isBound, least, former, third, before, wasBound, again⟩
    -- The two names of a clash at an earlier place stand before the name that is found.
    have second := (mem middle (id, another)).mpr isBound
    have first := (mem least (former, third)).mpr wasBound
    have firstInFront := (mem_front_iff sorted first).mpr (before.trans isMiddle)
    have secondInFront := (mem_front_iff sorted second).mpr isMiddle
    exact not_compatible_iff.mpr again (compatible _ firstInFront _ secondInFront before)
  · rintro ⟨place, ⟨binding, isBound, earlier, previous, other, before, wasBound, clashes⟩, first⟩
    obtain ⟨front, back, rfl⟩ := List.append_of_mem ((mem place (name, binding)).mpr isBound)
    refine ⟨front.map Prod.snd, binding, back.map Prod.snd, by simp, ?_, (previous, other), ?_,
      not_compatible_iff.mpr clashes⟩
    · refine (pairwise_iff_before (List.pairwise_append.mp sorted).1).mpr ?_
      intro one isOne two isTwo ordered
      by_contra incompatible
      have inList (pair : (Nat × Nat) × (Nat × Binding)) (inFront : pair ∈ front) :
          pair ∈ front ++ (place, (name, binding)) :: back := List.mem_append_left _ inFront
      exact first two.1 ((mem_front_iff sorted (inList two isTwo)).mp isTwo) two.2.1
        ⟨two.2.2, (mem two.1 two.2).mp (inList two isTwo), one.1, one.2.1, one.2.2, ordered,
          (mem one.1 one.2).mp (inList one isOne), not_compatible_iff.mp incompatible⟩
    · have inList := (mem earlier (previous, other)).mpr wasBound
      exact List.mem_map_of_mem ((mem_front_iff sorted inList).mpr before)

/-- Something is found if some name clashes. -/
theorem duplicateBinding?_isSome_iff :
    (duplicateBinding? arena).isSome ↔ ∃ place name, ClashesAt arena place name := by
  rw [Option.isSome_iff_exists]
  simp only [duplicateBinding?_eq_some_iff_first]
  constructor
  · rintro ⟨name, place, clashes, _⟩
    exact ⟨place, name, clashes⟩
  · intro clashing
    -- Of the places with a clash there is a first one, as their order has no infinite descent.
    obtain ⟨place, ⟨name, clashes⟩, first⟩ :=
      (WellFounded.prod_lex wellFounded_lt wellFounded_lt).has_min
        {place | ∃ name, ClashesAt arena place name} clashing
    exact ⟨name, place, clashes, fun earlier before other again =>
      first earlier ⟨other, again⟩ before⟩

end Clashes

section Below

/-- A node from which the names that the program binds are looked for. -/
inductive AtScope (arena : Arena) : Nat → Prop
  | program : AtScope arena 0
  | exporting {statement : Nat} (isStatement : statement ∈ arena.namedChildren 0)
      (kind : arena.kind statement = "export_statement") : AtScope arena statement
  | declaring {position declaration : Nat} {binding : Binding}
      (stands : DeclarationAt arena position declaration)
      (kind : (arena.kind declaration, binding) ∈ listKinds ++ definitionKinds) :
      AtScope arena declaration
  | declarator {position declaration declarator : Nat} {binding : Binding}
      (stands : DeclarationAt arena position declaration)
      (kind : (arena.kind declaration, binding) ∈ listKinds)
      (isDeclarator : declarator ∈ arena.namedChildren declaration)
      (declares : arena.kind declarator = "variable_declarator") : AtScope arena declarator

/-- The kinds of such nodes, other than that of the program. -/
def scopeKinds : List String :=
  "export_statement" :: "variable_declarator" :: (listKinds ++ definitionKinds).map Prod.fst

theorem AtScope.kind_mem {id : Nat} (atScope : AtScope arena id) :
    id = 0 ∨ arena.kind id ∈ scopeKinds := by
  cases atScope with
  | program => exact .inl rfl
  | exporting _ kind => exact .inr (kind ▸ List.mem_cons_self)
  | declaring _ kind =>
    exact .inr (List.mem_cons_of_mem _ (List.mem_cons_of_mem _ (List.mem_map_of_mem kind)))
  | declarator _ _ _ kind => exact .inr (kind ▸ List.mem_cons_of_mem _ List.mem_cons_self)

variable {calls : List Arena.Call}

theorem exists_declarationAt {declaration : Nat}
    (member : declaration ∈ (arena.namedChildren 0).filterMap (declarationOf? arena)) :
    ∃ position, DeclarationAt arena position declaration := by
  obtain ⟨pairs, shown, _, mem⟩ := lists_declarations arena
  rw [← shown] at member
  obtain ⟨⟨position, _⟩, isPair, rfl⟩ := List.mem_map.mp member
  exact ⟨position, (mem position _).mp isPair⟩

theorem DeclarationAt.lt_size {position declaration : Nat} (linked : arena.Linked)
    (stands : DeclarationAt arena position declaration) : declaration < arena.size := by
  cases stands with
  | direct isStatement => exact linked.lt_size_of_namedChild (List.mem_of_getElem? isStatement)
  | exported isStatement kind declares => exact linked.lt_size_of_field? declares

theorem BoundAt.lt_size {place : Nat × Nat} {name : Nat} {binding : Binding}
    (linked : arena.Linked) (isBound : BoundAt arena place name binding) : name < arena.size := by
  obtain ⟨position, index⟩ := place
  obtain ⟨declaration, _, binds⟩ := isBound
  dsimp only at binds
  cases binds with
  | listed _ _ plain => exact linked.lt_size_of_field? plain.named
  | defined _ named => exact linked.lt_size_of_field? named

/-- Calls leave the declarations alone if they add no children to the program and its exports. -/
theorem declarations_eq (records : Arena.Records calls arena after) (linked : arena.Linked)
    (below : ∀ id, AtScope arena id → Arena.Untouched calls id) :
    (after.namedChildren 0).filterMap (declarationOf? after) =
      (arena.namedChildren 0).filterMap (declarationOf? arena) := by
  rw [records.namedChildren_eq (below 0 .program) linked]
  apply List.filterMap_congr
  intro statement isStatement
  rw [declarationOf?, declarationOf?, records.kind_eq (linked.lt_size_of_namedChild isStatement)]
  split
  · next kind => exact records.field?_eq (below statement (.exporting isStatement kind)) _
  · rfl

/-- Calls leave the names of a declaration alone if they add no children to it and its
declarators. -/
theorem declaredNames_eq (records : Arena.Records calls arena after) (linked : arena.Linked)
    (below : ∀ id, AtScope arena id → Arena.Untouched calls id) {position declaration : Nat}
    (stands : DeclarationAt arena position declaration) :
    declaredNames after declaration = declaredNames arena declaration := by
  rw [declaredNames, declaredNames, records.kind_eq (stands.lt_size linked)]
  cases known : bindingOf? (arena.kind declaration) with
  | none => rfl
  | some binding =>
    have kind := (bindingOf?_eq_some_iff _ _).mp known
    have untouched := below declaration (.declaring stands kind)
    dsimp only
    split
    · next listed =>
      have isList := (kinds_of_bindingOf? known).1.mpr listed
      rw [records.namedChildren_eq untouched linked]
      congr 1
      apply List.filterMap_congr
      intro declarator isDeclarator
      rw [declaratorName?, declaratorName?,
        records.kind_eq (linked.lt_size_of_namedChild isDeclarator)]
      split
      · next declares =>
        rw [records.field?_eq (below declarator (.declarator stands isList isDeclarator declares))]
        cases named : arena.field? declarator "name" with
        | none => rfl
        | some name =>
          simp only [Option.filter_some, records.kind_eq (linked.lt_size_of_field? named)]
      · rfl
    · rw [records.field?_eq untouched]

theorem programNames_eq (records : Arena.Records calls arena after) (linked : arena.Linked)
    (below : ∀ id, AtScope arena id → Arena.Untouched calls id) :
    programNames after = programNames arena := by
  rw [programNames, programNames, declarations_eq records linked below]
  apply List.flatMap_congr
  intro declaration member
  obtain ⟨position, stands⟩ := exists_declarationAt member
  exact declaredNames_eq records linked below stands

theorem firstClash?_congr {bound : List (String × Binding)} {names : List (Nat × Binding)}
    (same : ∀ name ∈ names, after.text name.1 = arena.text name.1) :
    firstClash? after bound names = firstClash? arena bound names := by
  induction names generalizing bound with
  | nil => rfl
  | cons name rest ih =>
    obtain ⟨id, binding⟩ := name
    have text : after.text id = arena.text id := same (id, binding) List.mem_cons_self
    have others (later : List (String × Binding)) :
        firstClash? after later rest = firstClash? arena later rest :=
      ih fun name member => same name (List.mem_cons_of_mem _ member)
    rw [firstClash?, firstClash?, text]
    split <;> simp only [others]

/-- What is built below the nodes from which names are looked for makes no difference. -/
theorem duplicateBinding?_eq_of_below (records : Arena.Records calls arena after)
    (linked : arena.Linked) (below : ∀ id, AtScope arena id → Arena.Untouched calls id) :
    duplicateBinding? after = duplicateBinding? arena := by
  rw [duplicateBinding?, duplicateBinding?, programNames_eq records linked below]
  apply firstClash?_congr
  intro name member
  obtain ⟨pairs, shown, _, mem⟩ := lists_programNames arena
  rw [← shown] at member
  obtain ⟨⟨place, _⟩, isPair, rfl⟩ := List.mem_map.mp member
  exact records.text_eq (((mem place _).mp isPair).lt_size linked)

end Below

/-- The first clash of the program is found, and something is found only if there is one. Names
that only `var` and functions bind do not clash, and what stands below the declarations of the
program makes no difference. -/
theorem first_clash_is_found (arena : Arena) :
    (∀ name, duplicateBinding? arena = some name ↔ ClashesFirst arena name) ∧
    ((duplicateBinding? arena).isSome ↔ ∃ place name, ClashesAt arena place name) ∧
    (∀ name, (∀ place other binding, BoundAt arena place other binding →
        arena.text other = arena.text name → binding = .var) →
      duplicateBinding? arena ≠ some name) ∧
    ∀ calls after, arena.Constructed → arena.performAll? calls = some after →
      (∀ id, AtScope arena id → Arena.Untouched calls id) →
        duplicateBinding? after = duplicateBinding? arena := by
  refine ⟨fun name => duplicateBinding?_eq_some_iff_first, duplicateBinding?_isSome_iff, ?_, ?_⟩
  · intro name plain found
    obtain ⟨place, ⟨binding, isBound, earlier, previous, other, _, wasBound, same, lexical⟩, _⟩ :=
      duplicateBinding?_eq_some_iff_first.mp found
    obtain rfl := plain place name binding isBound rfl
    obtain rfl := plain earlier previous other wasBound same
    simp at lexical
  · intro calls after constructed done below
    exact duplicateBinding?_eq_of_below (Arena.records_performAll? done) constructed.linked below

/-- The tree of `var a,a;{}let b;let b`. -/
def redeclared : ParseTree :=
  let declarator (start : Nat) : Option String × ParseTree :=
    (none, .notion "variable_declarator" start (start + 1)
      [(some "name", .notion "identifier" start (start + 1) [])])
  .notion "program" 0 21 [
    (none, .notion "variable_declaration" 0 8 [declarator 4, declarator 6]),
    (none, .notion "statement_block" 8 10 []),
    (none, .notion "lexical_declaration" 10 16 [declarator 14]),
    (none, .notion "lexical_declaration" 16 21 [declarator 20])]

def redeclaredArena : Arena := .ofTree "var a,a;{}let b;let b" redeclared

/-- Calls that declare a name twice within the block. -/
def blockCalls : List Arena.Call :=
  [.push "lexical_declaration" 10 16, .push "variable_declarator" 14 15,
    .push "identifier" 14 15, .attach 14 (some "name") 15, .attach 13 none 14, .attach 13 none 14,
    .attach 6 none 13]

theorem programNames_redeclared : programNames redeclaredArena =
    [(3, .var), (5, .var), (9, .lexical), (12, .lexical)] := by
  decide +kernel

/-- The second `b` of that program clashes, and the second `a` does not, whatever the block
declares. -/
theorem first_clash_is_found_of_redeclared :
    redeclaredArena.Constructed ∧ ClashesFirst redeclaredArena 12 ∧
    (∃ place name, ClashesAt redeclaredArena place name) ∧
    duplicateBinding? redeclaredArena ≠ some 5 ∧
    ∃ after, redeclaredArena.performAll? blockCalls = some after ∧
      duplicateBinding? after = some 12 := by
  have constructed : redeclaredArena.Constructed := Arena.constructed_ofTree _ _
  have found : duplicateBinding? redeclaredArena = some 12 := by
    rw [duplicateBinding?, programNames_redeclared]
    decide +kernel
  obtain ⟨finds, isSome, plain, below⟩ := first_clash_is_found redeclaredArena
  obtain ⟨after, done⟩ := (Arena.exists_performAll?_iff redeclaredArena blockCalls).mpr (by
    have size : redeclaredArena.size = 13 := by decide +kernel
    simp [blockCalls, Arena.Call.InRange, size])
  refine ⟨constructed, (finds 12).mp found, isSome.mp (by rw [found]; rfl), plain 5 ?_, after, done,
    (below blockCalls after constructed done ?_).trans found⟩
  · intro place other binding isBound same
    have member := isBound.mem_programNames
    rw [programNames_redeclared] at member
    simp only [List.mem_cons, Prod.mk.injEq, List.not_mem_nil, or_false] at member
    rcases member with ⟨_, rfl⟩ | ⟨_, rfl⟩ | ⟨rfl, _⟩ | ⟨rfl, _⟩
    · rfl
    · rfl
    · exact absurd same (by decide +kernel)
    · exact absurd same (by decide +kernel)
  · intro id atScope field child member
    have within : id ∈ [14, 13, 6] := by
      simp only [blockCalls, List.mem_cons, Arena.Call.attach.injEq, reduceCtorEq,
        List.not_mem_nil, or_false, false_or] at member
      rcases member with ⟨rfl, _⟩ | ⟨rfl, _⟩ | ⟨rfl, _⟩ | ⟨rfl, _⟩ <;> decide
    have foreign : ∀ id ∈ [14, 13, 6], ¬ (id = 0 ∨ redeclaredArena.kind id ∈ scopeKinds) := by
      decide +kernel
    exact foreign id within atScope.kind_mem

end ExportIndex.JavaScript
