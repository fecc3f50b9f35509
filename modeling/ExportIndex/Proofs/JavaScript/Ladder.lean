import ExportIndex.JavaScript.Exports
import ExportIndex.Proofs.Extraction.Contribution
import ExportIndex.Proofs.JavaScript.Acceptance
import Mathlib

/-
This file follows a source through the steps in which a tree is found for it, and says what can be
relied on when one of them accepts.
-/

namespace ExportIndex.JavaScript

section Steps

variable (grammar : Grammar) (path : FilePath) (extension source : String)

/-- The tree that a grammar gives a text, laid out. -/
def treeOf (text : String) : Arena := .ofTree text (grammar text)

/-- The tree of a source is accepted as it is, as a module or as a script. -/
def Readable : Prop :=
  ∃ sourceType,
    validated (treeOf grammar source) path sourceType (allowsElements extension) = .ok ()

/-- The tree of a source without its types is accepted as a script. -/
def Erasable : Prop :=
  extension ∈ ["ts", "tsx"] ∧
    validated (treeOf grammar (Erasure.erase source)) path .script (allowsElements extension) =
      .ok ()

/-- The text whose failure as a script is reported when no step accepts. -/
def lastText : String := if extension ∈ ["ts", "tsx"] then Erasure.erase source else source

/-- What comes of a source. -/
structure Steps : Prop where
  kept : Readable grammar path extension source →
    accepted grammar path extension source = .ok (treeOf grammar source)
  erased : ¬ Readable grammar path extension source → ∀ arena,
    accepted grammar path extension source = .ok arena ↔
      Erasable grammar path extension source ∧ arena = treeOf grammar (Erasure.erase source)
  refused : ¬ Readable grammar path extension source → ∀ failure,
    accepted grammar path extension source = .error failure ↔
      validated (treeOf grammar (lastText extension source)) path .script
        (allowsElements extension) = .error failure

variable {grammar path extension source}

theorem accepted_of_readable (readable : Readable grammar path extension source) :
    accepted grammar path extension source = .ok (treeOf grammar source) := by
  obtain ⟨sourceType, valid⟩ := readable
  rw [treeOf] at valid
  unfold accepted
  cases sourceType with
  | module => simp only [valid, treeOf]; rfl
  | script =>
    simp only [valid]
    split <;> rfl

/-- A source that is not accepted as it is comes to its last step. -/
theorem accepted_of_unreadable (unreadable : ¬ Readable grammar path extension source) :
    accepted grammar path extension source =
      (validated (treeOf grammar (lastText extension source)) path .script
        (allowsElements extension)).map fun _ => treeOf grammar (lastText extension source) := by
  have refused (sourceType : SourceType) : ∃ failure,
      validated (treeOf grammar source) path sourceType (allowsElements extension) =
        .error failure := by
    cases outcome : validated (treeOf grammar source) path sourceType
        (allowsElements extension) with
    | error failure => exact ⟨failure, rfl⟩
    | ok value => exact absurd ⟨sourceType, outcome⟩ unreadable
  obtain ⟨moduleFailure, noModule⟩ := refused .module
  obtain ⟨scriptFailure, noScript⟩ := refused .script
  have typed : isTyped extension = decide (extension ∈ ["ts", "tsx"]) := List.contains_eq_mem _ _
  have steps : accepted grammar path extension source =
      if isTyped extension then
        (validated (treeOf grammar (Erasure.erase source)) path .script
          (allowsElements extension)).map fun _ => treeOf grammar (Erasure.erase source)
      else .error scriptFailure := by
    rw [treeOf] at noModule noScript
    simp only [accepted, noModule, noScript]
    split
    · rw [← treeOf]
      cases validated (treeOf grammar (Erasure.erase source)) path .script
        (allowsElements extension) <;> rfl
    · rfl
  rw [steps, typed, lastText]
  by_cases isTypedSource : extension ∈ ["ts", "tsx"]
  · simp only [isTypedSource, decide_true, if_true]
  · simp only [isTypedSource, decide_false, if_false, noScript, Bool.false_eq_true]
    rfl

theorem lastText_of_typed (typed : extension ∈ ["ts", "tsx"]) :
    lastText extension source = Erasure.erase source :=
  if_pos typed

/-- What comes of a source, step by step. -/
theorem steps (grammar : Grammar) (path : FilePath) (extension source : String) :
    Steps grammar path extension source where
  kept := accepted_of_readable
  erased unreadable arena := by
    rw [accepted_of_unreadable unreadable, Erasable]
    by_cases typed : extension ∈ ["ts", "tsx"]
    · rw [lastText_of_typed typed]
      cases validated (treeOf grammar (Erasure.erase source)) path .script
        (allowsElements extension) with
      | error failure => simp [Except.map]
      | ok value => simp [Except.map, typed, eq_comm]
    · have again : lastText extension source = source := if_neg typed
      rw [again]
      cases outcome : validated (treeOf grammar source) path .script
        (allowsElements extension) with
      | error failure => simp [Except.map, typed]
      | ok value => exact absurd ⟨.script, outcome⟩ unreadable
  refused unreadable failure := by
    rw [accepted_of_unreadable unreadable]
    cases validated (treeOf grammar (lastText extension source)) path .script
      (allowsElements extension) <;> simp [Except.map]

end Steps

/-- What can be relied on in a tree that is accepted for an extension. -/
structure Sound (extension : String) (arena : Arena) : Prop where
  derived : ∀ node ∈ arena.nodes, node.isError = false ∧ node.isMissing = false
  plain : extension.toList.getLast? ≠ some 'x' → ∀ id, arena.kind id ∉ elementKinds
  bound : (programNames arena).Pairwise (Compatible arena)
  /-- A tree with imports or exports is one of strict code, wherever they stand. -/
  strict : (∃ id, arena.kind id ∈ moduleItemKinds) → ∀ id violation, ¬ Sloppy arena id violation

variable {grammar : Grammar} {path : FilePath} {extension source : String} {arena : Arena}

/-- A tree is accepted in one of the steps. -/
theorem accepted_as (found : accepted grammar path extension source = .ok arena) :
    ∃ text sourceType, arena = treeOf grammar text ∧
      validated arena path sourceType (allowsElements extension) = .ok () := by
  by_cases readable : Readable grammar path extension source
  · rw [accepted_of_readable readable] at found
    cases found
    obtain ⟨sourceType, valid⟩ := readable
    exact ⟨source, sourceType, rfl, valid⟩
  · obtain ⟨⟨_, valid⟩, rfl⟩ :=
      ((steps grammar path extension source).erased readable arena).mp found
    exact ⟨Erasure.erase source, .script, rfl, valid⟩

theorem sound_of_accepted (found : accepted grammar path extension source = .ok arena) :
    Sound extension arena := by
  obtain ⟨text, sourceType, rfl, valid⟩ := accepted_as found
  have conforms := (validated_eq_ok_iff _ _ path sourceType _).mp valid
  refine ⟨conforms.derived, fun plain => conforms.plain ?_, conforms.bound, fun item => ?_⟩
  · simpa [allowsElements] using plain
  · -- A script has no imports and exports, so the tree was accepted as a module.
    obtain ⟨id, isItem⟩ := item
    cases sourceType with
    | module => exact conforms.strict rfl
    | script => exact absurd isItem (conforms.itemless rfl id)

/-- Without imports and exports, a module keeps to more rules than a script. -/
theorem script_of_module (source : String) (tree : ParseTree) (path : FilePath) (elements : Bool)
    (itemless : ∀ id, (Arena.ofTree source tree).kind id ∉ moduleItemKinds)
    (valid : validated (.ofTree source tree) path .module elements = .ok ()) :
    validated (.ofTree source tree) path .script elements = .ok () := by
  have conforms := (validated_eq_ok_iff _ _ path .module elements).mp valid
  exact (validated_eq_ok_iff _ _ path .script elements).mpr
    ⟨conforms.derived, conforms.plain, nofun, fun _ => itemless, conforms.bound⟩

/-- A tree without imports and exports exports nothing but members that are assigned. -/
theorem recordsFrom_of_itemless (itemless : ∀ id, arena.kind id ∉ moduleItemKinds)
    (path : FilePath) (start : Nat) :
    ∀ record ∈ recordsFrom arena path start, ∃ name, record = .named name .unknown := by
  intro record member
  rw [recordsFrom_eq_dedup] at member
  obtain ⟨id, _, contributed⟩ :=
    List.mem_flatMap.mp ((firstOfEach_sublist _ _ _).subset member)
  unfold contribution at contributed
  split at contributed
  · next exporting => exact absurd (by simp [exporting, moduleItemKinds]) (itemless id)
  · exact assignmentRecords_named arena id record contributed
  · cases contributed

/-- A source comes to the tree of its first step that accepts, or to the failure of its last one;
a tree that is accepted can be relied on; a module without imports and exports is a script; and
what is found in a source without its types are members of unknown kind. -/
theorem ladder_finds_trees (grammar : Grammar) (path : FilePath) (extension source : String) :
    Steps grammar path extension source ∧
    (∀ arena, accepted grammar path extension source = .ok arena → Sound extension arena) ∧
    (∀ text tree elements, (∀ id, (Arena.ofTree text tree).kind id ∉ moduleItemKinds) →
      validated (.ofTree text tree) path .module elements = .ok () →
        validated (.ofTree text tree) path .script elements = .ok ()) ∧
    (¬ Readable grammar path extension source → ∀ arena,
      accepted grammar path extension source = .ok arena → ∀ record ∈ recordsFrom arena path 0,
        record.kind = .unknown ∧ record.exportKind = some .named) := by
  refine ⟨steps grammar path extension source, fun arena => sound_of_accepted,
    fun text tree elements => script_of_module text tree path elements, ?_⟩
  intro unreadable arena found record member
  obtain ⟨⟨_, valid⟩, rfl⟩ :=
    ((steps grammar path extension source).erased unreadable arena).mp found
  have conforms := (validated_eq_ok_iff _ _ path .script _).mp valid
  obtain ⟨name, rfl⟩ := recordsFrom_of_itemless (conforms.itemless rfl) path 0 record member
  exact ⟨rfl, rfl⟩

/-- A text that assigns a member behind an annotation. -/
def annotated : String := "let b: number = 1; exports.a = b;"

/-- The tree of that text without the annotation. -/
def unannotated : ParseTree :=
  .notion "program" 0 25 [
    (none, .notion "lexical_declaration" 0 10 [
      (some "kind", .token "let" 0),
      (none, .notion "variable_declarator" 4 9 [
        (some "name", .notion "identifier" 4 5 []),
        (none, .token "=" 6),
        (some "value", .notion "number" 8 9 [])]),
      (none, .token ";" 9)]),
    (none, .notion "expression_statement" 11 25 [
      (none, .notion "assignment_expression" 11 24 [
        (some "left", .notion "member_expression" 11 20 [
          (some "object", .notion "identifier" 11 18 []),
          (none, .token "." 18),
          (some "property", .notion "property_identifier" 19 20 [])]),
        (none, .token "=" 21),
        (some "right", .notion "identifier" 23 24 [])]),
      (none, .token ";" 24)])]

/-- A grammar that knows the text without the annotation alone. -/
def unannotatedOnly : Grammar := fun text =>
  if text = "let b = 1; exports.a = b;" then unannotated else .failure text

theorem unreadable_annotated : ¬ Readable unannotatedOnly ⟨"m.ts"⟩ "ts" annotated := by
  rintro ⟨sourceType, valid⟩
  have conforms := (validated_eq_ok_iff _ _ ⟨"m.ts"⟩ sourceType _).mp valid
  have fails : ∃ node ∈ (treeOf unannotatedOnly annotated).nodes, node.isError = true := by
    decide +kernel
  obtain ⟨node, isNode, isError⟩ := fails
  exact absurd isError (by simp [(conforms.derived node isNode).1])

theorem erasable_annotated : Erasable unannotatedOnly ⟨"m.ts"⟩ "ts" annotated := by
  refine ⟨by decide, ?_⟩
  rw [treeOf, validated_eq_ok_iff_none, Arena.firstError?, Arena.walk_ofTree]
  decide +kernel

/-- Without its annotation the text is a module as well. -/
theorem module_unannotated : validated (treeOf unannotatedOnly (Erasure.erase annotated))
    ⟨"m.ts"⟩ .module (allowsElements "ts") = .ok () := by
  rw [treeOf, validated_eq_ok_iff_none, Arena.firstError?, Arena.walk_ofTree]
  decide +kernel

/-- That text is read without its annotation, as a script and no worse than as a module, and what
is found in it is a member. -/
theorem ladder_finds_trees_of_annotated :
    ∃ arena, accepted unannotatedOnly ⟨"m.ts"⟩ "ts" annotated = .ok arena ∧ Sound "ts" arena ∧
      validated arena ⟨"m.ts"⟩ .script (allowsElements "ts") = .ok () ∧
      recordsFrom arena ⟨"m.ts"⟩ 0 = [.named "a" .unknown] ∧
      ∀ record ∈ recordsFrom arena ⟨"m.ts"⟩ 0,
        record.kind = .unknown ∧ record.exportKind = some .named := by
  obtain ⟨steps, sound, scripts, members⟩ :=
    ladder_finds_trees unannotatedOnly ⟨"m.ts"⟩ "ts" annotated
  have found := (steps.erased unreadable_annotated _).mpr ⟨erasable_annotated, rfl⟩
  have conforms := (validated_eq_ok_iff _ _ ⟨"m.ts"⟩ .script _).mp erasable_annotated.2
  refine ⟨_, found, sound _ found, scripts _ _ _ (conforms.itemless rfl) module_unannotated, ?_,
    members unreadable_annotated _ found⟩
  rw [recordsFrom_eq_dedup, treeOf, Arena.walk_ofTree]
  decide +kernel

end ExportIndex.JavaScript
