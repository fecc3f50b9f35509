import ExportIndex.Proofs.TypeScript.SameType
import ExportIndex.Proofs.TypeScript.TreeReading
import Mathlib

/-
This file says which type the text of a type describes. The text has no parentheses, so that it
describes the type if that needs none, and else another one.
-/

namespace ExportIndex.TypeScript

open Connective Script

section Trees

open Classical in
/-- The type that is written as a word. -/
noncomputable def wordTree (text : String) : TypeTree :=
  if known : ∃ name, IsPredefined name ∧ Text.lowerCase name = text then .predefined known.choose
  else .identifier text

def arrays (count : Nat) (tree : TypeTree) : TypeTree := TypeTree.array^[count] tree

noncomputable def Core.tree : Core → TypeTree
  | word text => wordTree text
  | generic name arguments =>
    .generic name (arguments.map fun reading =>
      .group union (reading.map fun term =>
        .group intersection (term.map fun factor => arrays factor.2 factor.1.tree)))
  | tuple members =>
    .tuple (members.map fun reading =>
      .group union (reading.map fun term =>
        .group intersection (term.map fun factor => arrays factor.2 factor.1.tree)))
decreasing_by
  all_goals
    have below := sizeOf_core_lt ‹_› ‹_› ‹_›
    simp only [Core.generic.sizeOf_spec, Core.tuple.sizeOf_spec]
    omega

noncomputable def factorTree (factor : Factor) : TypeTree := arrays factor.2 factor.1.tree

noncomputable def termTree (term : List Factor) : TypeTree :=
  .group intersection (term.map factorTree)

/-- The type that a reading describes. -/
noncomputable def Reading.tree (reading : Reading) : TypeTree :=
  .group union (reading.map termTree)

theorem Core.tree_word (text : String) : (word text).tree = wordTree text := by
  rw [Core.tree]

theorem Core.tree_generic (name : String) (arguments : List Reading) :
    (generic name arguments).tree = .generic name (arguments.map Reading.tree) := by
  rw [Core.tree]
  rfl

theorem Core.tree_tuple (members : List Reading) :
    (tuple members).tree = .tuple (members.map Reading.tree) := by
  rw [Core.tree]
  rfl

/-- A tree says what a text says, and says it without parentheses that it needs. -/
structure Plain (tree : TypeTree) (text : List Char) : Prop where
  proper : tree.Proper
  loose : tree.Loose
  text : tree.text.toList = text

theorem plain_wordTree {text : String} (isTypeWord : IsTypeWord text) :
    Plain (wordTree text) text.toList ∧ (wordTree text).strength = 2 := by
  rw [wordTree]
  split
  · next known =>
    obtain ⟨isPredefined, same⟩ := known.choose_spec
    refine ⟨⟨.predefined isPredefined, .predefined _, ?_⟩, rfl⟩
    rw [TypeTree.text, same]
  · next unknown =>
    cases isTypeWord with
    | predefined known same => exact absurd ⟨_, known, same⟩ unknown
    | identifier isName other =>
      refine ⟨⟨.identifier isName other, .identifier _, ?_⟩, rfl⟩
      rw [TypeTree.text]

theorem plain_arrays {tree : TypeTree} {text : List Char} (plain : Plain tree text)
    (tight : tree.strength = 2) (count : Nat) :
    Plain (arrays count tree) (text ++ brackets count) ∧ (arrays count tree).strength = 2 := by
  induction count with
  | zero =>
    refine ⟨?_, tight⟩
    simpa [arrays, brackets] using plain
  | succ count inductionHypothesis =>
    obtain ⟨⟨proper, loose, same⟩, tight⟩ := inductionHypothesis
    rw [arrays, Function.iterate_succ', Function.comp, ← arrays]
    refine ⟨⟨.array proper, .array loose tight, ?_⟩, rfl⟩
    rw [TypeTree.text, String.toList_append, same]
    simp [brackets, List.replicate_succ']

section Items

variable {A : Type} {items : List A} {image : A → TypeTree} {text : A → List Char}

theorem toList_items (each : ∀ item ∈ items, Plain (image item) (text item)) :
    ((items.map image).map TypeTree.text).map String.toList = items.map text := by
  rw [List.map_map, List.map_map]
  exact List.map_congr_left fun item member => (each item member).text

theorem plain_group {connective : Connective} (notEmpty : items ≠ [])
    (each : ∀ item ∈ items, Plain (image item) (text item))
    (tight : ∀ item ∈ items, connective.strength ≤ (image item).strength) :
    Plain (.group connective (items.map image))
      (connective.characters.intercalate (items.map text)) where
  proper := .group (by simpa using notEmpty)
    (List.forall_mem_map.mpr fun item member => (each item member).proper)
  loose := .group (List.forall_mem_map.mpr fun item member => (each item member).loose)
    (.inr (List.forall_mem_map.mpr tight))
  text := by
    rw [TypeTree.text, String.toList_intercalate, toList_separator, toList_items each]

end Items

theorem plain_reading {reading : Reading} (filled : Filled reading)
    (each : ∀ term ∈ reading, ∀ factor ∈ term,
      Plain factor.1.tree factor.1.text ∧ factor.1.tree.strength = 2) :
    Plain reading.tree reading.text := by
  refine plain_group filled.notEmpty (fun term isTerm => ?_) fun _ _ => Nat.zero_le _
  have factors (factor : Factor) (isFactor : factor ∈ term) :
      Plain (factorTree factor) (factorText factor) ∧ (factorTree factor).strength = 2 :=
    plain_arrays (each term isTerm factor isFactor).1 (each term isTerm factor isFactor).2 factor.2
  refine plain_group (filled.terms term isTerm) (fun factor isFactor => (factors factor isFactor).1)
    fun factor isFactor => ?_
  rw [(factors factor isFactor).2]
  decide

/-- The tree of a core has the text of the core, and so have the trees of readings. -/
theorem Core.Valid.plain {core : Core} (valid : core.Valid) :
    Plain core.tree core.text ∧ core.tree.strength = 2 := by
  induction valid with
  | word isTypeWord =>
    rw [Core.tree_word, Core.text_word]
    exact plain_wordTree isTypeWord
  | generic isName notEmpty filled _ inductionHypothesis =>
    have each := fun item member =>
      plain_reading (filled item member) (inductionHypothesis item member)
    rw [Core.tree_generic]
    refine ⟨⟨.generic isName (by simpa using notEmpty)
      (List.forall_mem_map.mpr fun item member => (each item member).proper),
      .generic (List.forall_mem_map.mpr fun item member => (each item member).loose), ?_⟩, rfl⟩
    rw [TypeTree.text, ← List.append_nil (Core.text _), Core.text_generic, listText,
      ← toList_items each]
    simp [comma]
  | tuple filled _ inductionHypothesis =>
    have each := fun item member =>
      plain_reading (filled item member) (inductionHypothesis item member)
    rw [Core.tree_tuple]
    refine ⟨⟨.tuple (List.forall_mem_map.mpr fun item member => (each item member).proper),
      .tuple (List.forall_mem_map.mpr fun item member => (each item member).loose), ?_⟩, rfl⟩
    rw [TypeTree.text, ← List.append_nil (Core.text _), Core.text_tuple, listText,
      ← toList_items each]
    simp [comma]

theorem Reading.Valid.plain {reading : Reading} (valid : reading.Valid) :
    Plain reading.tree reading.text :=
  plain_reading valid.filled fun term isTerm factor isFactor =>
    (valid.each term isTerm factor isFactor).plain

end Trees

section Description

namespace TypeTree

variable {tree other : TypeTree}

/-- Where a type holds together, its text says a single term, or even a single factor. -/
theorem reading_of_strength (proper : tree.Proper) (loose : tree.Loose) :
    (1 ≤ tree.strength → tree.reading = [tree.reading.flatten]) ∧
      (tree.strength = 2 → ∃ core count, tree.reading = [[(core, count)]]) := by
  induction proper with
  | predefined | identifier | generic | tuple =>
    rw [reading]
    exact ⟨fun _ => rfl, fun _ => ⟨_, _, rfl⟩⟩
  | array _ inductionHypothesis =>
    obtain ⟨looseElement, tight⟩ := loose_array.mp loose
    obtain ⟨core, count, single⟩ := (inductionHypothesis looseElement).2 tight
    rw [reading, single, bracketed_single]
    exact ⟨fun _ => rfl, fun _ => ⟨_, _, rfl⟩⟩
  | @group connective members notEmpty _ inductionHypothesis =>
    obtain ⟨each, tight⟩ := loose_group.mp loose
    by_cases single : members.length = 1
    · obtain ⟨member, rfl⟩ := List.length_eq_one_iff.mp single
      rw [reading_single, strength]
      exact inductionHypothesis member (List.mem_singleton_self _)
        (each member (List.mem_singleton_self _))
    · rw [strength_of_many single]
      cases connective with
      | union => simp [Connective.strength]
      | intersection =>
        refine ⟨fun _ => ?_, by simp [Connective.strength]⟩
        rw [reading, meets_terms (by simpa using notEmpty) (List.forall_mem_map.mpr
          fun member isMember => (inductionHypothesis member isMember (each member isMember)).1
            (tight.resolve_left single member isMember))]
        simp
  | parenthesized _ inductionHypothesis =>
    rw [reading, strength]
    exact inductionHypothesis (loose_parenthesized.mp loose)

theorem same_single (core : Core) (count : Nat) :
    Same (arrays count core.tree) (Reading.tree [[(core, count)]]) :=
  (Same.single intersection (arrays count core.tree)).symm.trans (Same.single union _).symm

/-- A name is not the text of a predefined one. -/
theorem not_isPredefined {name word : String} (isName : IsName word)
    (outside : word ∉ predefinedNames) (known : IsPredefined name) :
    Text.lowerCase name ≠ word := by
  rintro rfl
  cases known with
  | word known => exact outside known
  | @uniqueSymbol blanks notEmpty blank known =>
    obtain ⟨character, rest, rfl⟩ := List.exists_cons_of_ne_nil notEmpty
    have solid := (isName.solid character (by simp [known])).1
    rw [blank character List.mem_cons_self] at solid
    cases solid

/-- A group is what its text says if its members are and hold together. -/
theorem same_group_tree {connective : Connective} {members : List TypeTree}
    (notEmpty : members ≠ [])
    (each : ∀ member ∈ members, member.Proper ∧ member.Loose ∧ Same member member.reading.tree)
    (tight : ∀ member ∈ members, connective.strength ≤ member.strength) :
    Same (.group connective members) (group connective members).reading.tree := by
  cases connective with
  | union =>
    have opened : (group union members).reading.tree =
        .group union (members.map fun member => member.reading.map termTree).flatten := by
      rw [reading, Reading.tree, List.map_flatten, List.map_map]
      rfl
    rw [opened]
    have filled : ∀ list ∈ members.map fun member => member.reading.map termTree, list ≠ [] :=
      List.forall_mem_map.mpr fun member isMember => by
        simpa using (reading_spec (each member isMember).1).1.filled.notEmpty
    refine Same.trans ?_ (.flatten filled)
    rw [List.map_map]
    exact .map .member fun member isMember => (each member isMember).2.2
  | intersection =>
    have terms (member : TypeTree) (isMember : member ∈ members) :
        member.reading = [member.reading.flatten] :=
      (reading_of_strength (each member isMember).1 (each member isMember).2.1).1
        (tight member isMember)
    have whole : (group intersection members).reading =
        [(members.map fun member => member.reading.flatten).flatten] := by
      rw [reading, meets_terms (by simpa using notEmpty) (List.forall_mem_map.mpr terms),
        List.map_map]
      rfl
    have opened : termTree (members.map fun member => member.reading.flatten).flatten =
        .group intersection
          (members.map fun member => member.reading.flatten.map factorTree).flatten := by
      rw [termTree, List.map_flatten, List.map_map]
      rfl
    rw [whole, Reading.tree, List.map_singleton, opened]
    have filled : ∀ list ∈ members.map fun member => member.reading.flatten.map factorTree,
        list ≠ [] :=
      List.forall_mem_map.mpr fun member isMember => by
        have termFilled := (reading_spec (each member isMember).1).1.filled.terms
        rw [terms member isMember] at termFilled
        simpa using termFilled
    refine Same.trans (Same.trans ?_ (.flatten filled)) (Same.single union _).symm
    rw [List.map_map]
    refine .map .member fun member isMember => ?_
    have same := (each member isMember).2.2
    rw [terms member isMember, Reading.tree, List.map_singleton] at same
    exact same.trans (.single union _)

/-- A type without needed parentheses is what its text says. -/
theorem same_tree (proper : tree.Proper) (loose : tree.Loose) : Same tree tree.reading.tree := by
  induction proper with
  | @predefined name known =>
    rw [reading]
    refine Same.trans ?_ (same_single (.word (Text.lowerCase name)) 0)
    have isWord : ∃ other, IsPredefined other ∧ Text.lowerCase other = Text.lowerCase name :=
      ⟨name, known, rfl⟩
    rw [Core.tree_word, wordTree, dif_pos isWord]
    exact .letterCase isWord.choose_spec.2.symm
  | @identifier name isName outside =>
    rw [reading]
    refine Same.trans ?_ (same_single (.word name) 0)
    rw [Core.tree_word, wordTree, dif_neg]
    · exact .refl _
    · rintro ⟨other, known, same⟩
      exact not_isPredefined isName outside known same
  | generic _ _ _ inductionHypothesis =>
    have each := loose_generic.mp loose
    rw [reading]
    refine Same.trans ?_ (same_single _ 0)
    rw [Core.tree_generic, List.map_map]
    exact .map .argument fun argument member => inductionHypothesis argument member
      (each argument member)
  | @array element proper inductionHypothesis =>
    obtain ⟨looseElement, tight⟩ := loose_array.mp loose
    obtain ⟨core, count, single⟩ := (reading_of_strength proper looseElement).2 tight
    have same := inductionHypothesis looseElement
    rw [single] at same
    rw [reading, single, bracketed_single]
    refine Same.trans (.element (same.trans (same_single core count).symm)) ?_
    have next := same_single core (count + 1)
    rwa [arrays, Function.iterate_succ', Function.comp, ← arrays] at next
  | @group connective members notEmpty proper inductionHypothesis =>
    obtain ⟨each, tight⟩ := loose_group.mp loose
    by_cases single : members.length = 1
    · obtain ⟨member, rfl⟩ := List.length_eq_one_iff.mp single
      have isMember : member ∈ [member] := List.mem_singleton_self _
      rw [reading_single]
      exact (Same.single connective member).trans
        (inductionHypothesis member isMember (each member isMember))
    · have below (member : TypeTree) (isMember : member ∈ members) :
          member.Proper ∧ member.Loose ∧ Same member member.reading.tree :=
        ⟨proper member isMember, each member isMember,
          inductionHypothesis member isMember (each member isMember)⟩
      exact same_group_tree notEmpty below (tight.resolve_left single)
  | tuple _ inductionHypothesis =>
    have each := loose_tuple.mp loose
    rw [reading]
    refine Same.trans ?_ (same_single _ 0)
    rw [Core.tree_tuple, List.map_map]
    exact .map .component fun member isMember => inductionHypothesis member isMember
      (each member isMember)
  | parenthesized _ inductionHypothesis =>
    rw [reading]
    exact (Same.parentheses _).trans (inductionHypothesis (loose_parenthesized.mp loose))

/-- Among the types that need no parentheses a text has one. -/
theorem same_of_text_eq (proper : tree.Proper) (otherProper : other.Proper) (loose : tree.Loose)
    (otherLoose : other.Loose) (sameText : tree.text = other.text) : Same tree other := by
  have same := same_tree proper loose
  rw [(text_eq_iff proper otherProper).mp sameText] at same
  exact same.trans (same_tree otherProper otherLoose).symm

/-- A text describes the type that has it and needs no parentheses. This is the type that has been
written just if that needs none either. -/
structure Describes (described tree : TypeTree) : Prop where
  proper : described.Proper
  loose : described.Loose
  text : described.text = tree.text
  same_iff : Same tree described ↔ tree.Loose

theorem describes_of_text_eq {described : TypeTree} (proper : tree.Proper)
    (describedProper : described.Proper) (loose : described.Loose)
    (sameText : described.text = tree.text) : Describes described tree where
  proper := describedProper
  loose := loose
  text := sameText
  same_iff := ⟨fun same => same.loose_iff.mpr loose, fun treeLoose =>
    same_of_text_eq proper describedProper treeLoose loose sameText.symm⟩

theorem exists_describes (proper : tree.Proper) : ∃ described, Describes described tree := by
  obtain ⟨valid, same⟩ := reading_spec proper
  have plain := valid.plain
  refine ⟨tree.reading.tree, describes_of_text_eq proper plain.proper plain.loose ?_⟩
  rw [← String.toList_inj, plain.text, same]

end TypeTree

end Description

/-- Same types have the same text. The text determines a type among those that need no parentheses,
and it describes one of these, which is the depicted type just if that needs no parentheses. -/
theorem texts_describe_types {arena other : Arena} {id twin : Nat} {tree mate : TypeTree}
    (constructed : arena.Constructed) (founded : arena.Founded id) (proper : tree.Proper)
    (depicts : Depicts arena tree id) (otherConstructed : other.Constructed)
    (otherFounded : other.Founded twin) (mateProper : mate.Proper)
    (otherDepicts : Depicts other mate twin) :
    (tree.Same mate → resolve arena id = resolve other twin) ∧
      (tree.Loose → mate.Loose → (resolve arena id = resolve other twin ↔ tree.Same mate)) ∧
      ∃ described : TypeTree, described.Describes tree ∧ described.text = resolve arena id ∧
        (resolve arena id = resolve other twin → described.Describes mate) := by
  have text := depicts.resolve_eq constructed.linked proper founded
  have mateText := otherDepicts.resolve_eq otherConstructed.linked mateProper otherFounded
  rw [text, mateText]
  refine ⟨fun same => same.text_eq, fun loose mateLoose =>
    ⟨TypeTree.same_of_text_eq proper mateProper loose mateLoose, fun same => same.text_eq⟩, ?_⟩
  obtain ⟨described, describes⟩ := TypeTree.exists_describes proper
  exact ⟨described, describes, describes.text, fun sameText =>
    TypeTree.describes_of_text_eq mateProper describes.proper describes.loose
      (describes.text.trans sameText)⟩

section Brackets

/-- The tree of `(A|B)[]`. -/
def arrayOfUnion : Arena :=
  .ofTree "(A|B)[]" <| .notion "array_type" 0 7 [
    (none, .notion "parenthesized_type" 0 5 [
      (none, .token "(" 0),
      (none, .notion "union_type" 1 4 [
        (none, .notion "type_identifier" 1 2 []),
        (none, .token "|" 2),
        (none, .notion "type_identifier" 3 4 [])]),
      (none, .token ")" 4)]),
    (none, .token "[" 5),
    (none, .token "]" 6)]

/-- The tree of `A|B[]`. -/
def unionWithArray : Arena :=
  .ofTree "A|B[]" <| .notion "union_type" 0 5 [
    (none, .notion "type_identifier" 0 1 []),
    (none, .token "|" 1),
    (none, .notion "array_type" 2 5 [
      (none, .notion "type_identifier" 2 3 []),
      (none, .token "[" 3),
      (none, .token "]" 4)])]

def arrayTree : TypeTree :=
  .array (.parenthesized (.group union [.identifier "A", .identifier "B"]))

def unionTree : TypeTree := .group union [.identifier "A", .array (.identifier "B")]

theorem proper_letter {name : String} (isLetter : name ∈ ["A", "B"]) :
    TypeTree.Proper (.identifier name) := by
  simp only [List.mem_cons, List.not_mem_nil, or_false] at isLetter
  rcases isLetter with rfl | rfl
  all_goals
    refine .identifier ⟨by decide, ?_⟩ (by decide +kernel)
    simp [Text.isBlank, delimiters]

theorem proper_arrayTree : arrayTree.Proper := by
  refine .array (.parenthesized (.group (by simp) ?_))
  simp [proper_letter]

theorem proper_unionTree : unionTree.Proper := by
  refine .group (by simp) ?_
  simp [proper_letter, TypeTree.Proper.array]

theorem depicts_identifier {arena : Arena} {id : Nat} {name : String}
    (kind : arena.kind id = "type_identifier") (text : arena.text id = name) :
    Depicts arena (.identifier name) id :=
  text ▸ .identifier kind

theorem depicts_arrayOfUnion : Depicts arrayOfUnion arrayTree 0 := by
  have members : arrayOfUnion.namedChildren 3 = [4, 6] := by decide +kernel
  have first : Depicts arrayOfUnion (.identifier "A") 4 :=
    depicts_identifier (by decide +kernel) (by decide +kernel)
  have second : Depicts arrayOfUnion (.identifier "B") 6 :=
    depicts_identifier (by decide +kernel) (by decide +kernel)
  refine .array (by decide +kernel) (by decide +kernel : _ = some 1) ?_
  refine .parenthesized (by decide +kernel) (by decide +kernel : _ = some 3) ?_
  exact .group (by decide +kernel) (members ▸ .cons first (.cons second .nil))

theorem depicts_unionWithArray : Depicts unionWithArray unionTree 0 := by
  have members : unionWithArray.namedChildren 0 = [1, 3] := by decide +kernel
  have first : Depicts unionWithArray (.identifier "A") 1 :=
    depicts_identifier (by decide +kernel) (by decide +kernel)
  have inner : Depicts unionWithArray (.identifier "B") 4 :=
    depicts_identifier (by decide +kernel) (by decide +kernel)
  have second : Depicts unionWithArray (.array (.identifier "B")) 3 :=
    .array (by decide +kernel) (by decide +kernel : _ = some 4) inner
  exact .group (by decide +kernel) (members ▸ .cons first (.cons second .nil))

/-- Both types are written as `A | B[]`, and they are not the same. -/
theorem parentheses_before_brackets_are_lost :
    arrayTree.Proper ∧ Depicts arrayOfUnion arrayTree 0 ∧
      unionTree.Proper ∧ Depicts unionWithArray unionTree 0 ∧
      resolve arrayOfUnion 0 = "A | B[]" ∧ resolve unionWithArray 0 = "A | B[]" ∧
      ¬ arrayTree.Same unionTree := by
  refine ⟨proper_arrayTree, depicts_arrayOfUnion, proper_unionTree, depicts_unionWithArray,
    by decide +kernel, by decide +kernel, fun same => ?_⟩
  have strengths := same.strength_eq
  simp [arrayTree, unionTree, TypeTree.strength, strength] at strengths

/-- What the text of the array describes is the union. -/
theorem texts_describe_types_of_brackets :
    arrayOfUnion.Constructed ∧ arrayOfUnion.Founded 0 ∧ arrayTree.Proper ∧
      Depicts arrayOfUnion arrayTree 0 ∧ unionWithArray.Constructed ∧ unionWithArray.Founded 0 ∧
      unionTree.Proper ∧ Depicts unionWithArray unionTree 0 ∧
      ∃ described : TypeTree, described.Describes arrayTree ∧ described.Describes unionTree := by
  have built : arrayOfUnion.Constructed := Arena.constructed_ofTree _ _
  have unionBuilt : unionWithArray.Constructed := Arena.constructed_ofTree _ _
  have founded : arrayOfUnion.Founded 0 := (Arena.descending_ofTree _ _).founded built.linked 0
  have unionFounded : unionWithArray.Founded 0 :=
    (Arena.descending_ofTree _ _).founded unionBuilt.linked 0
  have sameText : resolve arrayOfUnion 0 = resolve unionWithArray 0 := by decide +kernel
  refine ⟨built, founded, proper_arrayTree, depicts_arrayOfUnion, unionBuilt, unionFounded,
    proper_unionTree, depicts_unionWithArray, ?_⟩
  obtain ⟨described, describes, _, alike⟩ := (texts_describe_types built founded proper_arrayTree
    depicts_arrayOfUnion unionBuilt unionFounded proper_unionTree depicts_unionWithArray).2.2
  exact ⟨described, describes, alike sameText⟩

end Brackets

end ExportIndex.TypeScript
