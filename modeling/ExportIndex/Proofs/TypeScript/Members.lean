import ExportIndex.Proofs.TypeScript.Grouping
import ExportIndex.TypeScript.Exports
import Mathlib

/-
This file compares the two ways in which the members of a body are reported: as the properties of an
interface and as the text of an object type. They agree where keys are their own names.
-/

namespace ExportIndex

/-- A property as it is written in an object type. -/
def PropertySignature.text (property : PropertySignature) : String :=
  property.name ++ (if property.optional then "?" else "") ++ ": " ++ property.type

namespace TypeScript

open Arena

variable {arena : Arena} {body member : Nat}

/-- The members of a body that declare properties. -/
def signatures (arena : Arena) (body : Nat) : List Nat :=
  (arena.namedChildren body).filter fun member => arena.kind member = "property_signature"

/-- A member whose key is an identifier or a number. -/
def HasPlainKey (arena : Arena) (member : Nat) : Prop :=
  ∃ key, arena.field? member "name" = some key ∧
    (arena.kind key = "property_identifier" ∨ arena.kind key = "number")

/-- What a member with a plain key declares. -/
structure Declares (arena : Arena) (member : Nat) (property : PropertySignature) : Prop where
  name : ∃ key, arena.field? member "name" = some key ∧ property.name = arena.text key
  optional : property.optional = true ↔ ∃ mark ∈ arena.children member, arena.kind mark = "?"
  typed : ∀ type, arena.field? member "type" = some type → property.type = resolve arena type
  untyped : arena.field? member "type" = none → property.type = "any"

theorem filterMap_signatures {α : Type} {part? : Nat → Option α}
    (silent : ∀ member, arena.kind member ≠ "property_signature" → part? member = none)
    (body : Nat) :
    (arena.namedChildren body).filterMap part? = (signatures arena body).filterMap part? := by
  rw [signatures, List.filterMap_filter]
  congr 1
  funext member
  by_cases isProperty : arena.kind member = "property_signature"
  · simp [isProperty]
  · simp [isProperty, silent member isProperty]

theorem kind_of_mem_signatures (isMember : member ∈ signatures arena body) :
    arena.kind member = "property_signature" :=
  of_decide_eq_true (List.mem_filter.mp isMember).2

theorem properties_eq (arena : Arena) (body : Nat) :
    properties arena body = (signatures arena body).filterMap (property? arena) := by
  rw [properties, filterMap_signatures fun member other => if_neg other]
  exact List.filterMap_congr fun member isMember => if_pos (kind_of_mem_signatures isMember)

/-- A body that is not mapped is written by the members of it that declare properties. -/
theorem objectShape_eq (unmapped : isMapped arena body = false) (typeText : Nat → String) :
    objectShape arena typeText body =
      objectText ((signatures arena body).filterMap (propertyText? arena typeText)) := by
  have silent : ∀ member, arena.kind member ≠ "property_signature" →
      propertyText? arena typeText member = none := fun member other => if_neg other
  rw [objectShape, unmapped, filterMap_signatures silent]
  rfl

/-- A plain key is its own name. -/
theorem HasPlainKey.exists_declared (plain : HasPlainKey arena member) :
    ∃ property, property? arena member = some property ∧ Declares arena member property := by
  obtain ⟨key, isKey, plain⟩ := plain
  have name : propertyKey? arena key = some (arena.text key) := by
    rcases plain with kind | kind <;> simp [propertyKey?, kind]
  have declared : property? arena member = some
      { name := arena.text key
        type := ((arena.field? member "type").map (resolve arena)).getD implicitAny
        optional := (arena.childOfKind? member "?").isSome } := by
    simp [property?, isKey, name]
  refine ⟨_, declared, ⟨key, isKey, rfl⟩, ?_, ?_, ?_⟩
  · simp [childOfKind?, List.find?_isSome]
  · intro type isType
    simp [isType]
  · intro missing
    simp [missing, implicitAny]

theorem Declares.propertyText? {property : PropertySignature}
    (isProperty : arena.kind member = "property_signature")
    (declares : Declares arena member property) :
    propertyText? arena (resolve arena) member = some property.text := by
  obtain ⟨⟨key, isKey, name⟩, optional, typed, untyped⟩ := declares
  have mark : optionalMark arena member = if property.optional then "?" else "" := by
    have found : (arena.childOfKind? member "?").isSome = property.optional := by
      rw [Bool.eq_iff_iff, optional]
      simp [childOfKind?, List.find?_isSome]
    rw [optionalMark, found]
  rw [TypeScript.propertyText?, if_pos isProperty, isKey, Option.map_some, mark,
    PropertySignature.text, name]
  cases isType : arena.field? member "type" with
  | none => rw [untyped isType, implicitAny]
  | some type => rw [typed type isType]

/-- Each member with a plain key gives one property and one text. -/
theorem exists_declared {members : List Nat}
    (areProperties : ∀ member ∈ members, arena.kind member = "property_signature")
    (plain : ∀ member ∈ members, HasPlainKey arena member) :
    ∃ declared, List.Forall₂ (Declares arena) members declared ∧
      members.filterMap (property? arena) = declared ∧
      members.filterMap (propertyText? arena (resolve arena)) =
        declared.map PropertySignature.text := by
  induction members with
  | nil => exact ⟨[], .nil, rfl, rfl⟩
  | cons member rest ih =>
    obtain ⟨isProperty, areProperties⟩ := List.forall_mem_cons.mp areProperties
    obtain ⟨here, plain⟩ := List.forall_mem_cons.mp plain
    obtain ⟨declared, matched, properties, texts⟩ := ih areProperties plain
    obtain ⟨property, isDeclared, declares⟩ := here.exists_declared
    refine ⟨property :: declared, .cons declares matched, ?_, ?_⟩
    · rw [List.filterMap_cons_some isDeclared, properties]
    · rw [List.filterMap_cons_some (declares.propertyText? isProperty), texts, List.map_cons]

/-- An object type from which every way down ends has the text of its body. -/
theorem resolve_objectType (linked : arena.Linked) (founded : arena.Founded body)
    (isObject : arena.kind body = "object_type") :
    resolve arena body = objectShape arena (resolve arena) body := by
  have texts : ∀ member ∈ arena.namedChildren body,
      propertyText? arena (resolveAt arena (3 * arena.size + 2)) member =
        propertyText? arena (resolve arena) member := by
    intro member isMember
    have isChild := List.mem_of_mem_filter isMember
    have lower := (founded.height_lt linked isChild).trans_le (height_le_size linked body)
    unfold propertyText?
    cases isType : arena.field? member "type" with
    | none => rfl
    | some type =>
      have isPart := linked.mem_children_of_field? isType
      have deep := founded.below isChild
      have same := resolveAt_eq linked (deep.below isPart)
        ((deep.height_lt linked isPart).trans lower) (Nat.le_succ _)
        (Nat.le_add_right (3 * arena.size) 2)
      simp only [same]
  rw [resolve, resolveAt]
  simp only [isObject, objectShape, List.filterMap_congr texts]

/-- If a body is not mapped and the keys of its properties are identifiers or numbers, the text of
the body lists the properties that an interface with this body has. They are what the property
signatures declare, and the other members of the body have no influence on either. An object type is
written as its body. -/
theorem members_are_written_alike (unmapped : isMapped arena body = false)
    (plain : ∀ member ∈ signatures arena body, HasPlainKey arena member) :
    (properties arena body = [] → objectShape arena (resolve arena) body = "\x7b\x7d") ∧
    (properties arena body ≠ [] → objectShape arena (resolve arena) body =
      "\x7b " ++ "; ".intercalate ((properties arena body).map PropertySignature.text) ++ " \x7d") ∧
    List.Forall₂ (Declares arena) (signatures arena body) (properties arena body) ∧
    (∀ other, isMapped arena other = false → signatures arena other = signatures arena body →
      properties arena other = properties arena body ∧
        objectShape arena (resolve arena) other = objectShape arena (resolve arena) body) ∧
    (arena.Constructed → arena.Founded body → arena.kind body = "object_type" →
      resolve arena body = objectShape arena (resolve arena) body) := by
  obtain ⟨declared, matched, properties, texts⟩ :=
    exists_declared (fun _ => kind_of_mem_signatures) plain
  rw [← properties_eq] at properties
  have shape : objectShape arena (resolve arena) body =
      objectText (declared.map PropertySignature.text) := by
    rw [objectShape_eq unmapped, texts]
  subst properties
  refine ⟨fun nothing => ?_, fun something => ?_, matched, fun other unmappedToo same => ?_,
    fun constructed founded => resolve_objectType constructed.linked founded⟩
  · rw [shape, nothing]
    rfl
  · rw [shape, objectText, if_neg (by simpa using something)]
  · rw [properties_eq, properties_eq, objectShape_eq unmappedToo, objectShape_eq unmapped, same]
    exact ⟨rfl, rfl⟩

/-- The tree of `{a?:Id;m():Id;0}`, an object type with a method between two properties. -/
def methodBetween : Arena :=
  .ofTree "\x7ba?:Id;m():Id;0\x7d" <| .notion "object_type" 0 16 [
    (none, .token "\x7b" 0),
    (none, .notion "property_signature" 1 6 [
      (some "name", .notion "property_identifier" 1 2 []),
      (none, .token "?" 2),
      (some "type", .notion "type_annotation" 3 6 [
        (none, .token ":" 3),
        (none, .notion "type_identifier" 4 6 [])])]),
    (none, .token ";" 6),
    (none, .notion "method_signature" 7 13 [
      (some "name", .notion "property_identifier" 7 8 []),
      (some "parameters", .notion "formal_parameters" 8 10 [
        (none, .token "(" 8),
        (none, .token ")" 9)]),
      (some "return_type", .notion "type_annotation" 10 13 [
        (none, .token ":" 10),
        (none, .notion "type_identifier" 11 13 [])])]),
    (none, .token ";" 13),
    (none, .notion "property_signature" 14 15 [
      (some "name", .notion "number" 14 15 [])]),
    (none, .token "\x7d" 15)]

theorem members_are_written_alike_of_methodBetween :
    isMapped methodBetween 0 = false ∧
      (∀ member ∈ signatures methodBetween 0, HasPlainKey methodBetween member) ∧
      properties methodBetween 0 = [⟨"a", "Id", true⟩, ⟨"0", "any", false⟩] ∧
      resolve methodBetween 0 = "\x7b a?: Id; 0: any \x7d" := by
  have built : methodBetween.Constructed := constructed_ofTree _ _
  have founded : methodBetween.Founded 0 := (descending_ofTree _ _).founded built.linked 0
  have unmapped : isMapped methodBetween 0 = false := by decide +kernel
  have plain : ∀ member ∈ signatures methodBetween 0, HasPlainKey methodBetween member := by
    have members : signatures methodBetween 0 = [2, 18] := by decide +kernel
    have first : HasPlainKey methodBetween 2 := ⟨3, by decide +kernel, .inl (by decide +kernel)⟩
    have second : HasPlainKey methodBetween 18 :=
      ⟨19, by decide +kernel, .inr (by decide +kernel)⟩
    simp [members, first, second]
  have found : properties methodBetween 0 = [⟨"a", "Id", true⟩, ⟨"0", "any", false⟩] := by
    decide +kernel
  obtain ⟨-, text, -, -, same⟩ := members_are_written_alike unmapped plain
  refine ⟨unmapped, plain, found, ?_⟩
  rw [same built founded (by decide +kernel), text (by simp [found]), found]
  decide +kernel

end TypeScript

end ExportIndex
