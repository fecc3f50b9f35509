import ExportIndex.Proofs.Extraction.Refusal
import ExportIndex.Proofs.FilePath.Marks
import ExportIndex.Proofs.JavaScript.Given
import Mathlib

/-
This file shows that a default export without a name of its own is not lost. What has an extension
has a stem before it, so that the name which is made of the stem is not empty.
-/

namespace ExportIndex

section Names

/-- Every character has a capital, be it the character itself. -/
theorem Text.capital_ne_nil (character : Char) : capital character ≠ [] := by
  have table : ∀ entry ∈ longCapitals, entry.2 ≠ [] := by decide
  rw [capital]
  split
  · next codes found =>
    obtain ⟨front, rest, split, -⟩ := List.lookup_eq_some_iff.mp found
    have some := table (character.toNat, codes) (split ▸ List.mem_append_right _ List.mem_cons_self)
    simpa using some
  · simp

theorem Text.capitalize_ne_nil {text : List Char} (some : text ≠ []) : capitalize text ≠ [] := by
  obtain ⟨first, rest, rfl⟩ := List.exists_cons_of_ne_nil some
  exact List.append_ne_nil_of_left_ne_nil (capital_ne_nil first) rest

variable {path : FilePath}

/-- A file with an extension gives a name. -/
theorem AnonymousDefault.nameFor_ne_empty {extension : String}
    (isExtension : path.extension? = some extension) : capitalizedStem.nameFor path ≠ "" := by
  obtain ⟨stem, isStem, some⟩ := FilePath.exists_stem isExtension
  intro empty
  have nothing := congrArg String.toList empty
  rw [nameFor, isStem, String.toList_ofList] at nothing
  exact Text.capitalize_ne_nil some nothing

end Names

namespace JavaScript

open ExportRecord (dedup)

/-- A node is a default export of what is no function and no class with a name. -/
structure ExportsAnonymously (arena : Arena) (id : Nat) : Prop where
  kind : arena.kind id = "export_statement"
  isDefault : (arena.childOfKind? id "default").isSome
  unnamed : ∀ target, EitherField arena id "declaration" "value" target →
    ∀ name symbol, ¬ Defines arena target name symbol

/-- A record is found under a name, and no other one is. -/
structure OnlyUnder (records : List ExportRecord) (name : String) (record : ExportRecord) :
    Prop where
  member : record ∈ records
  named : record.name = name
  only : ∀ other ∈ records, other.name = name → other = record

variable {arena : Arena} {path : FilePath} {start : Nat}

/-- A record with a name is reported, or another one is that is given before it under its name. -/
theorem reported_or_before {place : Nat × Nat × Nat} {record : ExportRecord}
    (given : GivenAt arena path start place record) (named : record.name ≠ "") :
    ∃ reported, OnlyUnder (recordsFrom arena path start) record.name reported ∧
      (reported = record ∨
        ∃ earlier, GivenBefore earlier place ∧ GivenAt arena path start earlier reported) := by
  obtain ⟨pairs, shown, sorted, mem⟩ := lists_given arena path start
  obtain ⟨front, rest, rfl⟩ := List.append_of_mem ((mem place record).mpr given)
  rw [List.map_append, List.map_cons] at shown
  rw [recordsFrom_eq_dedup, ← shown]
  have fresh : record.name ∉ [""] := by simpa using named
  obtain ⟨reported, member, sameName, origin⟩ := exists_mem_firstOfEach ExportRecord.name fresh
    (front.map Prod.snd) (rest.map Prod.snd)
  have distinct := firstOfEach_nodup ExportRecord.name [""]
    (front.map Prod.snd ++ record :: rest.map Prod.snd)
  have only : ∀ other ∈ dedup (front.map Prod.snd ++ record :: rest.map Prod.snd),
      other.name = record.name → other = reported := fun other also otherName =>
    List.inj_on_of_nodup_map distinct also member (otherName.trans sameName.symm)
  refine ⟨reported, ⟨member, sameName, only⟩, origin.symm.imp id fun inFront => ?_⟩
  obtain ⟨⟨earlier, other⟩, pairInFront, rfl⟩ := List.mem_map.mp inFront
  have ordered := (List.pairwise_append.mp sorted).2.2 _ pairInFront _ List.mem_cons_self
  exact ⟨earlier, ordered, (mem earlier other).mp (List.mem_append_left _ pairInFront)⟩

/-- A default export without a name of its own has one that is made of the path, and it is reported
under this name unless another record with the name is given before it. -/
theorem anonymous_default_is_reported (arena : Arena) (path : FilePath) (start visit id : Nat)
    (accepted : Parser.javaScript.canParse path = true)
    (visited : (arena.walk start)[visit]? = some id) (anonymous : ExportsAnonymously arena id) :
    AnonymousDefault.capitalizedStem.nameFor path ≠ "" ∧
    ∃ record, OnlyUnder (recordsFrom arena path start)
        (AnonymousDefault.capitalizedStem.nameFor path) record ∧
      (record = .ofDefault (AnonymousDefault.capitalizedStem.nameFor path) .default ∨
        ∃ earlier, GivenBefore earlier (visit, 0, 0) ∧
          GivenAt arena path start earlier record) := by
  obtain ⟨extension, -, isExtension⟩ := Parser.canParse_iff.mp accepted
  have named := AnonymousDefault.nameFor_ne_empty isExtension
  have given : GivenAt arena path start (visit, 0, 0)
      (.ofDefault (AnonymousDefault.capitalizedStem.nameFor path) .default) :=
    ⟨id, visited, .default anonymous.kind anonymous.isDefault (.anonymous anonymous.unnamed)⟩
  exact ⟨named, reported_or_before given named⟩

/-- The arena of `export default[]`. -/
def listArena : Arena :=
  .ofTree "export default[]" (.notion "program" 0 16 [
    (none, .notion "export_statement" 0 16 [
      (none, .token "export" 0), (none, .token "default" 7),
      (some "value", .notion "array" 14 16 [])])])

/-- The capital of the first letter of that name has two letters. -/
theorem anonymous_default_is_reported_of_list :
    ∃ record, OnlyUnder (recordsFrom listArena ⟨"lib/ßeta.mjs"⟩ 0) "SSeta" record ∧
      (record = .ofDefault "SSeta" .default ∨ ∃ earlier, GivenBefore earlier (1, 0, 0) ∧
        GivenAt listArena ⟨"lib/ßeta.mjs"⟩ 0 earlier record) := by
  have accepted : Parser.javaScript.canParse ⟨"lib/ßeta.mjs"⟩ = true := by cbv
  have visited : (listArena.walk 0)[1]? = some 1 := by
    rw [listArena, Arena.walk_ofTree]
    decide +kernel
  have anonymous : ExportsAnonymously listArena 1 := by
    refine ⟨by decide +kernel, by decide +kernel, fun target leads name symbol defines => ?_⟩
    have isList : defaultTarget? listArena 1 = some 4 := by decide +kernel
    obtain rfl := Option.some.inj
      (((defaultTarget?_eq_some_iff 1 target).mpr leads).symm.trans isList)
    have kind : listArena.kind 4 = "array" := by decide +kernel
    have callable := defines.kind
    simp [kind, callableKinds] at callable
  have name : AnonymousDefault.capitalizedStem.nameFor ⟨"lib/ßeta.mjs"⟩ = "SSeta" := by cbv
  exact name ▸ (anonymous_default_is_reported listArena ⟨"lib/ßeta.mjs"⟩ 0 1 1 accepted visited
    anonymous).2

end JavaScript

end ExportIndex
