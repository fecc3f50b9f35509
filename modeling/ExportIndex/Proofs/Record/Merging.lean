import ExportIndex.Proofs.Record.Distinct
import Mathlib

/-
This file says which records are left when each name is kept for its first record, and shows that
a merge of batches depends on nothing but the order of the records in them.
-/

namespace ExportIndex.ExportRecord

/-- A record has a name, and none of the records before it has the same one. -/
def IsFirst (before : List ExportRecord) (record : ExportRecord) : Prop :=
  record.name ≠ "" ∧ ∀ earlier ∈ before, earlier.name ≠ record.name

instance (before : List ExportRecord) (record : ExportRecord) : Decidable (IsFirst before record) :=
  inferInstanceAs (Decidable (_ ∧ _))

/-- The records that are the first ones of their names, in order. -/
def firstNamed (records : List ExportRecord) : List ExportRecord :=
  (records.zipIdx.filter fun entry => IsFirst (records.take entry.2) entry.1).map Prod.fst

section FirstRecords

theorem dedup_concat (records : List ExportRecord) (record : ExportRecord) :
    dedup (records ++ [record]) =
      dedup records ++ if IsFirst records record then [record] else [] := by
  have fresh : record.name ∉ records.map ExportRecord.name ++ [""] ↔ IsFirst records record := by
    rw [IsFirst, List.mem_append, List.mem_singleton, List.mem_map]
    push Not
    exact and_comm
  rw [dedup, firstOfEach_append, firstOfEach, firstOfEach, ← dedup, ← ite_not]
  simp only [fresh, firstOfEach]

theorem firstNamed_concat (records : List ExportRecord) (record : ExportRecord) :
    firstNamed (records ++ [record]) =
      firstNamed records ++ if IsFirst records record then [record] else [] := by
  have kept : records.zipIdx.filter
        (fun entry => IsFirst ((records ++ [record]).take entry.2) entry.1) =
      records.zipIdx.filter (fun entry => IsFirst (records.take entry.2) entry.1) := by
    refine List.filter_congr fun entry member => ?_
    have inside : entry.2 < records.length + 0 := List.snd_lt_of_mem_zipIdx member
    rw [List.take_append_of_le_length (by omega)]
  rw [firstNamed, firstNamed, List.zipIdx_append, List.filter_append, List.map_append, kept]
  congr 1
  by_cases first : IsFirst records record <;> simp [first]

theorem dedup_eq_firstNamed (records : List ExportRecord) :
    dedup records = firstNamed records := by
  induction records using List.reverseRecOn with
  | nil => rfl
  | append_singleton records record ih => rw [dedup_concat, firstNamed_concat, ih]

theorem dedup_dedup (records : List ExportRecord) : dedup (dedup records) = dedup records :=
  firstOfEach_firstOfEach ExportRecord.name records fun _ member => member

theorem names_eq_map_dedup (records : List ExportRecord) :
    names records = (dedup records).map ExportRecord.name :=
  (map_firstOfEach ExportRecord.name [""] records).symm

theorem names_dedup (records : List ExportRecord) : names (dedup records) = names records := by
  rw [names_eq_map_dedup, dedup_dedup, names_eq_map_dedup]

end FirstRecords

section Batches

variable {batches others : List (List ExportRecord)}

/-- A merge does not tell batches apart that agree once each has been rid of repeated names. -/
theorem merge_congr (same : batches.map dedup = others.map dedup) :
    merge batches = merge others := by
  calc merge batches = merge (batches.map dedup) := (merge_map_dedup batches).symm
    _ = merge (others.map dedup) := by rw [same]
    _ = merge others := merge_map_dedup others

theorem merge_dedup_batch (before after : List (List ExportRecord)) (batch : List ExportRecord) :
    merge (before ++ dedup batch :: after) = merge (before ++ batch :: after) := by
  apply merge_congr
  simp [dedup_dedup]

/-- Consecutive batches may be merged before the others. -/
theorem merge_merged_batch (before group after : List (List ExportRecord)) :
    merge (before ++ merge group :: after) = merge (before ++ group ++ after) := by
  have flat : merge (before ++ group.flatten :: after) = merge (before ++ group ++ after) := by
    simp [merge]
  calc merge (before ++ merge group :: after)
      = merge (before ++ group.flatten :: after) := merge_dedup_batch before after group.flatten
    _ = merge (before ++ group ++ after) := flat

theorem merge_groups (groups : List (List (List ExportRecord))) :
    merge (groups.map merge) = merge groups.flatten := by
  have flat : groups.map merge = (groups.map List.flatten).map dedup := by
    rw [List.map_map]
    rfl
  rw [flat, merge_map_dedup, merge, List.flatten_flatten]

theorem merge_empty_batch (before after : List (List ExportRecord)) :
    merge (before ++ [] :: after) = merge (before ++ after) := by
  simp [merge]

theorem mem_names_merge {name : String} :
    name ∈ names (merge batches) ↔ name ≠ "" ∧ ∃ batch ∈ batches, ∃ record ∈ batch,
      record.name = name := by
  rw [merge, names_dedup, names_eq_map_dedup, dedup, mem_map_firstOfEach]
  simp only [List.mem_map, List.mem_flatten, List.mem_singleton]
  grind

end Batches

/-- A record is kept if it has a name and is the first one of that name, and the names of a list are
those of the records that are kept. A merge is the same however its batches are grouped, merged or
rid of repeated names before, and the order of batches does not change which names it has. -/
theorem merge_keeps_first_records :
    (∀ records, dedup records = firstNamed records ∧ dedup (dedup records) = dedup records ∧
      names records = (dedup records).map ExportRecord.name ∧
      names (dedup records) = names records) ∧
    (∀ groups : List (List (List ExportRecord)), merge (groups.map merge) = merge groups.flatten) ∧
    (∀ before after : List (List ExportRecord),
      (∀ batch, merge (before ++ dedup batch :: after) = merge (before ++ batch :: after)) ∧
      (∀ group, merge (before ++ merge group :: after) = merge (before ++ group ++ after)) ∧
      merge (before ++ [] :: after) = merge (before ++ after)) ∧
    ∀ batches others : List (List ExportRecord), batches.Perm others →
      ∀ name, name ∈ names (merge batches) ↔ name ∈ names (merge others) := by
  refine ⟨fun records => ⟨dedup_eq_firstNamed records, dedup_dedup records,
    names_eq_map_dedup records, names_dedup records⟩, merge_groups, fun before after =>
    ⟨merge_dedup_batch before after, (merge_merged_batch before · after),
      merge_empty_batch before after⟩, fun batches others shuffled name => ?_⟩
  rw [mem_names_merge, mem_names_merge]
  simp only [shuffled.mem_iff]

/-- Two batches that both report a button, and one of them a record without a name. -/
def overlapping : List (List ExportRecord) :=
  [[.named "Button" .function, .named "" .unknown, .named "Props" .interface],
    [.named "Button" .component, .named "Card" .component]]

/-- The order of the batches decides about the order of the names and about which button stays,
but not about the names. -/
theorem merge_keeps_first_records_of_overlapping :
    overlapping.Perm overlapping.reverse ∧
      merge overlapping = [.named "Button" .function, .named "Props" .interface,
        .named "Card" .component] ∧
      merge overlapping.reverse = [.named "Button" .component, .named "Card" .component,
        .named "Props" .interface] ∧
      ∀ name, name ∈ names (merge overlapping) ↔ name ∈ names (merge overlapping.reverse) :=
  ⟨(List.reverse_perm overlapping).symm, by decide, by decide,
    merge_keeps_first_records.2.2.2 _ _ (List.reverse_perm overlapping).symm⟩

end ExportIndex.ExportRecord
