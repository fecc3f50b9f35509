import ExportIndex.Record.Merge
import Mathlib.Data.List.Nodup
import Mathlib.Tactic

/-
This file says what a list looks like when the first item of each key has been kept, and which
lists of records may be reported of a source.
-/

namespace ExportIndex

section FirstOfEach

variable {A B : Type} [DecidableEq B] (key : A → B)

theorem firstOfEach_sublist (seen : List B) (items : List A) :
    (firstOfEach key seen items).Sublist items := by
  induction items generalizing seen with
  | nil => exact List.nil_sublist []
  | cons item rest ih =>
    rw [firstOfEach]
    split
    · exact (ih seen).cons item
    · exact (ih _).cons_cons item

/-- No key of an item that is kept was seen before. -/
theorem firstOfEach_fresh (seen : List B) (items : List A) :
    ∀ item ∈ firstOfEach key seen items, key item ∉ seen := by
  induction items generalizing seen with
  | nil => simp [firstOfEach]
  | cons first rest ih =>
    intro item member
    rw [firstOfEach] at member
    split at member
    · exact ih seen item member
    · next fresh =>
      rcases List.mem_cons.mp member with rfl | later
      · exact fresh
      · exact fun old => ih _ item later (List.mem_cons_of_mem _ old)

/-- The keys of the items that are kept differ. -/
theorem firstOfEach_nodup (seen : List B) (items : List A) :
    ((firstOfEach key seen items).map key).Nodup := by
  induction items generalizing seen with
  | nil => simp [firstOfEach]
  | cons first rest ih =>
    rw [firstOfEach]
    split
    · exact ih seen
    · rw [List.map_cons, List.nodup_cons]
      refine ⟨fun member => ?_, ih _⟩
      obtain ⟨item, kept, same⟩ := List.mem_map.mp member
      exact firstOfEach_fresh key _ rest item kept (same ▸ List.mem_cons_self)

/-- Items with fresh and different keys are all kept. -/
theorem firstOfEach_eq_self (seen : List B) (items : List A)
    (fresh : ∀ item ∈ items, key item ∉ seen) (distinct : (items.map key).Nodup) :
    firstOfEach key seen items = items := by
  induction items generalizing seen with
  | nil => rfl
  | cons first rest ih =>
    rw [List.map_cons, List.nodup_cons] at distinct
    rw [firstOfEach, if_neg (fresh first List.mem_cons_self), ih _ ?_ distinct.2]
    intro item member old
    rcases List.mem_cons.mp old with same | before
    · exact distinct.1 (same ▸ List.mem_map_of_mem member)
    · exact fresh item (List.mem_cons_of_mem _ member) before

/-- It does not matter in which order or how often keys have been seen. -/
theorem firstOfEach_congr (items : List A) {seen others : List B}
    (same : ∀ item, item ∈ seen ↔ item ∈ others) :
    firstOfEach key seen items = firstOfEach key others items := by
  induction items generalizing seen others with
  | nil => rfl
  | cons first rest ih =>
    have both : ∀ item, item ∈ key first :: seen ↔ item ∈ key first :: others := by
      simp [same]
    rw [firstOfEach, firstOfEach, ih same, ih both]
    simp only [same]

/-- What comes behind some items is kept as if the keys of these had been seen. -/
theorem firstOfEach_append (seen : List B) (first second : List A) :
    firstOfEach key seen (first ++ second) =
      firstOfEach key seen first ++ firstOfEach key (first.map key ++ seen) second := by
  induction first generalizing seen with
  | nil => rfl
  | cons item rest ih =>
    have moved : firstOfEach key (rest.map key ++ key item :: seen) second =
        firstOfEach key ((item :: rest).map key ++ seen) second := by
      apply firstOfEach_congr
      intro other
      simp only [List.map_cons, List.cons_append, List.mem_append, List.mem_cons]
      tauto
    rw [List.cons_append, firstOfEach, firstOfEach]
    split
    · next old =>
      have known : firstOfEach key (rest.map key ++ seen) second =
          firstOfEach key ((item :: rest).map key ++ seen) second := by
        apply firstOfEach_congr
        intro other
        simp only [List.map_cons, List.cons_append, List.mem_append, List.mem_cons]
        constructor
        · exact .inr
        · rintro (rfl | other)
          · exact .inr old
          · exact other
      rw [ih, known]
    · rw [ih, moved, List.cons_append]

/-- Of items with different keys those are kept whose keys have not been seen. -/
theorem firstOfEach_eq_filter (seen : List B) (items : List A)
    (distinct : (items.map key).Nodup) :
    firstOfEach key seen items = items.filter fun item => key item ∉ seen := by
  induction items generalizing seen with
  | nil => rfl
  | cons item rest ih =>
    rw [List.map_cons, List.nodup_cons] at distinct
    rw [firstOfEach, List.filter_cons]
    split
    · next old => simp [old, ih seen distinct.2]
    · next fresh =>
      rw [if_pos (by simpa using fresh), ih _ distinct.2]
      congr 1
      refine List.filter_congr fun other member => ?_
      have apart : key other ≠ key item := fun same =>
        distinct.1 (same ▸ List.mem_map_of_mem member)
      simp [apart]

/-- The keys that are kept are those of the items, except for the ones seen before. -/
theorem mem_map_firstOfEach {seen : List B} {items : List A} {one : B} :
    one ∈ (firstOfEach key seen items).map key ↔ one ∈ items.map key ∧ one ∉ seen := by
  induction items generalizing seen with
  | nil => simp [firstOfEach]
  | cons item rest ih =>
    rw [firstOfEach]
    split
    · next old =>
      rw [ih, List.map_cons, List.mem_cons]
      constructor
      · exact fun ⟨member, fresh⟩ => ⟨.inr member, fresh⟩
      · rintro ⟨rfl | member, fresh⟩
        · exact absurd old fresh
        · exact ⟨member, fresh⟩
    · next fresh =>
      rw [List.map_cons, List.map_cons, List.mem_cons, List.mem_cons, ih, List.mem_cons]
      by_cases here : one = key item
      · simp [here, fresh]
      · simp [here]

/-- A key that has been seen takes its items away. -/
theorem firstOfEach_cons_seen (one : B) (seen : List B) (items : List A) :
    firstOfEach key (one :: seen) items =
      (firstOfEach key seen items).filter fun item => key item ≠ one := by
  induction items generalizing seen with
  | nil => rfl
  | cons item rest ih =>
    have swapped : firstOfEach key (key item :: one :: seen) rest =
        firstOfEach key (one :: key item :: seen) rest := by
      apply firstOfEach_congr
      intro other
      simp only [List.mem_cons]
      tauto
    by_cases same : key item = one
    · subst same
      rw [firstOfEach, if_pos List.mem_cons_self, firstOfEach]
      split
      · exact ih seen
      · rw [List.filter_cons, if_neg (by simp), ih, List.filter_filter]
        simp
    · have known : key item ∈ one :: seen ↔ key item ∈ seen := by simp [same]
      rw [firstOfEach, firstOfEach]
      simp only [known]
      split
      · exact ih seen
      · rw [List.filter_cons, if_pos (by simpa using same), swapped, ih]

/-- An item that is kept is the first one with its key. -/
theorem find?_eq_of_mem_firstOfEach {seen : List B} {items : List A} {item : A}
    (kept : item ∈ firstOfEach key seen items) :
    items.find? (fun other => key other = key item) = some item := by
  induction items generalizing seen with
  | nil => cases kept
  | cons first rest ih =>
    rw [firstOfEach] at kept
    rw [List.find?_cons]
    split at kept
    · next old =>
      have fresh := firstOfEach_fresh key seen rest item kept
      have apart : key first ≠ key item := fun same => fresh (same ▸ old)
      simpa [apart] using ih kept
    · rcases List.mem_cons.mp kept with rfl | later
      · simp
      · have fresh := firstOfEach_fresh key _ rest item later
        have apart : key first ≠ key item := fun same => fresh (same ▸ List.mem_cons_self)
        simpa [apart] using ih later

/-- Of an item with a fresh key, or of one before it with the same key, one is kept. -/
theorem exists_mem_firstOfEach {seen : List B} {item : A} (fresh : key item ∉ seen)
    (front rest : List A) :
    ∃ kept ∈ firstOfEach key seen (front ++ item :: rest), key kept = key item ∧
      (kept ∈ front ∨ kept = item) := by
  have hasKey : key item ∈ (firstOfEach key seen (front ++ item :: rest)).map key :=
    (mem_map_firstOfEach key).mpr ⟨by simp, fresh⟩
  obtain ⟨kept, member, same⟩ := List.mem_map.mp hasKey
  refine ⟨kept, member, same, ?_⟩
  have first := find?_eq_of_mem_firstOfEach key member
  rw [List.find?_append, Option.or_eq_some_iff] at first
  cases first with
  | inl before => exact .inl (List.mem_of_find?_eq_some before)
  | inr here =>
    rw [List.find?_cons_of_pos (by simpa using same.symm)] at here
    exact .inr (Option.some.inj here.2).symm

theorem map_firstOfEach (seen : List B) (items : List A) :
    (firstOfEach key seen items).map key = firstOfEach id seen (items.map key) := by
  induction items generalizing seen with
  | nil => rfl
  | cons item rest ih =>
    rw [firstOfEach, List.map_cons, firstOfEach]
    split
    · next old => exact (ih seen).trans (if_pos old).symm
    · next fresh => rw [List.map_cons, ih, if_neg (by exact fresh), id_eq]

/-- A choice that has been made before does not change a later one that knows more keys. -/
theorem firstOfEach_firstOfEach {known seen : List B} (items : List A)
    (included : ∀ one ∈ known, one ∈ seen) :
    firstOfEach key seen (firstOfEach key known items) = firstOfEach key seen items := by
  induction items generalizing known seen with
  | nil => rfl
  | cons item rest ih =>
    rw [firstOfEach, firstOfEach]
    split
    · next old => rw [if_pos (included _ old), ih included]
    · rw [firstOfEach]
      split
      · next old => exact ih (List.forall_mem_cons.mpr ⟨old, included⟩)
      · rw [ih fun one member => ?_]
        rcases List.mem_cons.mp member with rfl | before
        · exact List.mem_cons_self
        · exact List.mem_cons_of_mem _ (included one before)

/-- It does not matter whether a choice has been made within each of some batches before. -/
theorem firstOfEach_flatten {known seen : List B} (batches : List (List A))
    (included : ∀ one ∈ known, one ∈ seen) :
    firstOfEach key seen (batches.map (firstOfEach key known)).flatten =
      firstOfEach key seen batches.flatten := by
  induction batches generalizing seen with
  | nil => rfl
  | cons batch rest ih =>
    have later : ∀ one ∈ known, one ∈ batch.map key ++ seen :=
      fun one member => List.mem_append_right _ (included one member)
    have same : ∀ one, one ∈ (firstOfEach key known batch).map key ++ seen ↔
        one ∈ batch.map key ++ seen := by
      intro one
      rw [List.mem_append, List.mem_append, mem_map_firstOfEach]
      have known := included one
      tauto
    rw [List.map_cons, List.flatten_cons, List.flatten_cons, firstOfEach_append,
      firstOfEach_append, firstOfEach_firstOfEach key batch included, firstOfEach_congr key _ same,
      ih later]

end FirstOfEach

namespace ExportRecord

/-- A list of records is fit to be reported: all of them are exported, and each has a name that
no other one has. -/
structure Reported (records : List ExportRecord) : Prop where
  exported : ∀ record ∈ records, record.exported = true
  named : ∀ record ∈ records, record.name ≠ ""
  distinct : (records.map ExportRecord.name).Nodup

theorem reported_nil : Reported [] :=
  ⟨by simp, by simp, List.nodup_nil⟩

/-- Exported records are fit to be reported once each name is kept for its first record. -/
theorem reported_dedup {records : List ExportRecord}
    (exported : ∀ record ∈ records, record.exported = true) : Reported (dedup records) where
  exported record member := exported record ((firstOfEach_sublist _ _ _).subset member)
  named record member empty :=
    firstOfEach_fresh ExportRecord.name _ records record member (by simp [empty])
  distinct := firstOfEach_nodup ExportRecord.name _ records

/-- The names of records that are reported are their names as they are. -/
theorem Reported.names_eq {records : List ExportRecord} (reported : Reported records) :
    names records = records.map ExportRecord.name := by
  apply firstOfEach_eq_self
  · intro name member
    obtain ⟨record, listed, rfl⟩ := List.mem_map.mp member
    simpa using reported.named record listed
  · simpa using reported.distinct

theorem Reported.dedup_eq {records : List ExportRecord} (reported : Reported records) :
    dedup records = records := by
  apply firstOfEach_eq_self
  · intro record member
    simpa using reported.named record member
  · exact reported.distinct

/-- To merge what is reported with nothing else changes nothing. -/
theorem Reported.merge_eq {records : List ExportRecord} (reported : Reported records) :
    merge [records] = records := by
  rw [merge, List.flatten_singleton, reported.dedup_eq]

/-- Batches may be rid of repeated names before they are merged. -/
theorem merge_map_dedup (batches : List (List ExportRecord)) :
    merge (batches.map dedup) = dedup batches.flatten :=
  firstOfEach_flatten ExportRecord.name batches fun _ member => member

/-- To merge two lists that are reported is to add the records of the second that have new names
to the first. -/
theorem Reported.merge_pair {first second : List ExportRecord} (reported : Reported first)
    (others : Reported second) :
    merge [first, second] =
      first ++ second.filter fun record => record.name ∉ first.map ExportRecord.name := by
  have flat : [first, second].flatten = first ++ second := by simp
  have kept : firstOfEach ExportRecord.name [""] first = first := reported.dedup_eq
  rw [merge, dedup, flat, firstOfEach_append, kept,
    firstOfEach_eq_filter _ _ _ others.distinct]
  congr 1
  refine List.filter_congr fun record member => ?_
  simp [others.named record member]

@[simp] theorem named_exported (name : String) (kind : SymbolKind) :
    (named name kind).exported = true := rfl

@[simp] theorem ofDefault_exported (name : String) (kind : SymbolKind) :
    (ofDefault name kind).exported = true := rfl

@[simp] theorem withMetadata_exported (record : ExportRecord) (metadata : Metadata) :
    (record.withMetadata metadata).exported = record.exported := rfl

@[simp] theorem withExportKind_exported (record : ExportRecord)
    (exportKind : Option ExportKind) :
    (record.withExportKind exportKind).exported = record.exported := rfl

end ExportRecord

end ExportIndex
