import ExportIndex.Record

/-
This file merges records by name: the first record of a name stays, and records
without a name are dropped.
-/

namespace ExportIndex

/-- Keeps the first of the items that share a key, in order. Items with a key in
`seen` are dropped too. -/
def firstOfEach {A B : Type} [DecidableEq B] (key : A → B) : List B → List A → List A
  | _, [] => []
  | seen, item :: rest =>
    if key item ∈ seen then firstOfEach key seen rest
    else item :: firstOfEach key (key item :: seen) rest

namespace ExportRecord

/-- One record for each name that is not empty. -/
def dedup (records : List ExportRecord) : List ExportRecord :=
  firstOfEach ExportRecord.name [""] records

/-- The names in the order of their first records. -/
def names (records : List ExportRecord) : List String :=
  firstOfEach id [""] (records.map ExportRecord.name)

/-- Earlier batches win over later ones. -/
def merge (batches : List (List ExportRecord)) : List ExportRecord :=
  dedup batches.flatten

end ExportRecord

end ExportIndex
