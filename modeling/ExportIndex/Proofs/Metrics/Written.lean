import ExportIndex.Metrics.Json
import ExportIndex.Proofs.Metrics.Sum
import Mathlib

/-
This file says what is written of metrics that others are merged into. The counters are exact, and
so is the duration as long as its milliseconds fit into 64 bits. A merge does not fail before the
seconds do not fit, and in between the written duration lacks its highest bits.
-/

namespace ExportIndex

/-- What is done to metrics that are kept. -/
inductive Update where
  | load (given : ScanMetrics)
  | merge (given : ScanMetrics)

namespace Update

def perform? (kept : ScanMetrics) : Update → Option ScanMetrics
  | load given => some given
  | merge given => kept.merge? given

/-- The metrics that are kept count some metrics together, and after an update these. -/
def onto (counted : List ScanMetrics) : Update → List ScanMetrics
  | load given => [given]
  | merge given => counted ++ [given]

end Update

/-- The metrics that are kept after some updates, if all sums fit. -/
def keptAfter? (updates : List Update) : Option ScanMetrics :=
  updates.foldlM Update.perform? .zero

/-- What was loaded last and merged since. -/
def countedAfter (updates : List Update) : List ScanMetrics := updates.foldl Update.onto []

def Counter.all : List Counter :=
  [.filesSeen, .filesParsed, .parseFailures, .readFailures, .directoriesScanned,
    .directoriesSkipped, .directoryFailures, .totalRecords]

/-- The key that a counter is written under. -/
def Counter.key : Counter → String
  | filesSeen => "files_seen"
  | filesParsed => "files_parsed"
  | parseFailures => "parse_failures"
  | readFailures => "read_failures"
  | directoriesScanned => "directories_scanned"
  | directoriesSkipped => "directories_skipped"
  | directoryFailures => "directory_failures"
  | totalRecords => "total_records"

namespace ScanMetrics

/-- Numbers written like metrics that count so much and took so many milliseconds. -/
def written (counts : Counter → Nat) (milliseconds : Nat) : Json :=
  .object ((Counter.all.map fun counter => (counter.key, .integer (counts counter))) ++
    [("total_scan_time", .integer milliseconds)])

theorem toJson_eq_written (metrics : ScanMetrics) :
    metrics.toJson = written (fun counter => (metrics.counter counter).toNat)
      (metrics.scanTime % UInt64.size) := rfl

theorem member?_written (counts : Counter → Nat) (milliseconds : Nat) :
    (written counts milliseconds).member? "total_scan_time" = some (.integer milliseconds) := by
  simp [written, Json.member?]

theorem written_inj {counts : Counter → Nat} {milliseconds others : Nat} :
    written counts milliseconds = written counts others ↔ milliseconds = others := by
  simp [written]

theorem Sums.toJson_eq {operands : List ScanMetrics} {sum : ScanMetrics}
    (sums : Sums operands sum) :
    sum.toJson = written (total operands) (totalTime operands % UInt64.size) := by
  rw [toJson_eq_written, funext sums.counters, sums.time]

end ScanMetrics

open ScanMetrics

section Updates

variable {updates : List Update} {update : Update} {kept : ScanMetrics}

theorem keptAfter?_concat (updates : List Update) (update : Update) :
    keptAfter? (updates ++ [update]) = (keptAfter? updates).bind (Update.perform? · update) := by
  simp [keptAfter?, List.foldlM_append]

theorem countedAfter_concat (updates : List Update) (update : Update) :
    countedAfter (updates ++ [update]) = update.onto (countedAfter updates) := by
  simp [countedAfter]

/-- An update goes through if what it makes the metrics count fits, and then they count it. -/
theorem Update.perform?_eq_some_iff {counted : List ScanMetrics} {next : ScanMetrics}
    (loads : ∀ given, update = .load given → given.scanTime < UInt64.size)
    (sums : Sums counted kept) :
    update.perform? kept = some next ↔
      Sums (update.onto counted) next ∧ Fit 1000 (update.onto counted) := by
  cases update with
  | load given =>
    have time : totalTime [given] / 1000 < UInt64.size := by
      rw [totalTime_singleton]
      exact (Nat.div_le_self _ _).trans_lt (loads given rfl)
    have own : Sums [given] given := sums_singleton given
    rw [perform?, Option.some_inj, onto]
    exact ⟨fun same => same ▸ ⟨own, own.fit time⟩, fun both => own.unique both.1⟩
  | merge given =>
    rw [perform?, merge?, sums.mergeIn?_eq_some_iff (sums_singleton given), onto]
    exact and_congr_right fun together => ⟨together.fit, Fit.time⟩

/-- The run goes through if after each update there is a sum that fits. -/
theorem keptAfter?_eq_some_iff
    (loads : ∀ given, .load given ∈ updates → given.scanTime < UInt64.size) :
    keptAfter? updates = some kept ↔ Sums (countedAfter updates) kept ∧
      ∀ earlier, earlier <+: updates → Fit 1000 (countedAfter earlier) := by
  have start : Sums [] ScanMetrics.zero :=
    ⟨fun counter => by cases counter <;> rfl, rfl⟩
  induction updates using List.reverseRecOn generalizing kept with
  | nil =>
    have fit : Fit 1000 [] := start.fit (by simp [totalTime])
    simp only [keptAfter?, List.foldlM_nil, Option.pure_def, Option.some_inj, countedAfter,
      List.foldl_nil, List.prefix_nil, forall_eq]
    exact ⟨fun same => same ▸ ⟨start, fit⟩, fun both => start.unique both.1⟩
  | append_singleton updates update ih =>
    have loadsBefore : ∀ given, .load given ∈ updates → given.scanTime < UInt64.size :=
      fun given member => loads given (List.mem_append_left _ member)
    have loadsHere : ∀ given, update = .load given → given.scanTime < UInt64.size := by
      rintro given rfl
      exact loads given (by simp)
    simp only [keptAfter?_concat, Option.bind_eq_some_iff, countedAfter_concat,
      List.prefix_concat_iff, forall_eq_or_imp]
    constructor
    · rintro ⟨before, isBefore, applies⟩
      obtain ⟨sums, fits⟩ := (ih loadsBefore).mp isBefore
      obtain ⟨next, fit⟩ := (Update.perform?_eq_some_iff loadsHere sums).mp applies
      exact ⟨next, fit, fits⟩
    · rintro ⟨next, fit, fits⟩
      obtain ⟨before, sums⟩ := (fits updates List.prefix_rfl).exists_sums
      exact ⟨before, (ih loadsBefore).mpr ⟨sums, fits⟩,
        (Update.perform?_eq_some_iff loadsHere sums).mpr ⟨next, fit⟩⟩

theorem keptAfter?_eq_none_iff
    (loads : ∀ given, .load given ∈ updates → given.scanTime < UInt64.size) :
    keptAfter? updates = none ↔
      ∃ earlier, earlier <+: updates ∧ ¬ Fit 1000 (countedAfter earlier) := by
  have goes : (∃ kept, keptAfter? updates = some kept) ↔
      ∀ earlier, earlier <+: updates → Fit 1000 (countedAfter earlier) := by
    simp only [keptAfter?_eq_some_iff loads, exists_and_right]
    exact ⟨And.right, fun fits => ⟨(fits updates List.prefix_rfl).exists_sums, fits⟩⟩
  rw [Option.eq_none_iff_forall_ne_some, ← not_exists, goes]
  push Not
  rfl

end Updates

/-- A duration that is read has 64 bits. -/
theorem ScanMetrics.scanTime_lt_of_ofJson? {json : Json} {metrics : ScanMetrics}
    (reads : ofJson? json = some metrics) : metrics.scanTime < UInt64.size := by
  simp only [ofJson?, Option.bind_eq_bind, Option.bind_eq_some_iff, Option.pure_def,
    Option.some_inj] at reads
  obtain ⟨field, -, filesSeen, -, filesParsed, -, parseFailures, -, readFailures, -,
    directoriesScanned, -, directoriesSkipped, -, directoryFailures, -, totalRecords, -,
    scanTime, -, rfl⟩ := reads
  exact scanTime.toNat_lt_size

/-- Of metrics that are loaded and that others are merged into, each counter is written as the exact
sum of what was loaded last and merged since. The written duration is that sum without the bits
beyond 64, so it is exact if and only if the sum is below `2 ^ 64`. The run fails only where a
counter, or the duration in seconds, does not fit, and what is read from JSON can be loaded. -/
theorem kept_metrics_are_written_as_sums (updates : List Update)
    (loads : ∀ given, .load given ∈ updates → given.scanTime < UInt64.size) :
    (keptAfter? updates = none ↔
      ∃ earlier, earlier <+: updates ∧ ¬ Fit 1000 (countedAfter earlier)) ∧
    (∀ kept, keptAfter? updates = some kept →
      kept.toJson = written (total (countedAfter updates))
        (totalTime (countedAfter updates) % UInt64.size) ∧
      (kept.toJson = written (total (countedAfter updates)) (totalTime (countedAfter updates)) ↔
        totalTime (countedAfter updates) < UInt64.size)) ∧
    ∀ json given, ofJson? json = some given → given.scanTime < UInt64.size := by
  refine ⟨keptAfter?_eq_none_iff loads, fun kept results => ?_,
    fun json given reads => scanTime_lt_of_ofJson? reads⟩
  obtain ⟨sums, -⟩ := (keptAfter?_eq_some_iff loads).mp results
  refine ⟨sums.toJson_eq, ?_⟩
  rw [sums.toJson_eq, written_inj, Nat.mod_eq_iff_lt (by decide)]

def brief : ScanMetrics := ⟨2, 2, 0, 0, 1, 0, 0, 5, 1500⟩

/-- A scan that takes as many milliseconds as 64 bits can say. -/
def endless : ScanMetrics := ⟨1, 1, 0, 0, 1, 0, 0, 0, 18446744073709551615⟩

/-- What was kept before a load leaves no trace. -/
theorem kept_metrics_are_written_as_sums_of_brief :
    ∃ kept, keptAfter? [.merge brief, .load brief, .merge brief, .merge brief] = some kept ∧
      kept.toJson = written (total [brief, brief, brief]) 4500 ∧
      total [brief, brief, brief] .totalRecords = 15 := by
  have loads : ∀ given, .load given ∈
      [Update.merge brief, .load brief, .merge brief, .merge brief] →
        given.scanTime < UInt64.size := by
    simp [brief, UInt64.size]
  have results : keptAfter? [.merge brief, .load brief, .merge brief, .merge brief] =
      some ⟨6, 6, 0, 0, 3, 0, 0, 15, 4500⟩ := by
    decide +kernel
  obtain ⟨-, exact, -⟩ := kept_metrics_are_written_as_sums _ loads
  exact ⟨_, results, (exact _ results).2.mpr (by decide), by decide⟩

/-- One merge with the longest duration that can be loaded goes through, and the duration that is
written then is shorter than each of the two. -/
theorem long_durations_are_cut_off :
    ∃ kept, keptAfter? [.load endless, .merge brief] = some kept ∧
      totalTime (countedAfter [.load endless, .merge brief]) = 18446744073709553115 ∧
      kept.toJson.member? "total_scan_time" = some (.integer 1499) ∧
      kept.toJson ≠ written (total (countedAfter [.load endless, .merge brief]))
        (totalTime (countedAfter [.load endless, .merge brief])) := by
  have results : keptAfter? [.load endless, .merge brief] =
      some ⟨3, 3, 0, 0, 2, 0, 0, 5, 18446744073709553115⟩ := by
    decide +kernel
  have time : totalTime (countedAfter [.load endless, .merge brief]) = 18446744073709553115 := by
    decide
  refine ⟨_, results, time, by cbv, fun same => ?_⟩
  have shown := congrArg (Json.member? "total_scan_time") same
  rw [toJson_eq_written, member?_written, member?_written, time] at shown
  cases shown

end ExportIndex
