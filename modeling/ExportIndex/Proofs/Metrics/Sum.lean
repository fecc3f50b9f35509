import ExportIndex.Metrics
import Mathlib

/-
This file says what merged metrics count: the sums of what was merged, as numbers without a bound.
The order of the merges makes no difference, since sums that fit have only parts that fit.
-/

namespace ExportIndex

/-- The counters of metrics, in the order in which they are written. -/
inductive Counter where
  | filesSeen
  | filesParsed
  | parseFailures
  | readFailures
  | directoriesScanned
  | directoriesSkipped
  | directoryFailures
  | totalRecords
deriving DecidableEq, Repr

theorem checkedAdd_eq_some_iff {first second sum : UInt64} :
    checkedAdd first second = some sum ↔ sum.toNat = first.toNat + second.toNat := by
  rw [checkedAdd, Option.ite_none_right_eq_some, Option.some_inj, ← UInt64.toNat_inj,
    UInt64.toNat_add]
  constructor
  · rintro ⟨fits, same⟩
    rw [← same, Nat.mod_eq_of_lt fits]
  · intro exact
    have fits : first.toNat + second.toNat < UInt64.size := exact ▸ sum.toNat_lt_size
    exact ⟨fits, by rw [exact, Nat.mod_eq_of_lt fits]⟩

namespace ScanMetrics

def counter (metrics : ScanMetrics) : Counter → UInt64
  | .filesSeen => metrics.filesSeen
  | .filesParsed => metrics.filesParsed
  | .parseFailures => metrics.parseFailures
  | .readFailures => metrics.readFailures
  | .directoriesScanned => metrics.directoriesScanned
  | .directoriesSkipped => metrics.directoriesSkipped
  | .directoryFailures => metrics.directoryFailures
  | .totalRecords => metrics.totalRecords

/-- Metrics with some counters and a duration. -/
def ofCounters (counter : Counter → UInt64) (scanTime : Nat) : ScanMetrics where
  filesSeen := counter .filesSeen
  filesParsed := counter .filesParsed
  parseFailures := counter .parseFailures
  readFailures := counter .readFailures
  directoriesScanned := counter .directoriesScanned
  directoriesSkipped := counter .directoriesSkipped
  directoryFailures := counter .directoryFailures
  totalRecords := counter .totalRecords
  scanTime := scanTime

@[simp] theorem counter_ofCounters (values : Counter → UInt64) (scanTime : Nat)
    (counter : Counter) : (ofCounters values scanTime).counter counter = values counter := by
  cases counter <;> rfl

@[simp] theorem scanTime_ofCounters (values : Counter → UInt64) (scanTime : Nat) :
    (ofCounters values scanTime).scanTime = scanTime := rfl

theorem ext_counter {first second : ScanMetrics}
    (counters : ∀ counter, first.counter counter = second.counter counter)
    (time : first.scanTime = second.scanTime) : first = second := by
  cases first
  cases second
  simp only [mk.injEq]
  exact ⟨counters .filesSeen, counters .filesParsed, counters .parseFailures,
    counters .readFailures, counters .directoriesScanned, counters .directoriesSkipped,
    counters .directoryFailures, counters .totalRecords, time⟩

section Sums

variable {parts : Nat} {first second sum : ScanMetrics} {operands others : List ScanMetrics}

/-- What a counter comes to in some metrics together. -/
def total (operands : List ScanMetrics) (counter : Counter) : Nat :=
  (operands.map fun metrics => (metrics.counter counter).toNat).sum

def totalTime (operands : List ScanMetrics) : Nat := (operands.map scanTime).sum

/-- Metrics count what some metrics count together. -/
@[mk_iff]
structure Sums (operands : List ScanMetrics) (sum : ScanMetrics) : Prop where
  counters : ∀ counter, (sum.counter counter).toNat = total operands counter
  time : sum.scanTime = totalTime operands

/-- Words of 64 bits can hold what some metrics count together. -/
@[mk_iff]
structure Fit (parts : Nat) (operands : List ScanMetrics) : Prop where
  counters : ∀ counter, total operands counter < UInt64.size
  time : totalTime operands / parts < UInt64.size

@[simp] theorem total_append (operands others : List ScanMetrics) (counter : Counter) :
    total (operands ++ others) counter = total operands counter + total others counter := by
  simp [total]

@[simp] theorem totalTime_append (operands others : List ScanMetrics) :
    totalTime (operands ++ others) = totalTime operands + totalTime others := by
  simp [totalTime]

@[simp] theorem total_singleton (metrics : ScanMetrics) (counter : Counter) :
    total [metrics] counter = (metrics.counter counter).toNat := by
  simp [total]

@[simp] theorem totalTime_singleton (metrics : ScanMetrics) :
    totalTime [metrics] = metrics.scanTime := by
  simp [totalTime]

@[simp] theorem total_pair (first second : ScanMetrics) (counter : Counter) :
    total [first, second] counter =
      (first.counter counter).toNat + (second.counter counter).toNat := by
  simp [total]

@[simp] theorem totalTime_pair (first second : ScanMetrics) :
    totalTime [first, second] = first.scanTime + second.scanTime := by
  simp [totalTime]

theorem sums_singleton (metrics : ScanMetrics) : Sums [metrics] metrics :=
  ⟨fun counter => (total_singleton metrics counter).symm, (totalTime_singleton metrics).symm⟩

theorem Sums.unique {other : ScanMetrics} (sums : Sums operands sum)
    (sumsToo : Sums operands other) : sum = other := by
  refine ext_counter (fun counter => ?_) (sums.time.trans sumsToo.time.symm)
  exact UInt64.toNat_inj.mp ((sums.counters counter).trans (sumsToo.counters counter).symm)

theorem Sums.perm (sums : Sums operands sum) (shuffled : operands.Perm others) :
    Sums others sum := by
  refine ⟨fun counter => ?_, ?_⟩
  · rw [sums.counters, total, (shuffled.map _).sum_eq, total]
  · rw [sums.time, totalTime, (shuffled.map _).sum_eq, totalTime]

theorem Fit.exists_sums (fit : Fit parts operands) : ∃ sum, Sums operands sum :=
  ⟨ofCounters (fun counter => .ofNat (total operands counter)) (totalTime operands),
    fun counter => by simpa using UInt64.toNat_ofNat_of_lt' (fit.counters counter), by simp⟩

theorem Sums.fit (sums : Sums operands sum) (time : totalTime operands / parts < UInt64.size) :
    Fit parts operands :=
  ⟨fun counter => sums.counters counter ▸ (sum.counter counter).toNat_lt_size, time⟩

theorem Fit.mono (fit : Fit parts others)
    (counters : ∀ counter, total operands counter ≤ total others counter)
    (time : totalTime operands ≤ totalTime others) : Fit parts operands :=
  ⟨fun counter => (counters counter).trans_lt (fit.counters counter),
    (Nat.div_le_div_right time).trans_lt fit.time⟩

theorem Fit.left (fit : Fit parts (operands ++ others)) : Fit parts operands :=
  fit.mono (fun counter => by simp) (by simp)

theorem Fit.right (fit : Fit parts (operands ++ others)) : Fit parts others :=
  fit.mono (fun counter => by simp) (by simp)

/-- A merge gives the sum of its operands, where the sum fits. -/
theorem mergeIn?_eq_some_iff :
    first.mergeIn? parts second = some sum ↔
      Sums [first, second] sum ∧ (first.scanTime + second.scanTime) / parts < UInt64.size := by
  simp only [mergeIn?, checkedDuration, Option.bind_eq_bind, Option.bind_eq_some_iff,
    checkedAdd_eq_some_iff, Option.pure_def, Option.some_inj, Option.ite_none_right_eq_some]
  constructor
  · rintro ⟨filesSeen, seen, filesParsed, parsed, parseFailures, failed, readFailures, missed,
      directoriesScanned, scanned, directoriesSkipped, skipped, directoryFailures, unlisted,
      totalRecords, records, scanTime, ⟨fits, rfl⟩, rfl⟩
    refine ⟨⟨fun counter => ?_, (totalTime_pair _ _).symm⟩, fits⟩
    cases counter <;> simpa [counter]
  · rintro ⟨sums, fits⟩
    have exact (counter : Counter) : (sum.counter counter).toNat =
        (first.counter counter).toNat + (second.counter counter).toNat :=
      (sums.counters counter).trans (total_pair first second counter)
    have time : first.scanTime + second.scanTime = sum.scanTime :=
      (sums.time.trans (totalTime_pair first second)).symm
    exact ⟨_, exact .filesSeen, _, exact .filesParsed, _, exact .parseFailures,
      _, exact .readFailures, _, exact .directoriesScanned, _, exact .directoriesSkipped,
      _, exact .directoryFailures, _, exact .totalRecords, _, ⟨fits, time⟩, rfl⟩

theorem exists_mergeIn?_iff :
    (∃ sum, first.mergeIn? parts second = some sum) ↔ Fit parts [first, second] := by
  simp only [mergeIn?_eq_some_iff, exists_and_right, ← totalTime_pair]
  constructor
  · rintro ⟨⟨sum, sums⟩, fits⟩
    exact sums.fit fits
  · intro fit
    exact ⟨fit.exists_sums, fit.time⟩

/-- A merge fails where a counter or the duration does not fit. -/
theorem mergeIn?_eq_none_iff :
    first.mergeIn? parts second = none ↔
      (∃ counter, UInt64.size ≤ (first.counter counter).toNat + (second.counter counter).toNat) ∨
        UInt64.size ≤ (first.scanTime + second.scanTime) / parts := by
  rw [Option.eq_none_iff_forall_ne_some, ← not_exists, exists_mergeIn?_iff, fit_iff, not_and_or,
    not_forall]
  simp only [total_pair, totalTime_pair, Nat.not_lt]

/-- Sums of two parts are merged to the sum of both. -/
theorem Sums.append_iff (here : Sums operands first) (there : Sums others second) :
    Sums [first, second] sum ↔ Sums (operands ++ others) sum := by
  simp only [sums_iff, total_pair, totalTime_pair, total_append, totalTime_append, here.counters,
    there.counters, here.time, there.time]

/-- The sum of two sums. -/
theorem Sums.mergeIn?_eq_some_iff (here : Sums operands first) (there : Sums others second) :
    first.mergeIn? parts second = some sum ↔
      Sums (operands ++ others) sum ∧ totalTime (operands ++ others) / parts < UInt64.size := by
  rw [ScanMetrics.mergeIn?_eq_some_iff, here.append_iff there, here.time, there.time,
    totalTime_append]

end Sums

/-- A way to merge metrics, two at a time. -/
inductive MergePlan where
  | single (metrics : ScanMetrics)
  | merge (first second : MergePlan)

namespace MergePlan

def operands : MergePlan → List ScanMetrics
  | single metrics => [metrics]
  | merge first second => first.operands ++ second.operands

/-- What the merges come to, if all sums fit. -/
def result? (parts : Nat) : MergePlan → Option ScanMetrics
  | single metrics => some metrics
  | merge first second => do
    (← first.result? parts).mergeIn? parts (← second.result? parts)

variable {parts : Nat} {plan other first second : MergePlan} {sum : ScanMetrics}

theorem result?_merge :
    (merge first second).result? parts =
      (first.result? parts).bind fun left =>
        (second.result? parts).bind (left.mergeIn? parts) := rfl

theorem sums_of_result? (results : plan.result? parts = some sum) : Sums plan.operands sum := by
  induction plan generalizing sum with
  | single metrics =>
    cases results
    exact sums_singleton metrics
  | merge first second here there =>
    simp only [result?_merge, Option.bind_eq_some_iff] at results
    obtain ⟨left, isLeft, right, isRight, merges⟩ := results
    exact (((here isLeft).mergeIn?_eq_some_iff (there isRight)).mp merges).1

theorem exists_result? (fit : Fit parts plan.operands) : ∃ sum, plan.result? parts = some sum := by
  induction plan with
  | single metrics => exact ⟨metrics, rfl⟩
  | merge first second here there =>
    obtain ⟨left, isLeft⟩ := here fit.left
    obtain ⟨right, isRight⟩ := there fit.right
    obtain ⟨sum, sums⟩ := fit.exists_sums
    refine ⟨sum, ?_⟩
    rw [result?_merge, isLeft, isRight]
    exact ((sums_of_result? isLeft).mergeIn?_eq_some_iff (sums_of_result? isRight)).mpr
      ⟨sums, fit.time⟩

/-- Nothing is merged in between that does not fit, if the whole sum fits. -/
theorem result?_merge_eq_some_iff :
    (merge first second).result? parts = some sum ↔
      Sums (merge first second).operands sum ∧
        totalTime (merge first second).operands / parts < UInt64.size := by
  constructor
  · intro results
    refine ⟨sums_of_result? results, ?_⟩
    simp only [result?_merge, Option.bind_eq_some_iff] at results
    obtain ⟨left, isLeft, right, isRight, merges⟩ := results
    exact (((sums_of_result? isLeft).mergeIn?_eq_some_iff (sums_of_result? isRight)).mp merges).2
  · rintro ⟨sums, time⟩
    obtain ⟨found, results⟩ := exists_result? (sums.fit time)
    rw [results, sums.unique (sums_of_result? results)]

theorem operands_merge_length : 2 ≤ (merge first second).operands.length := by
  have inhabited (plan : MergePlan) : 1 ≤ plan.operands.length := by
    induction plan with
    | single metrics => simp [operands]
    | merge first second ih _ => simp [operands]; omega
  have := inhabited first
  have := inhabited second
  simp only [operands, List.length_append]
  omega

/-- The same metrics come to the same result in whatever order they are merged. -/
theorem result?_perm (shuffled : plan.operands.Perm other.operands) :
    plan.result? parts = other.result? parts := by
  have lengths := shuffled.length_eq
  match plan, other with
  | single metrics, single twin =>
    obtain rfl : metrics = twin := by simpa [operands] using shuffled
    rfl
  | single metrics, merge first second | merge first second, single metrics =>
    have := @operands_merge_length first second
    simp only [operands, List.length_append, List.length_singleton] at lengths this
    omega
  | merge first second, merge left right =>
    have time : totalTime (merge first second).operands = totalTime (merge left right).operands :=
      (shuffled.map scanTime).sum_eq
    apply Option.ext
    intro sum
    rw [result?_merge_eq_some_iff, result?_merge_eq_some_iff, time]
    exact and_congr_left fun _ => ⟨(·.perm shuffled), (·.perm shuffled.symm)⟩

theorem result?_eq_none_iff
    (timed : ∀ metrics ∈ plan.operands, metrics.scanTime / parts < UInt64.size) :
    plan.result? parts = none ↔ ¬ Fit parts plan.operands := by
  constructor
  · intro fails fit
    obtain ⟨sum, results⟩ := exists_result? fit
    cases fails.symm.trans results
  · intro overflows
    cases plan with
    | single metrics =>
      have fits : metrics.scanTime / parts < UInt64.size := timed metrics (by simp [operands])
      have fit : Fit parts [metrics] := (sums_singleton metrics).fit (by simpa using fits)
      exact absurd fit overflows
    | merge first second =>
      rw [Option.eq_none_iff_forall_ne_some]
      intro sum results
      obtain ⟨sums, time⟩ := result?_merge_eq_some_iff.mp results
      exact overflows (sums.fit time)

end MergePlan

section Laws

variable {parts : Nat} {metrics : ScanMetrics}

theorem mergeIn?_comm (parts : Nat) (first second : ScanMetrics) :
    first.mergeIn? parts second = second.mergeIn? parts first :=
  @MergePlan.result?_perm parts (.merge (.single first) (.single second))
    (.merge (.single second) (.single first)) (.swap second first [])

theorem mergeIn?_assoc (parts : Nat) (first second third : ScanMetrics) :
    ((first.mergeIn? parts second).bind fun sum => sum.mergeIn? parts third) =
      (second.mergeIn? parts third).bind (first.mergeIn? parts) :=
  @MergePlan.result?_perm parts (.merge (.merge (.single first) (.single second)) (.single third))
    (.merge (.single first) (.merge (.single second) (.single third))) (.refl _)

theorem mergeIn?_zero (fits : metrics.scanTime / parts < UInt64.size) :
    metrics.mergeIn? parts zero = some metrics := by
  refine mergeIn?_eq_some_iff.mpr ⟨⟨fun counter => ?_, by simp [totalTime, zero]⟩, fits⟩
  cases counter <;> simp [total, zero, counter]

theorem zero_mergeIn? (fits : metrics.scanTime / parts < UInt64.size) :
    zero.mergeIn? parts metrics = some metrics := by
  rw [mergeIn?_comm, mergeIn?_zero fits]

end Laws

end ScanMetrics

end ExportIndex
