import ExportIndex.Proofs.Metrics.Sum
import ExportIndex.Proofs.Scan.Account
import Mathlib

/-
This file shows that metrics which account for their failures do so after any merges, in particular
those of scans.
-/

namespace ExportIndex

namespace ScanMetrics

/-- Files fail to parse only among the parsed ones, only files that are seen are parsed or fail to
be read, and listings fail only of scanned directories. -/
structure Accounted (metrics : ScanMetrics) : Prop where
  parseFailures : metrics.parseFailures.toNat ≤ metrics.filesParsed.toNat
  readFailures : metrics.filesParsed.toNat + metrics.readFailures.toNat ≤ metrics.filesSeen.toNat
  directoryFailures : metrics.directoryFailures.toNat ≤ metrics.directoriesScanned.toNat

/-- Metrics of a scan, whatever time it took. -/
def OfScan (metrics : ScanMetrics) : Prop :=
  ∃ (scanner : Scan.Scanner) (root : String) (path : List String) (tree : Directory)
    (counted : ScanMetrics), scanner.scan root path = .ok (tree, counted) ∧ Scan.Countable tree ∧
      metrics = { counted with scanTime := metrics.scanTime }

variable {parts : Nat} {metrics first second sum : ScanMetrics} {plan : MergePlan}

/-- No failure is counted twice, so what is left of the parsed files is a difference. -/
theorem Accounted.succeeded_add (accounted : metrics.Accounted) :
    metrics.succeeded.toNat + metrics.parseFailures.toNat = metrics.filesParsed.toNat := by
  have failures := accounted.parseFailures
  rw [succeeded, if_pos (UInt64.le_iff_toNat_le.mpr failures), UInt64.toNat_sub_of_le _ _
    (UInt64.le_iff_toNat_le.mpr failures)]
  omega

theorem Accounted.mergeIn? (here : first.Accounted) (there : second.Accounted)
    (merges : first.mergeIn? parts second = some sum) : sum.Accounted := by
  have counters := (mergeIn?_eq_some_iff.mp merges).1.counters
  have exact (counter : Counter) : (sum.counter counter).toNat =
      (first.counter counter).toNat + (second.counter counter).toNat :=
    (counters counter).trans (total_pair first second counter)
  have seen := exact .filesSeen
  have parsed := exact .filesParsed
  have failed := exact .parseFailures
  have missed := exact .readFailures
  have scanned := exact .directoriesScanned
  have unlisted := exact .directoryFailures
  simp only [counter] at seen parsed failed missed scanned unlisted
  obtain ⟨failures, read, listed⟩ := here
  obtain ⟨failuresToo, readToo, listedToo⟩ := there
  constructor <;> omega

theorem Accounted.result? (accounted : ∀ metrics ∈ plan.operands, metrics.Accounted)
    (results : plan.result? parts = some sum) : sum.Accounted := by
  induction plan generalizing sum with
  | single metrics =>
    cases results
    exact accounted _ (by simp [MergePlan.operands])
  | merge first second here there =>
    simp only [MergePlan.result?_merge, Option.bind_eq_some_iff] at results
    obtain ⟨left, isLeft, right, isRight, merges⟩ := results
    obtain ⟨inFirst, inSecond⟩ := List.forall_mem_append.mp accounted
    exact (here inFirst isLeft).mergeIn? (there inSecond isRight) merges

theorem OfScan.accounted (scanned : metrics.OfScan) : metrics.Accounted := by
  obtain ⟨scanner, root, path, tree, counted, completes, countable, same⟩ := scanned
  obtain ⟨tally, counts, accounts⟩ := (Scan.Scanner.scan_descent completes).accounted
  have agreement := accounts.agreement countable
  rw [← counts] at agreement
  rw [same]
  exact ⟨agreement.parseFailures, agreement.readFailures, agreement.directoryFailures⟩

/-- Whatever parts of a second durations are counted in, merges give sums: they may be swapped and
regrouped, zero changes nothing, and a merge fails exactly where a counter or the duration does not
fit. In whatever order metrics are merged, the result is their sum, if that fits. It accounts for
its failures if they do, as metrics of scans do, and then no failure is missing among the files that
rates are taken of. -/
theorem merges_add_up_and_account (parts : Nat) :
    (∀ first second : ScanMetrics,
      first.mergeIn? parts second = second.mergeIn? parts first) ∧
    (∀ first second third : ScanMetrics,
      ((first.mergeIn? parts second).bind fun sum => sum.mergeIn? parts third) =
        (second.mergeIn? parts third).bind (first.mergeIn? parts)) ∧
    (∀ metrics : ScanMetrics, metrics.scanTime / parts < UInt64.size →
      metrics.mergeIn? parts zero = some metrics ∧ zero.mergeIn? parts metrics = some metrics) ∧
    (∀ first second : ScanMetrics, first.mergeIn? parts second = none ↔
      (∃ counter, UInt64.size ≤ (first.counter counter).toNat + (second.counter counter).toNat) ∨
        UInt64.size ≤ (first.scanTime + second.scanTime) / parts) ∧
    (∀ (plan : MergePlan) (sum : ScanMetrics), plan.result? parts = some sum →
      Sums plan.operands sum ∧
      ((∀ metrics ∈ plan.operands, metrics.Accounted) → sum.Accounted ∧
        sum.succeeded.toNat + sum.parseFailures.toNat = sum.filesParsed.toNat)) ∧
    (∀ plan : MergePlan,
      ((∀ metrics ∈ plan.operands, metrics.scanTime / parts < UInt64.size) →
        (plan.result? parts = none ↔ ¬ Fit parts plan.operands)) ∧
      ∀ other : MergePlan, plan.operands.Perm other.operands →
        plan.result? parts = other.result? parts) ∧
    ∀ metrics : ScanMetrics, metrics.OfScan → metrics.Accounted := by
  refine ⟨mergeIn?_comm parts, mergeIn?_assoc parts,
    fun metrics fits => ⟨mergeIn?_zero fits, zero_mergeIn? fits⟩,
    fun first second => mergeIn?_eq_none_iff,
    fun plan sum results => ⟨MergePlan.sums_of_result? results, fun accounted => ?_⟩,
    fun plan =>
      ⟨MergePlan.result?_eq_none_iff, fun other shuffled => MergePlan.result?_perm shuffled⟩,
    fun metrics scanned => scanned.accounted⟩
  have accounts := Accounted.result? accounted results
  exact ⟨accounts, accounts.succeeded_add⟩

/-- Metrics near the bound of their counters. -/
def crowded : ScanMetrics :=
  ⟨18446744073709551613, 18446744073709551612, 2, 1, 9, 0, 9, 0, 3000000000⟩

/-- Metrics of a scan with a link back to its root and a file that cannot be read. -/
def scanned : ScanMetrics := ⟨2, 1, 0, 1, 2, 0, 0, 1, 5⟩

def crowdedPlan : MergePlan := .merge (.single scanned) (.single crowded)

theorem scanned_ofScan : scanned.OfScan := by
  obtain ⟨tree, metrics, completes, descent⟩ :=
    @Scan.Scanner.scan_starts Scan.counted "." [] (by decide) (by cbv)
  cases descent.runs.symm.trans Scan.descent_counted.runs
  exact ⟨_, _, _, _, _, completes, ⟨by decide, by decide, by decide⟩, rfl⟩

/-- The plan just fits, with durations in nanoseconds, and one more scan would not. -/
theorem merges_add_up_and_account_of_crowded :
    scanned.OfScan ∧ (∀ metrics ∈ crowdedPlan.operands, metrics.Accounted) ∧
      ∃ sum : ScanMetrics, crowdedPlan.result? 1000000000 = some sum ∧
        sum = ⟨18446744073709551615, 18446744073709551613, 2, 2, 11, 0, 9, 1, 3000000005⟩ ∧
        sum.Accounted ∧ sum.succeeded.toNat + 2 = 18446744073709551613 ∧
        sum.mergeIn? 1000000000 zero = some sum ∧ sum.mergeIn? 1000000000 scanned = none := by
  obtain ⟨-, -, identity, overflows, results, -, scans⟩ := merges_add_up_and_account 1000000000
  have accounted : ∀ metrics ∈ crowdedPlan.operands, metrics.Accounted := by
    have one : scanned.Accounted := scans scanned scanned_ofScan
    have many : crowded.Accounted := ⟨by decide, by decide, by decide⟩
    simp [crowdedPlan, MergePlan.operands, one, many]
  have result : crowdedPlan.result? 1000000000 =
      some ⟨18446744073709551615, 18446744073709551613, 2, 2, 11, 0, 9, 1, 3000000005⟩ := by
    decide +kernel
  obtain ⟨accounts, difference⟩ := (results _ _ result).2 accounted
  refine ⟨scanned_ofScan, accounted, _, result, rfl, accounts, difference,
    (identity _ (by decide)).1, ?_⟩
  exact (overflows _ _).mpr (.inl ⟨.filesSeen, by decide⟩)

end ScanMetrics

end ExportIndex
