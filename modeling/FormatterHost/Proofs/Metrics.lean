import Mathlib.Algebra.GroupWithZero.Nat
import Mathlib.Data.List.Induction
import FormatterHost.Instance.Basic

/-!
# Metrics of many requests

Requests can be recorded in any order: every counter, the total time and the average come out the
same, and only the time of the last record tells the orders apart.  As long as the requests and the
time that they take can be counted in a word, no counter wraps, and all of them are exact.
-/

namespace FormatterHost.Metrics

/-- Records one request after another. -/
def recordAll (metrics : Metrics) (records : List (Timing × Except Failure Output)) : Metrics :=
  records.foldl (fun metrics entry => metrics.record entry.1.duration entry.1.now entry.2) metrics

theorem recordAll_append (metrics : Metrics)
    (records later : List (Timing × Except Failure Output)) :
    metrics.recordAll (records ++ later) = (metrics.recordAll records).recordAll later :=
  List.foldl_append

/-- The metrics without the time of the last record. -/
def timeless (metrics : Metrics) : Metrics :=
  { metrics with lastExecution := 0 }

/-- The metrics without anything that a record does not add up. -/
def sums (metrics : Metrics) : Metrics :=
  { metrics with averageTime := 0, lastExecution := 0 }

/-- The sums with one more request in them. -/
def tally (metrics : Metrics) (duration : UInt64) (outcome : Except Failure Output) : Metrics :=
  { metrics.count outcome with
    calls := metrics.calls + 1, totalTime := metrics.totalTime + duration }

/-- An outcome is counted in one of four classes, which does not depend on what has been counted. -/
theorem count_cases (outcome : Except Failure Output) :
    (∀ metrics : Metrics, metrics.count outcome =
        { metrics with unchanged := metrics.unchanged + 1 }) ∨
      (∀ metrics : Metrics, metrics.count outcome =
        { metrics with formatted := metrics.formatted + 1 }) ∨
      (∀ metrics : Metrics, metrics.count outcome =
        { metrics with errored := metrics.errored + 1 }) ∨
      ∀ metrics : Metrics, metrics.count outcome =
        { metrics with failed := metrics.failed + 1 } := by
  cases outcome with
  | ok output =>
      obtain ⟨text, status⟩ := output
      cases status with
      | unchanged => exact .inl fun _ => rfl
      | formatted => exact .inr (.inl fun _ => rfl)
  | error failure =>
      cases failure with
      | rejected report => exact .inr (.inr (.inl fun _ => rfl))
      | _ => exact .inr (.inr (.inr fun _ => rfl))

theorem tally_comm (metrics : Metrics) (duration duration' : UInt64)
    (outcome outcome' : Except Failure Output) :
    (metrics.tally duration outcome).tally duration' outcome' =
      (metrics.tally duration' outcome').tally duration outcome := by
  have time : metrics.totalTime + duration + duration' =
      metrics.totalTime + duration' + duration := by
    rw [UInt64.add_assoc, UInt64.add_comm duration, ← UInt64.add_assoc]
  rcases count_cases outcome with same | same | same | same <;>
    rcases count_cases outcome' with same' | same' | same' | same' <;>
    simp only [tally, same, same', time]

theorem sums_record (metrics : Metrics) (duration now : UInt64)
    (outcome : Except Failure Output) :
    (metrics.record duration now outcome).sums = metrics.sums.tally duration outcome := by
  rcases count_cases outcome with same | same | same | same <;>
    simp only [record, sums, tally, same]

/-- Adding up does not look at the average or at the time of the last record. -/
theorem sums_recordAll (metrics : Metrics) (records : List (Timing × Except Failure Output)) :
    (metrics.recordAll records).sums =
      (records.map fun entry => (entry.1.duration, entry.2)).foldl
        (fun metrics entry => metrics.tally entry.1 entry.2) metrics.sums := by
  induction records generalizing metrics with
  | nil => rfl
  | cons entry records ih =>
      rw [List.map_cons, List.foldl_cons, ← sums_record metrics _ entry.1.now, ← ih]
      rfl

/-- The average is that of the sums, as soon as anything has been recorded. -/
theorem averageTime_recordAll (metrics : Metrics)
    {records : List (Timing × Except Failure Output)} (nonempty : records ≠ []) :
    (metrics.recordAll records).averageTime =
      (metrics.recordAll records).sums.totalTime / (metrics.recordAll records).sums.calls := by
  rw [← List.dropLast_concat_getLast nonempty, recordAll_append]
  rfl

theorem timeless_eq (metrics : Metrics) :
    metrics.timeless = { metrics.sums with averageTime := metrics.averageTime } := rfl

/-- Apart from the time of the last record, the metrics depend on the durations and outcomes of the
requests, and not on the order in which they are recorded. -/
theorem timeless_recordAll_of_perm (metrics : Metrics)
    {records records' : List (Timing × Except Failure Output)}
    (perm : (records.map fun entry => (entry.1.duration, entry.2)).Perm
      (records'.map fun entry => (entry.1.duration, entry.2))) :
    (metrics.recordAll records).timeless = (metrics.recordAll records').timeless := by
  have sums : (metrics.recordAll records).sums = (metrics.recordAll records').sums := by
    rw [sums_recordAll, sums_recordAll]
    exact perm.foldl_eq' (fun _ _ _ _ metrics => tally_comm metrics _ _ _ _) _
  have average : (metrics.recordAll records).averageTime =
      (metrics.recordAll records').averageTime := by
    by_cases nothing : records = []
    · subst nothing
      rw [List.map_nil, List.nil_perm, List.map_eq_nil_iff] at perm
      rw [perm]
    · have something : records' ≠ [] := by
        rintro rfl
        rw [List.map_nil, List.perm_nil, List.map_eq_nil_iff] at perm
        exact nothing perm
      rw [averageTime_recordAll metrics nothing, averageTime_recordAll metrics something, sums]
  rw [timeless_eq, timeless_eq, sums, average]

/-! ## Exact counters -/

/-- Whether a text was left as it was. -/
def isUnchanged : Except Failure Output → Bool
  | .ok output => output.status = .unchanged
  | .error _ => false

/-- Whether a text was given a new form. -/
def isFormatted : Except Failure Output → Bool
  | .ok output => output.status = .formatted
  | .error _ => false

/-- Whether the plugin rejected a text. -/
def isRejected : Except Failure Output → Bool
  | .ok _ => false
  | .error failure => failure.isRejection

/-- Whether a request failed in any other way. -/
def isFailed : Except Failure Output → Bool
  | .ok _ => false
  | .error failure => !failure.isRejection

/-- How long requests took together. -/
def time (records : List (Timing × Except Failure Output)) : Nat :=
  (records.map fun entry => entry.1.duration.toNat).sum

/-- The metrics are those of the given requests: every number is the one that it stands for, and not
only up to multiples of a word. -/
structure Accounts (metrics : Metrics) (records : List (Timing × Except Failure Output)) :
    Prop where
  calls : metrics.calls.toNat = records.length
  unchanged : metrics.unchanged.toNat = records.countP fun entry => isUnchanged entry.2
  formatted : metrics.formatted.toNat = records.countP fun entry => isFormatted entry.2
  errored : metrics.errored.toNat = records.countP fun entry => isRejected entry.2
  failed : metrics.failed.toNat = records.countP fun entry => isFailed entry.2
  classes : metrics.unchanged.toNat + metrics.formatted.toNat + metrics.errored.toNat +
    metrics.failed.toNat = metrics.calls.toNat
  totalTime : metrics.totalTime.toNat = time records
  averageTime : metrics.averageTime.toNat = time records / records.length

/-- One more request that takes `duration` can be recorded without overflow and without division by
zero. -/
structure Room (metrics : Metrics) (duration : UInt64) : Prop where
  calls : metrics.calls.toNat + 1 < UInt64.size
  unchanged : metrics.unchanged.toNat + 1 < UInt64.size
  formatted : metrics.formatted.toNat + 1 < UInt64.size
  errored : metrics.errored.toNat + 1 < UInt64.size
  failed : metrics.failed.toNat + 1 < UInt64.size
  totalTime : metrics.totalTime.toNat + duration.toNat < UInt64.size
  divisor : metrics.calls + 1 ≠ 0

theorem time_concat (records : List (Timing × Except Failure Output))
    (entry : Timing × Except Failure Output) :
    time (records ++ [entry]) = time records + entry.1.duration.toNat := by
  rw [time, List.map_append, List.sum_append, List.map_singleton, List.sum_singleton]
  rfl

/-- An outcome belongs to one class and no other. -/
theorem one_class (outcome : Except Failure Output) :
    (if isUnchanged outcome then 1 else 0) + (if isFormatted outcome then 1 else 0) +
      (if isRejected outcome then 1 else 0) + (if isFailed outcome then 1 else 0) = 1 := by
  cases outcome with
  | ok output =>
      obtain ⟨text, status⟩ := output
      cases status <;> rfl
  | error failure =>
      rw [isRejected, isFailed]
      cases failure.isRejection <;> rfl

theorem toNat_add {m n : UInt64} (room : m.toNat + n.toNat < UInt64.size) :
    (m + n).toNat = m.toNat + n.toNat := by
  rw [UInt64.toNat_add, Nat.mod_eq_of_lt room]

theorem toNat_succ {n : UInt64} (room : n.toNat + 1 < UInt64.size) :
    (n + 1).toNat = n.toNat + 1 :=
  toNat_add room

/-- Where there is room, counting an outcome adds one to the counter of its class. -/
theorem toNat_count {metrics : Metrics} {duration : UInt64} (room : metrics.Room duration)
    (outcome : Except Failure Output) :
    (metrics.count outcome).unchanged.toNat =
        metrics.unchanged.toNat + (if isUnchanged outcome then 1 else 0) ∧
      (metrics.count outcome).formatted.toNat =
        metrics.formatted.toNat + (if isFormatted outcome then 1 else 0) ∧
      (metrics.count outcome).errored.toNat =
        metrics.errored.toNat + (if isRejected outcome then 1 else 0) ∧
      (metrics.count outcome).failed.toNat =
        metrics.failed.toNat + (if isFailed outcome then 1 else 0) := by
  cases outcome with
  | ok output =>
      obtain ⟨text, status⟩ := output
      cases status with
      | unchanged => exact ⟨toNat_succ room.unchanged, rfl, rfl, rfl⟩
      | formatted => exact ⟨rfl, toNat_succ room.formatted, rfl, rfl⟩
  | error failure =>
      cases failure with
      | rejected report => exact ⟨rfl, rfl, toNat_succ room.errored, rfl⟩
      | _ => exact ⟨rfl, rfl, rfl, toNat_succ room.failed⟩

namespace Accounts

variable {metrics : Metrics} {records : List (Timing × Except Failure Output)}

theorem nil : Accounts {} [] := by
  constructor <;> rfl

/-- As long as the requests and the time can be counted, there is room for one more. -/
theorem room (accounts : metrics.Accounts records) {duration : UInt64}
    (few : records.length + 1 < UInt64.size)
    (brief : time records + duration.toNat < UInt64.size) : metrics.Room duration := by
  have calls := accounts.calls
  have classes := accounts.classes
  have next : (metrics.calls + 1).toNat = records.length + 1 := by
    rw [toNat_succ (by omega), calls]
  refine ⟨by omega, by omega, by omega, by omega, by omega, ?_, ?_⟩
  · rw [accounts.totalTime]
    exact brief
  · intro zero
    rw [zero] at next
    exact absurd next.symm (Nat.succ_ne_zero _)

/-- Recording a request accounts for it. -/
theorem record (accounts : metrics.Accounts records) {entry : Timing × Except Failure Output}
    (few : records.length + 1 < UInt64.size)
    (brief : time records + entry.1.duration.toNat < UInt64.size) :
    (metrics.record entry.1.duration entry.1.now entry.2).Accounts (records ++ [entry]) := by
  have room := accounts.room few brief
  obtain ⟨unchanged, formatted, errored, failed⟩ := toNat_count room entry.2
  have calls : (metrics.calls + 1).toNat = (records ++ [entry]).length := by
    rw [toNat_succ room.calls, accounts.calls, List.length_append, List.length_singleton]
  have totalTime : (metrics.totalTime + entry.1.duration).toNat = time (records ++ [entry]) := by
    rw [toNat_add room.totalTime, accounts.totalTime, time_concat]
  refine ⟨calls, ?_, ?_, ?_, ?_, ?_, totalTime, ?_⟩
  · rw [List.countP_append, List.countP_singleton, ← accounts.unchanged]
    exact unchanged
  · rw [List.countP_append, List.countP_singleton, ← accounts.formatted]
    exact formatted
  · rw [List.countP_append, List.countP_singleton, ← accounts.errored]
    exact errored
  · rw [List.countP_append, List.countP_singleton, ← accounts.failed]
    exact failed
  · have one := one_class entry.2
    have classes := accounts.classes
    have more := toNat_succ room.calls
    simp only [Metrics.record, unchanged, formatted, errored, failed, more]
    omega
  · simp only [Metrics.record, UInt64.toNat_div, totalTime, calls]

/-- The metrics of an instance account for all it has recorded. -/
theorem recordAll (few : records.length < UInt64.size) (brief : time records < UInt64.size) :
    (Metrics.recordAll {} records).Accounts records := by
  induction records using List.reverseRecOn with
  | nil => exact nil
  | append_singleton records entry ih =>
      rw [List.length_append, List.length_singleton] at few
      rw [time_concat] at brief
      rw [recordAll_append]
      exact record (ih (by omega) (by omega)) few brief

end Accounts

end FormatterHost.Metrics
