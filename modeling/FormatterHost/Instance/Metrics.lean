import FormatterHost.Failure
import FormatterHost.Format.Request

/-!
# Metrics

An instance counts its requests by what became of them, and adds up the time they took.
-/

namespace FormatterHost

/-- Counters of the requests that an instance has served. -/
structure Metrics where
  calls : UInt64 := 0
  unchanged : UInt64 := 0
  formatted : UInt64 := 0
  /-- Requests that the plugin rejected. -/
  errored : UInt64 := 0
  /-- Requests that failed in any other way. -/
  failed : UInt64 := 0
  /-- The time spent in nanoseconds. -/
  totalTime : UInt64 := 0
  /-- The time per request in nanoseconds, rounded down. -/
  averageTime : UInt64 := 0
  /-- When the last request was recorded, in seconds. -/
  lastExecution : UInt64 := 0
deriving Repr, DecidableEq

namespace Metrics

/-- The counters with one more request in the class of its outcome. -/
def count (metrics : Metrics) : Except Failure Output → Metrics
  | .ok output =>
    match output.status with
    | .unchanged => { metrics with unchanged := metrics.unchanged + 1 }
    | .formatted => { metrics with formatted := metrics.formatted + 1 }
  | .error (.rejected _) => { metrics with errored := metrics.errored + 1 }
  | .error _ => { metrics with failed := metrics.failed + 1 }

/-- Records a request that took `duration` nanoseconds and ended at the time `now`. -/
def record (metrics : Metrics) (duration now : UInt64) (outcome : Except Failure Output) :
    Metrics :=
  let calls := metrics.calls + 1
  let totalTime := metrics.totalTime + duration
  { metrics.count outcome with
    calls, totalTime, averageTime := totalTime / calls, lastExecution := now }

def recordType : RecordType Metrics where
  title := "FormatMetrics"
  blank := {}
  fields := [
    .mandatory "call_count" .uint64 calls fun value m => { m with calls := value },
    .mandatory "unchanged_count" .uint64 unchanged fun value m => { m with unchanged := value },
    .mandatory "formatted_count" .uint64 formatted fun value m => { m with formatted := value },
    .mandatory "errored_count" .uint64 errored fun value m => { m with errored := value },
    .mandatory "failed_count" .uint64 failed fun value m => { m with failed := value },
    .mandatory "total_execution_time_ns" .uint64 totalTime
      fun value m => { m with totalTime := value },
    .mandatory "avg_execution_time_ns" .uint64 averageTime
      fun value m => { m with averageTime := value },
    .mandatory "last_execution" .uint64 lastExecution
      fun value m => { m with lastExecution := value }]

def schema : Schema Metrics :=
  recordType.schema

end Metrics

end FormatterHost
