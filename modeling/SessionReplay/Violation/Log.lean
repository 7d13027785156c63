import SessionReplay.LogRecord
import SessionReplay.Shared

/-! Logs that keep every reported violation for a later look, shared between their
handles. What is taken from a log is gone from it for all of them. -/
namespace SessionReplay

/-- The reported violations that were not taken yet, in order. -/
abbrev ViolationLog := Array Violation

namespace ViolationLog

def countKind (log : ViolationLog) (kind : ViolationKind) : Nat :=
  log.countP fun violation => violation.kind == kind

def countFatal (log : ViolationLog) : Nat := log.countP Violation.isFatal

end ViolationLog

inductive LogAction where
  | report (violation : Violation)
  /-- Adds a handle for the same log. -/
  | clone
  /-- Adds an independent log. -/
  | fresh
  | snapshot
  | take
  | countKind (kind : ViolationKind)
  | countFatal

inductive LogAnswer where
  | nothing
  | violations (violations : List Violation)
  | count (count : Nat)

structure LogBench where
  logs : Shared ViolationLog
  records : Array LogRecord := #[]

namespace LogBench

def initial : LogBench := { logs := .single #[] }

def log (bench : LogBench) (handle : Nat) : ViolationLog :=
  (bench.logs.get? handle).getD #[]

def report (bench : LogBench) (handle : Nat) (violation : Violation) : LogBench where
  logs := bench.logs.modify handle (·.push violation)
  records := bench.records.push (.violationRecorded violation)

def perform (bench : LogBench) (handle : Nat) : LogAction → LogBench × LogAnswer
  | .report violation => (bench.report handle violation, .nothing)
  | .clone => ({ bench with logs := bench.logs.clone handle }, .nothing)
  | .fresh => ({ bench with logs := bench.logs.fresh #[] }, .nothing)
  | .snapshot => (bench, .violations (bench.log handle).toList)
  | .take =>
    ({ bench with logs := bench.logs.modify handle fun _ => #[] },
      .violations (bench.log handle).toList)
  | .countKind kind => (bench, .count ((bench.log handle).countKind kind))
  | .countFatal => (bench, .count (bench.log handle).countFatal)

end LogBench
end SessionReplay
