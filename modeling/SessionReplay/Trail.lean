import SessionReplay.LogRecord

/-! The audit trail of a replay: the log, and the violations that were kept. Where
a reported violation goes depends on the error channel alone, so two trails that
differ in the channel differ only in the entries made for violations. -/
namespace SessionReplay

inductive ErrorChannel where
  /-- It is logged as an error and not kept. -/
  | logging
  /-- It is kept, and the log warns that it was. -/
  | collecting
  /-- It is kept without a word in the log. -/
  | silent
  deriving DecidableEq

namespace ErrorChannel

def keeps : ErrorChannel → Bool
  | logging => false
  | collecting | silent => true

/-- The record that a report leaves in the log. -/
def record? : ErrorChannel → Violation → Option LogRecord
  | logging, violation => some (.violationLogged violation)
  | collecting, violation => some (.violationRecorded violation)
  | silent, _ => none

end ErrorChannel

structure Trail where
  channel : ErrorChannel
  records : Array LogRecord := #[]
  violations : Array Violation := #[]
  deriving DecidableEq

namespace Trail

def note (trail : Trail) (record : LogRecord) : Trail :=
  { trail with records := trail.records.push record }

def report (trail : Trail) (violation : Violation) : Trail :=
  { trail with
    records := trail.records ++ (trail.channel.record? violation).toArray
    violations := if trail.channel.keeps then trail.violations.push violation else trail.violations }

end Trail
end SessionReplay
