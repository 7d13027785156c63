import SessionReplay.Dispatcher

/-! What is reported about one replay of a script. -/
namespace SessionReplay

structure Report where
  dispatched : Nat := 0
  /-- Messages and connects that the transport took. -/
  forwarded : Nat := 0
  refused : Nat := 0
  dropped : Nat := 0
  observed : Nat := 0
  /-- The connection ids that were taken, in order. -/
  connections : Array ConnectionId := #[]
  turns : Nat := 0
  /-- The counts that exceeded the limit, turn by turn. -/
  overLimit : List Nat := []
  finalTime : Word := 0
  /-- Everything that was reported, in order. -/
  violations : List Violation := []
  deriving DecidableEq

namespace Report

def isClean (report : Report) : Bool := report.violations.isEmpty

def record (report : Report) (outcome : Outcome) : Report :=
  let report := { report with dispatched := report.dispatched + 1 }
  match outcome with
  | .forwarded => { report with forwarded := report.forwarded + 1 }
  | .refused => { report with refused := report.refused + 1 }
  | .dropped => { report with dropped := report.dropped + 1 }
  | .observed => { report with observed := report.observed + 1 }

end Report
end SessionReplay
