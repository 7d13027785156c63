import SessionReplay.Trail

/-! The single-operation assertion. Each message or connect opens an operation that
should be completed before the next one opens. The contract is not enforced: the
flag is set and cleared all the same, and a breach is only reported. -/
namespace SessionReplay

/-- Whether an operation is open, and the trail to which breaches are reported. -/
structure Operations where
  inFlight : Bool := false
  trail : Trail
  deriving DecidableEq

namespace Operations

def idle (channel : ErrorChannel) : Operations := { trail := { channel } }

def note (operations : Operations) (record : LogRecord) : Operations :=
  { operations with trail := operations.trail.note record }

def report (operations : Operations) (violation : Violation) : Operations :=
  { operations with trail := operations.trail.report violation }

/-- Opens an operation; one that is open already is reported and replaced. -/
def start (operations : Operations) : Operations :=
  let noted := operations.trail.note (.operationStarted operations.inFlight)
  { inFlight := true
    trail := if operations.inFlight then noted.report .overlappingOperation else noted }

/-- Completes the open operation; a completion without one is reported. -/
def finish (operations : Operations) : Operations :=
  let noted := operations.trail.note (.operationEnded operations.inFlight)
  { inFlight := false
    trail := if operations.inFlight then noted else noted.report .unmatchedCompletion }

inductive Call where
  | start
  | finish
  deriving DecidableEq

def perform (operations : Operations) : Call → Operations
  | .start => operations.start
  | .finish => operations.finish

def describe (operations : Operations) : String :=
  s!"OperationSequencer \x7b in_progress: {operations.inFlight} \x7d"

@[simp] theorem start_inFlight (operations : Operations) : operations.start.inFlight = true :=
  rfl

@[simp] theorem finish_inFlight (operations : Operations) :
    operations.finish.inFlight = false :=
  rfl

end Operations
end SessionReplay
