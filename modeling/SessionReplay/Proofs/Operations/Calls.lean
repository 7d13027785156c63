import SessionReplay.Operations

/-! Sequences of starts and completions on one assertion of the single operation.
The flag is decided by the last call and the reports by the flag before each call.
Overlaps and an open flag are counted against unmatched completions: every start
adds one to the balance and every completion takes one away, whatever the order. -/
namespace SessionReplay

namespace ErrorChannel

/-- Those of some reported violations that a channel keeps: all of them or none. -/
def kept (channel : ErrorChannel) (found : List Violation) : List Violation :=
  if channel.keeps then found else []

@[simp] theorem kept_nil (channel : ErrorChannel) : channel.kept [] = [] := by
  simp [kept]

theorem kept_append (channel : ErrorChannel) (found more : List Violation) :
    channel.kept (found ++ more) = channel.kept found ++ channel.kept more := by
  unfold kept
  split <;> simp

@[simp] theorem kept_collecting (found : List Violation) : collecting.kept found = found := rfl

end ErrorChannel

theorem Trail.violations_report (trail : Trail) (violation : Violation) :
    (trail.report violation).violations.toList =
      trail.violations.toList ++ trail.channel.kept [violation] := by
  unfold report ErrorChannel.kept
  split <;> simp

namespace Operations

def violations (operations : Operations) : List Violation := operations.trail.violations.toList

def channel (operations : Operations) : ErrorChannel := operations.trail.channel

section Calls
variable (operations : Operations)

@[simp] theorem channel_note (record : LogRecord) :
    (operations.note record).channel = operations.channel := rfl

@[simp] theorem inFlight_note (record : LogRecord) :
    (operations.note record).inFlight = operations.inFlight := rfl

@[simp] theorem violations_note (record : LogRecord) :
    (operations.note record).violations = operations.violations := rfl

@[simp] theorem channel_report (violation : Violation) :
    (operations.report violation).channel = operations.channel := rfl

@[simp] theorem inFlight_report (violation : Violation) :
    (operations.report violation).inFlight = operations.inFlight := rfl

@[simp] theorem violations_report (violation : Violation) :
    (operations.report violation).violations =
      operations.violations ++ operations.channel.kept [violation] :=
  operations.trail.violations_report violation

def reportAll (found : List Violation) : Operations := found.foldl report operations

@[simp] theorem channel_reportAll (found : List Violation) :
    (operations.reportAll found).channel = operations.channel := by
  induction found generalizing operations with
  | nil => rfl
  | cons violation rest ih => exact ih (operations.report violation)

@[simp] theorem inFlight_reportAll (found : List Violation) :
    (operations.reportAll found).inFlight = operations.inFlight := by
  induction found generalizing operations with
  | nil => rfl
  | cons violation rest ih => exact ih (operations.report violation)

@[simp] theorem violations_reportAll (found : List Violation) :
    (operations.reportAll found).violations =
      operations.violations ++ operations.channel.kept found := by
  induction found generalizing operations with
  | nil => simp [reportAll]
  | cons violation rest ih =>
    have later := ih (operations.report violation)
    rw [channel_report, violations_report, List.append_assoc,
      ← ErrorChannel.kept_append] at later
    exact later

/-- What one call reports, given whether an operation was open before it. -/
def breach (wasOpen : Bool) : Call → List Violation
  | .start => if wasOpen then [.overlappingOperation] else []
  | .finish => if wasOpen then [] else [.unmatchedCompletion]

def breaches : Bool → List Call → List Violation
  | _, [] => []
  | wasOpen, call :: rest => breach wasOpen call ++ breaches (call = .start) rest

/-- Whether an operation is open after calls: the last of them decides. -/
def isOpen (wasOpen : Bool) (calls : List Call) : Bool :=
  (calls.getLast?.map fun call => decide (call = .start)).getD wasOpen

def performAll (calls : List Call) : Operations := calls.foldl perform operations

@[simp] theorem channel_start : operations.start.channel = operations.channel := by
  unfold start channel
  split <;> rfl

@[simp] theorem channel_finish : operations.finish.channel = operations.channel := by
  unfold finish channel
  split <;> rfl

theorem violations_start : operations.start.violations =
    operations.violations ++ operations.channel.kept (breach operations.inFlight .start) := by
  unfold start violations channel
  cases operations.inFlight with
  | true => exact Trail.violations_report _ _
  | false => simp [Trail.note, breach]

theorem violations_finish : operations.finish.violations =
    operations.violations ++ operations.channel.kept (breach operations.inFlight .finish) := by
  unfold finish violations channel
  cases operations.inFlight with
  | true => simp [Trail.note, breach]
  | false => exact Trail.violations_report _ _

@[simp] theorem channel_perform (call : Call) :
    (operations.perform call).channel = operations.channel := by
  cases call <;> simp [perform]

@[simp] theorem inFlight_perform (call : Call) :
    (operations.perform call).inFlight = decide (call = .start) := by
  cases call <;> rfl

theorem violations_perform (call : Call) : (operations.perform call).violations =
    operations.violations ++ operations.channel.kept (breach operations.inFlight call) := by
  cases call with
  | start => exact operations.violations_start
  | finish => exact operations.violations_finish

end Calls

section Runs
variable (operations : Operations) (wasOpen : Bool)

@[simp] theorem isOpen_nil : isOpen wasOpen [] = wasOpen := rfl

theorem isOpen_cons (call : Call) (rest : List Call) :
    isOpen wasOpen (call :: rest) = isOpen (call = .start) rest := by
  unfold isOpen
  rw [List.getLast?_cons]
  cases rest.getLast? <;> rfl

theorem isOpen_append (calls more : List Call) :
    isOpen wasOpen (calls ++ more) = isOpen (isOpen wasOpen calls) more := by
  induction calls generalizing wasOpen with
  | nil => rfl
  | cons call rest ih => rw [List.cons_append, isOpen_cons, ih, isOpen_cons]

@[simp] theorem channel_performAll (calls : List Call) :
    (operations.performAll calls).channel = operations.channel := by
  induction calls generalizing operations with
  | nil => rfl
  | cons call rest ih => exact (ih _).trans (operations.channel_perform call)

theorem inFlight_performAll (calls : List Call) :
    (operations.performAll calls).inFlight = isOpen operations.inFlight calls := by
  induction calls generalizing operations with
  | nil => rfl
  | cons call rest ih =>
    rw [isOpen_cons, ← operations.inFlight_perform call]
    exact ih _

theorem violations_performAll (calls : List Call) : (operations.performAll calls).violations =
    operations.violations ++ operations.channel.kept (breaches operations.inFlight calls) := by
  induction calls generalizing operations with
  | nil => simp [performAll, breaches]
  | cons call rest ih =>
    have later := ih (operations.perform call)
    rw [channel_perform, inFlight_perform, violations_perform, List.append_assoc,
      ← ErrorChannel.kept_append] at later
    exact later

/-- Starts are answered by completions, unless the completion had nothing to complete;
what is left over are the overlaps and the operation that is still open. -/
theorem count_breaches (calls : List Call) :
    (breaches wasOpen calls).count .overlappingOperation + (isOpen wasOpen calls).toNat +
        calls.count .finish =
      (breaches wasOpen calls).count .unmatchedCompletion + wasOpen.toNat +
        calls.count .start := by
  induction calls generalizing wasOpen with
  | nil => simp [breaches]
  | cons call rest ih =>
    have later := ih (call = .start)
    rw [isOpen_cons, breaches, List.count_append, List.count_append]
    cases call <;> cases wasOpen <;> simp [breach] at later ⊢ <;> omega

/-- Calls report breaches of the single operation and nothing else. -/
theorem mem_breaches {found : Violation} {calls : List Call}
    (reported : found ∈ breaches wasOpen calls) :
    found = .overlappingOperation ∨ found = .unmatchedCompletion := by
  induction calls generalizing wasOpen with
  | nil => contradiction
  | cons call rest ih =>
    rcases List.mem_append.mp reported with now | later
    · cases call <;> cases wasOpen <;> simp_all [breach]
    · exact ih _ later

end Runs
end Operations
end SessionReplay
